import ColumnLineage.Proofs.Wrapping
/-
ColumnLineage/Proofs/SetOperands.lean

The walk of a tree of set operations. `UNION`, `INTERSECT` and `EXCEPT` open
a scope of their own, walk their two sides as scopes of kind `setOperand`,
then give the scope one output per output of the first side, reading, by
place, the output at the same place of each side (`setOutputs`). A
parenthesized query without a WITH clause walks its body in place, so a tree
of set operations combines the operands that `SetExpr.operands` lists, left
to right.

Every operand is walked while the scopes around it are the set operations
above it, which bind nothing until both their sides are walked; and no WITH
name is in reach. So the walk of an operand in the tree keeps pace with its
walk as a statement of its own (`operand_alone`, from `setExpr_sim`), and
leaves scopes matched with the scopes of that walk.

Main statement (`setExpr_fans`, and `detect_fans` for a statement): the walk
of the tree leaves an arena where the scope it answers fans in the operands
(`Fans`): a scope of a set operation reads its two sides place by place, and
each operand answered a scope matched with the outermost scope of its walk
alone, in scopes of its own.
-/

namespace ColumnLineage

open Run Detect Resolve

namespace Sql

/-- The operands a tree of set operations combines, left to right: a
parenthesized query without a WITH clause is looked through, anything else
is one operand. -/
def SetExpr.operands : SetExpr → List SetExpr
  | .setOp l _ _ r => l.operands ++ r.operands
  | .query (.mk _ [] body _) => body.operands
  | e => [e]

/-- A query body as a statement of its own. -/
def SetExpr.alone (e : SetExpr) : Statement := .query (.mk none [] e "")

end Sql


/-- The outputs of the query a detector walked: the fields of its outermost
scope. -/
def Detector.outputs (d : Detector) : List Field :=
  match d.root.bind d.arena.get? with
  | some root => root.fields
  | none => []

theorem Detector.outputs_of_root {d : Detector} {r : Nat} {S : Scope} (hr : d.root = some r)
    (hS : d.arena.get? r = some S) : d.outputs = S.fields := by
  simp only [Detector.outputs, hr, Option.bind_some, hS]

/-- An operand of a set operation as the walk of the tree met it, beside its
walk alone: its syntax, the scopes `lo` to `hi - 1` that its walk opened in
the tree, among them `root`, which it answered; the detector `alone` after
its walk as a statement of its own, whose outermost scope is `root'`; and
the matching of the scopes of the two walks. -/
structure Operand where
  body : Sql.SetExpr
  lo : Nat
  hi : Nat
  root : Nat
  root' : Nat
  matching : Renaming
  alone : Detector

namespace Operand

variable {cat : Catalog} {m : Nat} {A A' : ScopeArena} {op : Operand}

/-- The operand, met in the arena `A` of a tree walked under the catalog
`cat` and the limit `m`, walks alone too, as a statement, under the same
catalog and limit, into the detector `alone`: the scopes it answered in
either walk are matched, matched scopes agree on their outputs, no scope of
the tree but those of its own walk is matched, and the outputs of matched
scopes read only matched scopes but `root`. -/
structure Runs (cat : Catalog) (m : Nat) (A : ScopeArena) (op : Operand) : Prop where
  detect : (Detector.new cat m).detect op.body.alone = (.ok (), op.alone)
  root : op.alone.root = some op.root'
  matched : op.matching.map op.root = some op.root'
  scope : ∃ S, A.get? op.root = some S
  outputs : OutputsRel op.matching A op.alone.arena
  reads : ReadsWithin op.matching (Unwrapped op.matching op.root) A
  range : ∀ {j j'}, op.matching.map j = some j' → op.lo ≤ j ∧ j < op.hi
  target : op.alone.target = none

/-- Another arena with the same scopes where the operand's walk opened
them. -/
theorem Runs.mono (h : op.Runs cat m A)
    (hA : ∀ j, op.lo ≤ j → j < op.hi → A'.get? j = A.get? j) : op.Runs cat m A' :=
  { h with
    outputs := fun hij => by
      rw [hA _ (h.range hij).1 (h.range hij).2]
      exact h.outputs hij
    reads := fun hij hS => h.reads hij (by rw [← hA _ (h.range hij).1 (h.range hij).2]; exact hS)
    scope := by
      rw [hA _ (h.range h.matched).1 (h.range h.matched).2]
      exact h.scope }

/-- The scope of an operand in the tree and its outermost scope alone, with
outputs that agree under its matching. -/
theorem Runs.scopes_rel (h : op.Runs cat m A) :
    ∃ S S', A.get? op.root = some S ∧ op.alone.arena.get? op.root' = some S' ∧
      List.Forall₂ (FieldRel op.matching) S.fields S'.fields := by
  obtain ⟨S, hS⟩ := h.scope
  have hrel := h.outputs h.matched
  rw [hS] at hrel
  cases hS' : op.alone.arena.get? op.root' with
  | none =>
    rw [hS'] at hrel
    cases hrel
  | some S' =>
    rw [hS'] at hrel
    cases hrel with
    | some hfs => exact ⟨S, S', hS, rfl, hfs⟩

end Operand

/-- The outputs of a set operation read only the scopes of its two sides. -/
theorem setOutputs_pair_congr {A A' : ScopeArena} {l r : Nat} (hl : A'.get? l = A.get? l)
    (hr : A'.get? r = A.get? r) : setOutputs A' [l, r] = setOutputs A [l, r] := by
  simp only [setOutputs, List.head?_cons, Option.bind_some, List.filterMap_cons, List.filterMap_nil,
    hl, hr]

/-- The column a set operation reads from the output `g` at place `i` of its
side `op`. -/
def sideColumn (op : Nat) (g : Field) (i : Nat) : Field :=
  Field.ofColumn g.name { qualifier := none, column := g.name, position := some i, origin := .scope op }

section SetOutputs

variable {A : ScopeArena} {l r : Nat} {Sl Sr : Scope}

theorem setOutputs_pair_names (hl : A.get? l = some Sl) :
    (setOutputs A [l, r]).map Field.name = Sl.fields.map Field.name := by
  simp only [setOutputs, List.head?_cons, Option.bind_some, hl, List.map_map]
  conv_rhs => rw [← List.zipIdx_map_fst 0 Sl.fields, List.map_map]
  exact List.map_congr_left fun _ _ => rfl

theorem setOutputs_pair_length (hl : A.get? l = some Sl) :
    (setOutputs A [l, r]).length = Sl.fields.length := by
  rw [← List.length_map Field.name, setOutputs_pair_names hl, List.length_map]

/-- The output at place `i` of a set operation whose sides both have one
there: named after the first side's, it reads both by place. -/
theorem setOutputs_pair_getElem? (hl : A.get? l = some Sl) (hr : A.get? r = some Sr) {i : Nat}
    {fl fr : Field} (hfl : Sl.fields[i]? = some fl) (hfr : Sr.fields[i]? = some fr) :
    (setOutputs A [l, r])[i]? =
      some (.derived fl.name [sideColumn l fl i, sideColumn r fr i] .direct) := by
  simp only [setOutputs, List.head?_cons, Option.bind_some, hl, List.getElem?_map,
    List.getElem?_zipIdx, hfl, Option.map_some, List.filterMap_cons, List.filterMap_nil, hr, hfr,
    Nat.zero_add]
  rfl

end SetOutputs

/-- Every output of a set operation carries its inputs over as they are. -/
theorem process_of_mem_setOutputs {A : ScopeArena} {ops : List Nat} {f : Field}
    (h : f ∈ setOutputs A ops) : f.process = .direct := by
  unfold setOutputs at h
  split at h
  · cases h
  · obtain ⟨⟨g, i⟩, -, rfl⟩ := List.mem_map.mp h
    rfl

/-- In the arena `A` of a tree walked under the catalog `cat` and the limit
`m`, the scope `id` fans in the operands `ops`, left to right, and the scopes
from `lo` to `hi - 1` are those of the tree: `id` is the scope an operand
answered, or the scope `lo` of a set operation, whose outputs read, place by
place, those of its two sides. -/
inductive Fans (cat : Catalog) (m : Nat) (A : ScopeArena) :
    Nat → Nat → Nat → List Operand → Prop
  | operand {op : Operand} : op.Runs cat m A → Fans cat m A op.lo op.hi op.root [op]
  | node {lo mid hi l r : Nat} {S : Scope} {ops₁ ops₂ : List Operand} :
      A.get? lo = some S → S.fields = setOutputs A [l, r] →
      Fans cat m A (lo + 1) mid l ops₁ → Fans cat m A mid hi r ops₂ →
      Fans cat m A lo hi lo (ops₁ ++ ops₂)

namespace Fans

variable {cat : Catalog} {m : Nat} {A : ScopeArena} {lo hi id : Nat} {ops : List Operand}

/-- The scope of a tree and its operands' scopes lie among the tree's. -/
theorem bounds (h : Fans cat m A lo hi id ops) :
    lo ≤ id ∧ id < hi ∧ ∀ op ∈ ops, lo ≤ op.lo ∧ op.hi ≤ hi := by
  induction h with
  | operand hop =>
    obtain ⟨hlo, hhi⟩ := hop.range hop.matched
    refine ⟨hlo, hhi, fun op' hop' => ?_⟩
    rw [List.mem_singleton.mp hop']
    exact ⟨Nat.le_refl _, Nat.le_refl _⟩
  | node _ _ _ _ ih₁ ih₂ =>
    refine ⟨Nat.le_refl _, by omega, fun op hop => ?_⟩
    rcases List.mem_append.mp hop with hop | hop
    · have := ih₁.2.2 op hop
      omega
    · have := ih₂.2.2 op hop
      omega

/-- Another arena with the same scopes where the tree's walk opened them. -/
theorem mono (h : Fans cat m A lo hi id ops) {A' : ScopeArena}
    (hA : ∀ j, lo ≤ j → j < hi → A'.get? j = A.get? j) : Fans cat m A' lo hi id ops := by
  induction h with
  | operand hop => exact .operand (hop.mono hA)
  | node hS hf h₁ h₂ ih₁ ih₂ =>
    have b₁ := h₁.bounds
    have b₂ := h₂.bounds
    refine .node (by rw [hA _ (Nat.le_refl _) (by omega)]; exact hS) ?_
      (ih₁ fun j _ _ => hA j (by omega) (by omega)) (ih₂ fun j _ _ => hA j (by omega) (by omega))
    rw [hf]
    exact (setOutputs_pair_congr (hA _ (by omega) (by omega)) (hA _ (by omega) (by omega))).symm

theorem runs (h : Fans cat m A lo hi id ops) : ∀ op ∈ ops, op.Runs cat m A := by
  induction h with
  | operand hop =>
    intro op' h'
    rw [List.mem_singleton.mp h']
    exact hop
  | node _ _ _ _ ih₁ ih₂ =>
    intro op h'
    rcases List.mem_append.mp h' with h' | h'
    · exact ih₁ op h'
    · exact ih₂ op h'

theorem ne_nil (h : Fans cat m A lo hi id ops) : ops ≠ [] := by
  induction h with
  | operand _ => exact List.cons_ne_nil _ _
  | node _ _ _ _ ih₁ _ => exact List.append_ne_nil_of_left_ne_nil ih₁ _

/-- A tree of more than one operand is a set operation at its root. -/
theorem node_of_two (h : Fans cat m A lo hi id ops) (htwo : 1 < ops.length) :
    ∃ S l r, A.get? id = some S ∧ S.fields = setOutputs A [l, r] := by
  cases h with
  | operand => simp at htwo
  | node hS hfields _ _ => exact ⟨_, _, _, hS, hfields⟩

/-- Where every operand's scope has `w` outputs, so has the tree's. -/
theorem width (h : Fans cat m A lo hi id ops) {w : Nat} :
    (∀ op ∈ ops, ∃ S, A.get? op.root = some S ∧ S.fields.length = w) →
      ∃ S, A.get? id = some S ∧ S.fields.length = w := by
  induction h with
  | operand _ => exact fun hw => hw _ (List.mem_singleton_self _)
  | node hS hf _ _ ih₁ _ =>
    intro hw
    obtain ⟨Sl, hSl, hl⟩ := ih₁ fun op hop => hw op (List.mem_append_left _ hop)
    exact ⟨_, hS, by rw [hf, setOutputs_pair_length hSl, hl]⟩

/-- The outputs of the tree's scope are named as those of its first
operand's scope. -/
theorem names (h : Fans cat m A lo hi id ops) :
    ∀ op, ops.head? = some op → ∃ S S₁, A.get? id = some S ∧ A.get? op.root = some S₁ ∧
      S.fields.map Field.name = S₁.fields.map Field.name := by
  induction h with
  | operand hop =>
    intro op' h'
    cases h'
    obtain ⟨S, hS⟩ := hop.scope
    exact ⟨S, S, hS, hS, rfl⟩
  | node hS hf h₁ _ ih₁ _ =>
    intro op h'
    rw [List.head?_append_of_ne_nil _ h₁.ne_nil] at h'
    obtain ⟨Sl, S₁, hSl, hS₁, hnames⟩ := ih₁ op h'
    exact ⟨_, S₁, hS, hS₁, by rw [hf, setOutputs_pair_names hSl, hnames]⟩

end Fans


/-- A blind chain stays blind while the walk changes no scope that was
there. -/
theorem Blind.of_grows {d d' : Detector} (h : d.Grows Option.none d') {free : Nat → Prop} {c : Option Nat}
    (hb : Blind d.arena free c) : Blind d'.arena free c :=
  hb.transfer fun hp hf => ⟨hf, h.scopes _ hp (by simp)⟩

/-- A scope just opened, inside open scopes that bind nothing and are left
out of the matching, heads such a chain too. -/
theorem Blind.opened {A : ScopeArena} (h : Blind A Renaming.empty.FreeLeft A.current)
    (κ : ScopeKind) (α : Option String) :
    Blind (A.push (A.opened κ α)) Renaming.empty.FreeLeft (A.push (A.opened κ α)).current :=
  .scope ScopeArena.get?_push_self rfl rfl fun _ =>
    h.transfer fun hp hf => ⟨hf, ScopeArena.get?_push_of_lt hp⟩

/-- **An operand walked in place and alone.** An operand whose walk, from a
detector whose open scopes bind nothing and whose frames hold no WITH name,
answers `id`, walks alone too, as a statement under the same catalog and
limit, and the two walks leave matched scopes. -/
theorem operand_alone {T : Sql.SetExpr} {κ : ScopeKind} {s s₁ : Detector} {id : Nat} (hv : s.Valid)
    (hblind : Blind s.arena Renaming.empty.FreeLeft s.arena.current)
    (hframes : ∀ f ∈ s.frames, f = []) (h : (setExpr κ none T).run.run s = (.ok id, s₁)) :
    ∃ op : Operand, op.body = T ∧ op.lo = s.arena.size ∧ op.hi = s₁.arena.size ∧ op.root = id ∧
      op.Runs s.catalog s.arena.maxDepth s₁.arena := by
  -- the walk alone, from its detector once the frame of its WITH names is open
  let w : Detector :=
    { Detector.new s.catalog s.arena.maxDepth with inUse := true, frames := [[]] }
  have hw : w.Valid := (Detector.valid_start _ _).pushFrame
  have hst : s.InStep Renaming.empty 0 0 w :=
    { catalog := rfl
      scopes := fun _ _ h => by cases h
      shaped := hw.shaped
      stack := .nil
      depth := Nat.zero_le _
      outerLeft := hblind
      outerRight := .none
      frames := .nil
      frameDepth := Nat.zero_le _
      outerFramesLeft := hframes
      outerFramesRight := fun f hf => by simpa [w] using hf
      room := by simp [w, Detector.new, ScopeArena.empty] }
  obtain ⟨ρ, r', w₁, hy, hstep, hr, hans⟩ :=
    setExpr_sim false κ .query none none (.inr rfl) T Renaming.empty s w hv trivial hst id s₁ h
  rw [Sql.SetExpr.strip_false] at hy
  obtain ⟨-, hquiet, -⟩ := setExpr_keeps .query none T w r' w₁ hw trivial hy
  obtain ⟨d', hd', hroot, harena, htarget⟩ := @detect_of_runs s.catalog s.arena.maxDepth
    (.mk none [] T "") (fun d => d.root = some r' ∧ d.arena = w₁.arena ∧ d.target = none)
    (query_runs (Runs.pure (Runs.of_run hy ⟨hquiet.1.stack, rfl, rfl, hquiet.1.target⟩)))
  have hout : OutputsRel ρ s₁.arena w₁.arena := ScopesRel.outputs hstep.inStep.scopes
  obtain ⟨S, -, hS, -, -⟩ := hstep.inStep.scopes hr
  refine ⟨⟨T, s.arena.size, s₁.arena.size, id, r', ρ, d'⟩, rfl, rfl, rfl, rfl,
    ⟨hd', hroot, hr, ⟨S, hS⟩, harena ▸ hout, ?_, fun {j j'} hj => ?_, htarget⟩⟩
  · -- the operand's own scope is read by no output
    exact OutputsRel.readsWithin (Q := fun k => k ≠ id) hout fun hk heq => hans.2 (heq ▸ hk)
  · obtain ⟨S, -, hS, -, -⟩ := hstep.inStep.scopes hj
    exact ⟨hstep.adds.fresh hj rfl, ScopeArena.lt_size_of_get? hS⟩


/-- **The walk of a tree of set operations.** Walked from a detector whose
open scopes bind nothing and whose frames hold no WITH name, a tree of set
operations answers a scope that fans in its operands, from the scopes it
opened. -/
theorem setExpr_fans (T : Sql.SetExpr) : ∀ {κ : ScopeKind} {s s₁ : Detector} {id : Nat}, s.Valid →
    Blind s.arena Renaming.empty.FreeLeft s.arena.current → (∀ f ∈ s.frames, f = []) →
    (setExpr κ none T).run.run s = (.ok id, s₁) →
    ∃ ops, Fans s.catalog s.arena.maxDepth s₁.arena s.arena.size s₁.arena.size id ops ∧
      ops.map Operand.body = T.operands := by
  -- on the tree, as `SetExpr.operands` takes it apart
  induction T using Sql.SetExpr.operands.induct with
  | case1 l _ _ r ihl ihr =>
    intro κ s s₆ id hv hblind hframes h
    simp only [setExpr] at h
    obtain ⟨id, s₁, h₁, h⟩ := run_bind_ok h
    obtain ⟨rfl, rfl⟩ := enter_ok h₁
    obtain ⟨left, s₂, h₂, h⟩ := run_bind_ok h
    obtain ⟨hv₂, hq₂, -⟩ := setExpr_keeps .setOperand none l _ _ _ (hv.push κ none) trivial h₂
    obtain ⟨ops₁, hF₁, hops₁⟩ := ihl (hv.push κ none) (Blind.opened hblind κ none) hframes h₂
    obtain ⟨right, s₃, h₃, h⟩ := run_bind_ok h
    obtain ⟨hv₃, hq₃, -⟩ := setExpr_keeps .setOperand none r _ _ _ hv₂ trivial h₃
    -- the right side is walked with the left one closed, inside the same scope
    obtain ⟨ops₂, hF₂, hops₂⟩ := ihr hv₂
      (by rw [hq₂.1.current]; exact (Blind.opened hblind κ none).of_grows hq₂.1)
      (by rw [hq₂.2]; exact hframes) h₃
    obtain ⟨_, s₄, h₄, h⟩ := run_bind_ok h
    cases h₄
    obtain ⟨_, s₅, h₅, h⟩ := run_bind_ok h
    obtain ⟨_, s₆', h₆, h⟩ := run_bind_ok h
    cases h
    -- the set operation's own scope, changed to read its two sides place by place
    have hstack₃ : s₃.arena.stack = s.arena.size :: s.arena.stack := by
      rw [hq₃.1.stack, hq₂.1.stack]
      rfl
    rw [run_modifyScope] at h₅
    split at h₅
    · cases h₅
    rename_i hsome
    cases h₅
    rw [run_exit, ScopeArena.stack_modify, hstack₃] at h₆
    cases h₆
    obtain ⟨S₀, hS₀⟩ := Option.ne_none_iff_exists'.mp (by simpa using hsome)
    rw [hq₂.1.catalog, hq₂.1.maxDepth] at hF₂
    rw [ScopeArena.size_push] at hF₁
    have hb₁ := hF₁.bounds
    have hb₂ := hF₂.bounds
    have hsize₂ : s.arena.size + 1 ≤ s₂.arena.size := by simpa using hq₂.1.size
    refine ⟨ops₁ ++ ops₂, ?_, by rw [List.map_append, hops₁, hops₂]; rfl⟩
    show Fans _ _ _ _ (s₃.arena.modify _ _).size _ _
    rw [ScopeArena.size_modify]
    have hget : ∀ j, s.arena.size < j →
        (s₃.arena.modify s.arena.size fun S => { S with
          fields := setOutputs s₃.arena [left, right],
          bindings := S.bindings ++ [{ aliasName := none, target := .scope left },
            { aliasName := none, target := .scope right }] }).get? j = s₃.arena.get? j :=
      fun j hj => ScopeArena.get?_modify_of_ne _ _ _ (by omega)
    refine Fans.node (show (s₃.arena.modify _ _).get? _ = _ by
        rw [ScopeArena.get?_modify_self, hS₀]; rfl) ?_
      (hF₁.mono fun j h₁ h₂ => (hget j (by omega)).trans (hq₃.1.scopes j h₂ (by simp)))
      (hF₂.mono fun j h₁ _ => hget j (by omega))
    exact (setOutputs_pair_congr (hget _ (by omega)) (hget _ (by omega))).symm
  | case2 _ body _ ih =>
    intro κ s s₁ id hv hblind hframes h
    simp only [setExpr, query] at h
    obtain ⟨_, s₀, h₀, h⟩ := run_bind_ok h
    cases h₀
    obtain ⟨id', s₃, h₃, h⟩ := run_bind_ok h
    obtain ⟨_, s₂, h₂, h₃⟩ :=
      run_bind_ok (run_tryCatch_ok (fun e t => ⟨e, _, run_popFrame_throw e t⟩) h₃)
    cases h₂
    obtain ⟨ops, hF, hops⟩ := ih hv.pushFrame hblind (fun f hf => by
      rcases List.mem_cons.mp hf with rfl | hf
      · rfl
      · exact hframes f hf) h₃
    obtain ⟨_, s₄, h₄, h⟩ := run_bind_ok h
    cases h₄
    cases h
    exact ⟨ops, hF, hops⟩
  | case3 e hne₁ hne₂ =>
    -- anything else is one operand
    intro κ s s₁ id hv hblind hframes h
    obtain ⟨op, rfl, hlo, hhi, hroot, hop⟩ := operand_alone hv hblind hframes h
    have hops : op.body.operands = [op.body] := by
      unfold Sql.SetExpr.operands
      split
      · exact (hne₁ _ _ _ _ ‹_›).elim
      · exact (hne₂ _ _ _ ‹_›).elim
      · rfl
    refine ⟨[op], ?_, by rw [hops]; rfl⟩
    rw [← hlo, ← hhi, ← hroot]
    exact .operand hop

/-- **The walk of a statement over a tree of set operations.** A query
statement without a WITH clause whose body is `T` walks into a detector with
no target, whose outermost scope fans in the operands of `T`. -/
theorem detect_fans {cat : Catalog} {m : Nat} {recursive : Option Bool} {T : Sql.SetExpr}
    {tail : String} {d : Detector}
    (h : (Detector.new cat m).detect (.query (.mk recursive [] T tail)) = (.ok (), d)) :
    ∃ r ops, d.root = some r ∧ Fans cat m d.arena 0 d.arena.size r ops ∧
      ops.map Operand.body = T.operands ∧ d.target = none := by
  obtain ⟨r, s₁, hq, -, rfl⟩ := detect_query_run h
  obtain ⟨-, hquiet, -⟩ := query_keeps .query none _ _ r s₁ (Detector.valid_start cat m) trivial hq
  obtain ⟨ops, hF, hops⟩ := setExpr_fans (.query (.mk recursive [] T tail))
    (Detector.valid_start cat m) .none (fun f hf => by cases hf) hq
  exact ⟨r, ops, rfl, hF, hops, hquiet.1.target⟩

end ColumnLineage
