import ColumnLineage.Proofs.PairedLineage
import ColumnLineage.Proofs.Conditions
/-
ColumnLineage/Proofs/Wrapping.lean

A query read whole from around it. `SELECT * FROM (q) AS x` and
`WITH x AS (q) SELECT * FROM x` walk `q` as a scope of their own, then expand
the wildcard into one column per output of that scope, each read there by
its name and its place (`starColumns`). Followed to its sources, such a column
gives what the output at its place gives: the lookup by place chooses that
output, whose name the column carries.

The walk of `q` inside the wrapper keeps pace with the walk of `q` alone
(`query_sim`): the scopes it builds are matched, one scope deeper for a
derived table, and a limit one higher leaves it the same room. Nothing inside
`q` reads the scope `q` answers, so the lookups of the wrapper's columns keep
entries of their own in the table of found names, beside the entries the
walk of `q`'s outputs shares with the walk of `q` alone.

Main statement (`wrapped_query_lineage`): a query analysed without error
gives, wrapped either way and analysed with a limit one higher, no error and
its own lineage, entry for entry, with every transformation a wildcard.
-/

namespace ColumnLineage

open Run Detect Resolve

namespace Sql

/-- `SELECT * FROM from_`. -/
def Select.star (from_ : List TableWithJoins) : Select :=
  .mk "" [.wildcard none ""] "" from_ "" none "" none ""

/-- `SELECT * FROM (q) AS x`. -/
def Query.asDerived (q : Query) (x : String) : Statement :=
  .query (.mk none [] (.select (.star [.mk (.derived false q (some { name := { value := x } })) []]))
    "")

/-- `WITH x AS (q) SELECT * FROM x`. -/
def Query.asCte (q : Query) (x : String) : Statement :=
  .query (.mk (some false) [.mk { name := { value := x } } q none none]
    (.select (.star [.mk (.table [{ value := x }] "" none "") []])) "")

end Sql

/-- The column `SELECT *` reads for the output `f` at place `i` of the scope
`r` bound to `x`: under the output's name, at its place. -/
def starColumn (x : String) (r : Nat) (f : Field) (i : Nat) : Field :=
  Field.column f.name
    { qualifier := some { database := none, name := x }, column := f.name, position := some i,
      origin := .scope r }
    .wildcard

/-- The columns `SELECT *` reads from the scope `r` bound to `x` with outputs
`fs`, one per output. -/
def starColumns (x : String) (r : Nat) (fs : List Field) : List Field :=
  fs.zipIdx.map fun p => starColumn x r p.1 p.2

theorem starColumns_getElem? (x : String) (r : Nat) (fs : List Field) (i : Nat) :
    (starColumns x r fs)[i]? = fs[i]?.map fun f => starColumn x r f i := by
  simp only [starColumns, List.getElem?_map, List.getElem?_zipIdx, Option.map_map, Nat.zero_add]
  rfl

@[simp] theorem starColumns_names (x : String) (r : Nat) (fs : List Field) :
    (starColumns x r fs).map Field.name = fs.map Field.name := by
  have hname : (Field.name ∘ fun p : Field × Nat => starColumn x r p.1 p.2) =
      Field.name ∘ Prod.fst := rfl
  rw [starColumns, List.map_map, hname, ← List.map_map, List.zipIdx_map_fst]

/-! ### Runs that succeed -/

namespace Run

variable {ε σ α β : Type}

/-- Run from `s`, the step `x` succeeds, and `P` holds of its answer and the
state after. -/
def Runs (x : Step ε σ α) (s : σ) (P : α → σ → Prop) : Prop :=
  ∃ a s', x.run.run s = (.ok a, s') ∧ P a s'

namespace Runs

variable {x : Step ε σ α} {s : σ} {P Q : α → σ → Prop}

theorem of_run {s' : σ} {a : α} (h : x.run.run s = (.ok a, s')) (hP : P a s') : Runs x s P :=
  ⟨a, s', h, hP⟩

theorem mono (h : Runs x s P) (hPQ : ∀ a s', P a s' → Q a s') : Runs x s Q := by
  obtain ⟨a, s', h₁, hP⟩ := h
  exact ⟨a, s', h₁, hPQ a s' hP⟩

/-- A sequence succeeds when its first step does, and the rest from where it
left. -/
theorem bind {f : α → Step ε σ β} {P : β → σ → Prop} (h : Runs x s fun a s₁ => Runs (f a) s₁ P) :
    Runs (x >>= f) s P := by
  obtain ⟨a, s₁, h₁, b, s₂, h₂, hP⟩ := h
  exact ⟨b, s₂, by rw [run_bind_of_ok h₁]; exact h₂, hP⟩

theorem pure {a : α} (hP : P a s) : Runs (Pure.pure a : Step ε σ α) s P := of_run (run_pure a s) hP

theorem get {P : σ → σ → Prop} (hP : P s s) : Runs (get : Step ε σ σ) s P :=
  of_run (run_get s) hP

theorem modify {f : σ → σ} {P : Unit → σ → Prop} (hP : P () (f s)) :
    Runs (modify f : Step ε σ Unit) s P :=
  of_run (run_modify f s) hP

theorem tryCatch {h : ε → Step ε σ α} (hx : Runs x s P) : Runs (tryCatch x h) s P := by
  obtain ⟨a, s', h₁, hP⟩ := hx
  exact ⟨a, s', by rw [run_tryCatch, h₁], hP⟩

theorem ite_neg {c : Prop} [Decidable c] {y : Step ε σ α} (hc : ¬c) (hy : Runs y s P) :
    Runs (if c then x else y) s P := by
  rw [if_neg hc]
  exact hy

end Runs

end Run

/-! ### The steps of `SELECT *` over one scope -/

namespace Detect

variable {s : Detector}

theorem runs_enter {kind : ScopeKind} {aliasName : Option String} {P : Nat → Detector → Prop}
    (h : s.arena.stack.length < s.arena.maxDepth)
    (hP : P s.arena.size { s with arena := s.arena.push (s.arena.opened kind aliasName) }) :
    Runs (enter kind aliasName) s P :=
  Runs.of_run (by rw [run_enter, if_neg (Nat.not_le.mpr h)]) hP

theorem runs_exit (id : Nat) (rest : List Nat) {P : Nat → Detector → Prop}
    (h : s.arena.stack = id :: rest) (hP : P id { s with arena := { s.arena with stack := rest } }) :
    Runs exit s P :=
  Runs.of_run (by rw [run_exit, h]) hP

theorem runs_modifyScope {id : Nat} {S : Scope} {f : Scope → Scope} {P : Unit → Detector → Prop}
    (h : s.arena.get? id = some S) (hP : P () { s with arena := s.arena.modify id f }) :
    Runs (modifyScope id f) s P :=
  Runs.of_run (by rw [run_modifyScope, h]; rfl) hP

theorem runs_bind {id : Nat} {aliasName : Option String} {target : BindingTarget}
    {P : Unit → Detector → Prop} (h : s.arena.current = some id)
    (hP : P () { s with arena := s.arena.modify id fun c =>
      { c with bindings := c.bindings ++ [{ aliasName, target }] } }) :
    Runs (Detect.bind aliasName target) s P :=
  Runs.of_run (by rw [Detect.run_bind, h]) hP

theorem runs_expandWildcard {q : Option TableName} {S : Scope} {P : List Field → Detector → Prop}
    (h : s.arena.current.bind s.arena.get? = some S)
    (hP : P (wildcardFields s.catalog s.arena S q).1 { s with
      warnings := s.warnings ++ (wildcardFields s.catalog s.arena S q).2.map .unresolvedWildcard
      events := s.events ++ (wildcardFields s.catalog s.arena S q).2.map unexpandedEvent }) :
    Runs (expandWildcard q) s P :=
  Runs.of_run (by rw [run_expandWildcard, h]) hP

theorem runs_finalize {id : Nat} {P : Unit → Detector → Prop}
    (hP : P () { s with
      arena := (Bindings.finalize s.catalog s.arena id).1
      warnings := s.warnings ++ (Bindings.finalize s.catalog s.arena id).2.1
      events := s.events ++ (Bindings.finalize s.catalog s.arena id).2.2 }) :
    Runs (finalize id) s P :=
  Runs.of_run (run_finalize id s) hP

theorem runs_addCte {name : String} {id : Nat} {P : Unit → Detector → Prop}
    (hP : P () { s with frames := match s.frames with
      | [] => []
      | f :: fs => ((name, id) :: f) :: fs }) :
    Runs (addCte name id) s P :=
  Runs.of_run (run_addCte name id s) hP

theorem runs_lookupCte {t : TableName} {P : Option Nat → Detector → Prop}
    (hP : P (if t.database.isSome then none else s.frames.findSome? fun f => f.lookup t.name) s) :
    Runs (lookupCte t) s P :=
  Runs.of_run (run_lookupCte t s) hP

/-- `SELECT *` in a scope whose one binding is `x` for the scope `r` expands
into the columns of `r`, leaving nothing unexpanded. -/
theorem wildcardFields_scope {cat : Catalog} {A : ScopeArena} {S₀ S : Scope} {x : String} {r : Nat}
    (hb : S₀.bindings = [{ aliasName := some x, target := .scope r }]) (hS : A.get? r = some S) :
    wildcardFields cat A S₀ none = (starColumns x r S.fields, []) := by
  simp only [wildcardFields, wildcardBindings, wildcardStart, hb, List.isEmpty_cons,
    Bool.false_eq_true, if_false, List.foldl_cons, List.foldl_nil, expandBinding, hS,
    List.nil_append]
  rfl

end Detect

/-- Columns read by place are placed already: completing their scope keeps
them. -/
theorem placeFields_starColumns (cat : Catalog) (A : ScopeArena) (id : Nat) (x : String) (r : Nat)
    (fs : List Field) :
    Bindings.placeFields cat A id (starColumns x r fs) = (starColumns x r fs, [], []) := by
  have hplace : ∀ f ∈ starColumns x r fs, Bindings.placeField cat A id f = (f, [], []) := by
    intro f hf
    obtain ⟨p, -, rfl⟩ := List.mem_map.mp hf
    simp [starColumn, Bindings.placeField, Bindings.usingSides]
  generalize starColumns x r fs = l at hplace ⊢
  induction l with
  | nil => rfl
  | cons f l ih =>
    simp only [Bindings.placeFields, hplace f List.mem_cons_self,
      ih fun g hg => hplace g (List.mem_cons_of_mem _ hg), List.append_nil]

theorem finalize_starColumns {cat : Catalog} {A : ScopeArena} {id : Nat} {S : Scope} {x : String}
    {r : Nat} {fs : List Field} (hS : A.get? id = some S) (hf : S.fields = starColumns x r fs) :
    ∃ S₁, (Bindings.finalize cat A id).1.get? id = some S₁ ∧ S₁.fields = starColumns x r fs := by
  rw [Bindings.finalize_arena, hS]
  refine ⟨_, by rw [ScopeArena.get?_modify_self, hS]; rfl, ?_⟩
  show (Bindings.placeFields cat _ id S.fields).1 = _
  rw [hf, placeFields_starColumns]

/-- `w` is `v` once `SELECT *` completed and closed the scope `id₀` of `v`,
whose one binding is `x` for the scope `r'` with outputs `S'`: the scope has
one column per output of `r'`, and no other scope, frame or target changed. -/
structure Detector.Starred (v : Detector) (id₀ : Nat) (x : String) (r' : Nat) (S' : Scope)
    (w : Detector) : Prop where
  stack : w.arena.stack = v.arena.stack.tail
  fields : ∃ S₁, w.arena.get? id₀ = some S₁ ∧ S₁.fields = starColumns x r' S'.fields
  others : ∀ j, j ≠ id₀ → w.arena.get? j = v.arena.get? j
  frames : w.frames = v.frames
  target : w.target = v.target

/-- **`SELECT *` over one scope.** Run from `u`, `SELECT * FROM from_`
succeeds once its FROM clause does and binds only `x`, to a scope `r'`; it
answers its own scope, completed with one column per output of `r'`. -/
theorem select_star_runs {u : Detector} {from_ : List Sql.TableWithJoins}
    {P : Nat → Detector → Prop} (hroom : u.arena.stack.length < u.arena.maxDepth)
    (hfrom : Runs (fromClause from_) { u with arena := u.arena.push (u.arena.opened .query none) }
      fun _ v => ∃ x r' S₀ S', v.arena.stack = u.arena.size :: u.arena.stack ∧
        v.arena.get? u.arena.size = some S₀ ∧
        S₀.bindings = [{ aliasName := some x, target := .scope r' }] ∧ v.arena.get? r' = some S' ∧
        ∀ w, v.Starred u.arena.size x r' S' w → P u.arena.size w) :
    Runs (select .query none (.star from_)) u P := by
  simp only [select, Sql.Select.star, selectItems, selectItem, walkOpt]
  refine Runs.bind (Detect.runs_enter hroom (Runs.bind (hfrom.mono fun _ v hv => ?_)))
  obtain ⟨x, r', S₀, S', hstack, hS₀, hb, hS', hP⟩ := hv
  have hcur : v.arena.current.bind v.arena.get? = some S₀ := by
    simp [ScopeArena.current, hstack, hS₀]
  have hexp : wildcardFields v.catalog v.arena S₀ none = (starColumns x r' S'.fields, []) :=
    Detect.wildcardFields_scope hb hS'
  refine Runs.bind (Runs.bind (Detect.runs_expandWildcard hcur (Runs.bind (Runs.pure (Runs.pure ?_)))))
  refine Runs.bind (Detect.runs_modifyScope (S := S₀) (by exact hS₀) ?_)
  refine Runs.bind (Runs.pure (Runs.bind (Runs.pure (Runs.bind (Detect.runs_finalize ?_)))))
  dsimp only
  rw [hexp]
  -- the scope as the select list left it, then completed
  have hS₁ : (v.arena.modify u.arena.size fun s => { s with fields := starColumns x r' S'.fields ++ [] }).get?
      u.arena.size = some { S₀ with fields := starColumns x r' S'.fields ++ [] } := by
    rw [ScopeArena.get?_modify_self, hS₀]
    rfl
  refine Runs.bind (Detect.runs_exit u.arena.size u.arena.stack ?_ (Runs.pure (hP _ ⟨?_, ?_, ?_, rfl, rfl⟩)))
  · rw [Bindings.finalize_stack, ScopeArena.stack_modify, hstack]
  · rw [hstack]
    rfl
  · exact finalize_starColumns hS₁ (List.append_nil _)
  · intro j hj
    show (Bindings.finalize _ _ _).1.get? j = _
    rw [Bindings.finalize_get?_of_ne hj.symm, ScopeArena.get?_modify_of_ne _ _ _ hj.symm]

/-! ### The walk of a query statement -/

/-- A query whose WITH clause succeeds, and then its body, succeeds, with the
frame of its WITH names closed again. -/
theorem query_runs {u : Detector} {kind : ScopeKind} {aliasName : Option String}
    {recursive : Option Bool} {ctes : List Sql.Cte} {body : Sql.SetExpr} {tail : String}
    {P : Nat → Detector → Prop}
    (h : Runs (withClause ctes) { u with frames := [] :: u.frames } fun _ v =>
      Runs (setExpr kind aliasName body) v fun id w => P id { w with frames := w.frames.drop 1 }) :
    Runs (query kind aliasName (.mk recursive ctes body tail)) u P := by
  simp only [query]
  refine Runs.bind (Runs.of_run (run_pushFrame u) (Runs.bind (Runs.tryCatch (Runs.bind ?_))))
  exact h.mono fun _ v hv => hv.mono fun id w hw =>
    Runs.bind (Runs.of_run (run_popFrame w) (Runs.pure hw))

/-- The walk of a query statement from a fresh detector: the query walked
from the detector marked in use, with every scope closed, and recorded as
the root. -/
theorem detect_query_run {cat : Catalog} {m : Nat} {q : Sql.Query} {d : Detector}
    (h : (Detector.new cat m).detect (.query q) = (.ok (), d)) :
    ∃ r s₁, (query .query none q).run.run { Detector.new cat m with inUse := true } = (.ok r, s₁) ∧
      s₁.arena.stack = [] ∧ d = { s₁ with root := some r } := by
  simp only [Detector.detect, statement] at h
  rw [run_bind_of_ok (run_get _), if_neg (by simp [Detector.new])] at h
  obtain ⟨_, s₀, h₀, h⟩ := run_bind_ok h
  rw [run_modify] at h₀
  cases h₀
  obtain ⟨r, s₁, h₁, h⟩ := run_bind_ok h
  obtain ⟨_, s₂, h₂, h⟩ := run_bind_ok h
  rw [run_modify] at h₂
  cases h₂
  rw [run_bind_of_ok (run_get _)] at h
  split at h
  · cases h
  · rename_i hdepth
    cases h
    refine ⟨r, s₁, h₁, ?_, rfl⟩
    simpa [ScopeArena.depth] using hdepth

/-- The converse: a query that, walked from the detector marked in use,
closes every scope it opens makes a query statement walk. -/
theorem detect_of_runs {cat : Catalog} {m : Nat} {q : Sql.Query} {P : Detector → Prop}
    (h : Runs (query .query none q) { Detector.new cat m with inUse := true }
      fun r w => w.arena.stack = [] ∧ P { w with root := some r }) :
    ∃ d, (Detector.new cat m).detect (.query q) = (.ok (), d) ∧ P d := by
  have hr : Runs (statement (.query q)) (Detector.new cat m) fun _ d => P d := by
    simp only [statement]
    refine Runs.bind (Runs.get (Runs.ite_neg (by simp [Detector.new])
      (Runs.bind (Runs.modify (Runs.bind (h.mono fun r w hw => ?_))))))
    refine Runs.bind (Runs.modify (Runs.bind (Runs.get (Runs.ite_neg ?_ (Runs.pure hw.2)))))
    simp [ScopeArena.depth, hw.1]
  obtain ⟨_, d, hd, hP⟩ := hr
  exact ⟨d, hd, hP⟩

/-! ### The query walked inside its wrapper -/

/-- A detector with no scope open and no WITH name in reach is in step,
matching no scope, with a detector of the same catalog whose open scopes bind
nothing, whose frames hold no WITH name, and whose limit leaves as much room
past its open scopes. -/
theorem Detector.InStep.beside {s w : Detector} (hstack : s.arena.stack = [])
    (hframes : ∀ f ∈ s.frames, f = []) (hcat : w.catalog = s.catalog) (hshaped : w.arena.Shaped)
    (hblind : Blind w.arena Renaming.empty.FreeRight w.arena.stack.head?)
    (hframes' : ∀ f ∈ w.frames, f = [])
    (hroom : w.arena.stack.length + s.arena.maxDepth ≤ w.arena.maxDepth) :
    s.InStep Renaming.empty 0 0 w where
  catalog := hcat
  scopes _ _ h := by cases h
  shaped := hshaped
  stack := .nil
  depth := Nat.zero_le _
  outerLeft := by rw [hstack]; exact .none
  outerRight := hblind
  frames := .nil
  frameDepth := Nat.zero_le _
  outerFramesLeft := hframes
  outerFramesRight := hframes'
  room := by rw [hstack]; simpa using hroom

/-- **The query walked beside its walk alone.** Where the walk of `q` alone
answers `r` in `s₁`, the walk of `q` as a scope of kind `kind` from a detector
in step succeeds too, answering a scope `r'` matched with `r`; it leaves the
scopes that were there as they were. -/
theorem query_runs_beside {q : Sql.Query} {s s₁ w : Detector} {r : Nat}
    (hq : (query .query none q).run.run s = (.ok r, s₁)) (hv : s.Valid) (hw : w.Valid)
    (hst : s.InStep Renaming.empty 0 0 w) (kind : ScopeKind) (aliasName : Option String)
    {P : Nat → Detector → Prop}
    (hP : ∀ ρ r' w₁, Stepped Renaming.empty s 0 0 ρ s₁ w₁ → ρ.map r = some r' → s₁.Answered r →
      w.Quiet none w₁ → P r' w₁) :
    Runs (query kind aliasName q) w P := by
  obtain ⟨ρ, r', w₁, hy, hstep, hr, hans⟩ :=
    query_sim false .query kind none aliasName (.inr rfl) q Renaming.empty s w hv trivial hst r s₁ hq
  rw [Sql.Query.strip_false] at hy
  obtain ⟨-, hquiet, -⟩ := query_keeps kind aliasName q w r' w₁ hw trivial hy
  exact Runs.of_run hy (hP ρ r' w₁ hstep hr hans hquiet)

/-- `d'` read the query that `r` answers in `A` whole, bound to `x`: its
scopes agree with those of `A` on their outputs, `r` is matched with `r'`,
and the root of `d'` has one column per output of `r'`, read there by place. -/
structure Detector.Wraps (ρ : Renaming) (x : String) (A : ScopeArena) (r r' : Nat) (d' : Detector) :
    Prop where
  outputs : OutputsRel ρ A d'.arena
  matched : ρ.map r = some r'
  root : ∃ id₀ S₀ S', d'.root = some id₀ ∧ d'.arena.get? id₀ = some S₀ ∧
    d'.arena.get? r' = some S' ∧ S₀.fields = starColumns x r' S'.fields
  target : d'.target = none

/-- Outputs agree with an arena that keeps every matched scope of another. -/
theorem OutputsRel.of_get? {ρ : Renaming} {A A₁ A₂ : ScopeArena} (h : OutputsRel ρ A A₁)
    (h₂ : ∀ {i j}, ρ.map i = some j → A₂.get? j = A₁.get? j) : OutputsRel ρ A A₂ := by
  intro i j hij
  rw [h₂ hij]
  exact h hij

/-- The first scope of a blind chain is left out of the matching. -/
theorem Blind.free_of_some {A : ScopeArena} {free : Nat → Prop} {p : Nat} (h : Blind A free (some p)) :
    free p := by
  cases h with
  | scope _ hp _ _ => exact hp

/-- The walk of a query alone, from a fresh detector. -/
theorem Detector.valid_start (cat : Catalog) (m : Nat) :
    ({ Detector.new cat m with inUse := true } : Detector).Valid :=
  (Detector.valid_new cat m).of_arena rfl rfl

/-- **The derived-table wrapper.** Where the walk of `q` alone answers `r` in
`s₁`, the walk of `SELECT * FROM (q) AS x` with a limit one higher succeeds,
and reads the scope matched with `r` whole. -/
theorem detect_asDerived {cat : Catalog} {m : Nat} {q : Sql.Query} {x : String} {r : Nat}
    {s₁ : Detector}
    (hq : (query .query none q).run.run { Detector.new cat m with inUse := true } = (.ok r, s₁)) :
    ∃ ρ r' d', (Detector.new cat (m + 1)).detect (q.asDerived x) = (.ok (), d') ∧
      d'.Wraps ρ x s₁.arena r r' := by
  suffices h : ∃ d', (Detector.new cat (m + 1)).detect (q.asDerived x) = (.ok (), d') ∧
      ∃ ρ r', d'.Wraps ρ x s₁.arena r r' by
    obtain ⟨d', hd', ρ, r', hw⟩ := h
    exact ⟨ρ, r', d', hd', hw⟩
  refine detect_of_runs (query_runs ?_)
  simp only [withClause, setExpr]
  refine Runs.pure (select_star_runs (by simp [Detector.new, ScopeArena.empty]) ?_)
  simp only [fromClause, tableWithJoins, factor, joins]
  -- the wrapper's scope is open and binds nothing while the query is walked
  have hw : Detector.Valid { Detector.new cat (m + 1) with
      inUse := true, frames := [[]]
      arena := (Detector.new cat (m + 1)).arena.push
        ((Detector.new cat (m + 1)).arena.opened .query none) } :=
    (Detector.valid_start cat (m + 1)).pushFrame.push .query none
  refine Runs.bind (Runs.bind (Runs.bind (query_runs_beside hq (Detector.valid_start cat m) hw ?_
    .derived (some x) fun ρ r' w₁ hstep hr hans hquiet => ?_)))
  · refine Detector.InStep.beside rfl (fun _ h => by cases h) rfl hw.shaped
      (.scope ScopeArena.get?_push_self (fun _ h => by cases h) rfl fun _ => .none)
      (fun f hf => by simpa [Detector.new] using hf) ?_
    simp [Detector.new, ScopeArena.empty, Nat.add_comm]
  -- after the query: its answer is matched, and the wrapper's scope is as it was opened
  have hstack₁ : w₁.arena.stack = [(Detector.new cat (m + 1)).arena.size] := hquiet.1.stack
  have hfree : ρ.FreeRight (Detector.new cat (m + 1)).arena.size := by
    have hb := hstep.inStep.outerRight
    rw [hstack₁] at hb
    exact Blind.free_of_some hb
  obtain ⟨S, S', hS, hS', -⟩ := hstep.inStep.scopes hr
  have hr' : r' ≠ (Detector.new cat (m + 1)).arena.size := fun h => hfree r (h ▸ hr)
  have hopen : w₁.arena.get? (Detector.new cat (m + 1)).arena.size =
      some ((Detector.new cat (m + 1)).arena.opened .query none) := by
    rw [hquiet.1.scopes _ (by simp) (by simp)]
    exact ScopeArena.get?_push_self
  refine Detect.runs_bind (by rw [ScopeArena.current, hstack₁]; rfl) (Runs.pure (Runs.pure ?_))
  refine ⟨x, r', _, S', by rw [ScopeArena.stack_modify, hstack₁]; rfl,
    by rw [ScopeArena.get?_modify_self, hopen]; rfl, rfl,
    by rw [ScopeArena.get?_modify_of_ne _ _ _ hr'.symm, hS'], fun w hw => ?_⟩
  -- the wrapper, completed: its columns read the query's outputs
  have hget : ∀ j, j ≠ (Detector.new cat (m + 1)).arena.size → w.arena.get? j = w₁.arena.get? j :=
    fun j hj => (hw.others j hj).trans (ScopeArena.get?_modify_of_ne _ _ _ hj.symm)
  refine ⟨by rw [hw.stack, ScopeArena.stack_modify, hstack₁]; rfl, ρ, r', ⟨?_, hr, ?_, ?_⟩⟩
  · exact OutputsRel.of_get? (ScopesRel.outputs hstep.inStep.scopes) fun {i j} hij =>
      hget j fun h => hfree i (h ▸ hij)
  · obtain ⟨S₁, hS₁, hf⟩ := hw.fields
    exact ⟨_, S₁, S', rfl, hS₁, (hget r' hr').trans hS', hf⟩
  · show w.target = none
    rw [hw.target]
    exact hquiet.1.target

theorem detect_asCte {cat : Catalog} {m : Nat} {q : Sql.Query} {x : String} {r : Nat}
    {s₁ : Detector}
    (hq : (query .query none q).run.run { Detector.new cat m with inUse := true } = (.ok r, s₁)) :
    ∃ ρ r' d', (Detector.new cat (m + 1)).detect (q.asCte x) = (.ok (), d') ∧
      d'.Wraps ρ x s₁.arena r r' := by
  suffices h : ∃ d', (Detector.new cat (m + 1)).detect (q.asCte x) = (.ok (), d') ∧
      ∃ ρ r', d'.Wraps ρ x s₁.arena r r' by
    obtain ⟨d', hd', ρ, r', hw⟩ := h
    exact ⟨ρ, r', d', hd', hw⟩
  refine detect_of_runs (query_runs ?_)
  simp only [withClause]
  -- the body of the WITH name is walked first, beside no open scope
  have hw : Detector.Valid { Detector.new cat (m + 1) with inUse := true, frames := [[]] } :=
    (Detector.valid_start cat (m + 1)).pushFrame
  refine Runs.bind (query_runs_beside hq (Detector.valid_start cat m) hw ?_
    .cte (some x) fun ρ r' w₁ hstep hr hans hquiet => ?_)
  · refine Detector.InStep.beside rfl (fun _ h => by cases h) rfl hw.shaped .none
      (fun f hf => by simpa [Detector.new] using hf) ?_
    simp [Detector.new, ScopeArena.empty]
  have hstack₁ : w₁.arena.stack = [] := hquiet.1.stack
  have hframes₁ : w₁.frames = [[]] := hquiet.2
  obtain ⟨S, S', hS, hS', -⟩ := hstep.inStep.scopes hr
  refine Runs.bind (runs_addCte (Runs.pure ?_))
  simp only [hframes₁, setExpr]
  refine select_star_runs (by simp [hstack₁, hquiet.1.maxDepth, Detector.new, ScopeArena.empty]) ?_
  have hparts : TableName.ofParts [{ value := x }] = some { database := none, name := x } := rfl
  simp only [fromClause, tableWithJoins, factor, joins, hparts]
  refine Runs.bind (Runs.bind (Runs.bind (runs_lookupCte ?_)))
  simp only [Option.isSome_none, Bool.false_eq_true, if_false, List.findSome?_cons, List.lookup_cons,
    beq_self_eq_true]
  -- the star scope is opened after the WITH body, so every matched scope lies below it
  have hlt : ∀ {j} {S : Scope}, w₁.arena.get? j = some S → j < w₁.arena.size :=
    ScopeArena.lt_size_of_get?
  refine Runs.bind (Runs.pure (Detect.runs_bind rfl (Runs.pure (Runs.pure ?_))))
  refine ⟨x, r', _, S', by rw [ScopeArena.stack_modify]; rfl,
    by rw [ScopeArena.get?_modify_self, ScopeArena.get?_push_self]; rfl, rfl,
    by rw [ScopeArena.get?_modify_of_ne _ _ _ (Nat.ne_of_lt (hlt hS')).symm, ScopeArena.get?_push_of_lt (hlt hS'), hS'],
    fun w hw => ?_⟩
  -- the wrapper, completed: its columns read the WITH body's outputs
  have hget : ∀ {j} {S : Scope}, w₁.arena.get? j = some S → w.arena.get? j = w₁.arena.get? j :=
    fun hj => (hw.others _ (Nat.ne_of_lt (hlt hj))).trans ((ScopeArena.get?_modify_of_ne _ _ _ (Nat.ne_of_lt (hlt hj)).symm).trans
      (ScopeArena.get?_push_of_lt (hlt hj)))
  refine ⟨by rw [hw.stack, ScopeArena.stack_modify]; exact hstack₁, ρ, r', ⟨?_, hr, ?_, ?_⟩⟩
  · refine OutputsRel.of_get? (ScopesRel.outputs hstep.inStep.scopes) fun {i j} hij => ?_
    obtain ⟨-, S₂, -, hS₂, -⟩ := hstep.inStep.scopes hij
    exact hget hS₂
  · obtain ⟨S₁, hS₁, hf⟩ := hw.fields
    exact ⟨_, S₁, S', rfl, hS₁, (hget hS').trans hS', hf⟩
  · show w.target = none
    rw [hw.target]
    exact hquiet.1.target

/-! ### The wrapper's lineage -/

section Lineage

variable {ρ : Renaming}

theorem lookup_cons_of_ne {α β : Type} [BEq α] [LawfulBEq α] {a k : α} {b : β}
    {l : List (α × β)} (h : a ≠ k) : ((k, b) :: l).lookup a = l.lookup a := by
  rw [List.lookup_cons, beq_false_of_ne h]

theorem lookup_append_of_ne {α β : Type} [BEq α] [LawfulBEq α] {a : α} {l₁ l₂ : List (α × β)}
    (h : ∀ e ∈ l₁, e.1 ≠ a) : (l₁ ++ l₂).lookup a = l₂.lookup a := by
  induction l₁ with
  | nil => rfl
  | cons e l₁ ih =>
    obtain ⟨k, b⟩ := e
    rw [List.cons_append, lookup_cons_of_ne (Ne.symm (h _ List.mem_cons_self))]
    exact ih fun e he => h e (List.mem_cons_of_mem _ he)

theorem chooseField_at_place {fs : List Field} {f : Field} {i : Nat} (hf : fs[i]? = some f) :
    chooseField fs f.name (some i) = (some f, false) := by
  simp only [chooseField, Option.bind_some, hf, Option.filter_some, beq_self_eq_true, if_true]

theorem run_lookup_at_place {A : ScopeArena} {M depth id : Nat} {S : Scope} {f : Field} {i : Nat}
    (hS : A.get? id = some S) (hf : S.fields[i]? = some f) (hlim : ¬ M < depth) (σ : ResolverState) :
    (lookup A M depth id f.name (some i) hlim).run.run σ = (field A M depth f).run.run σ := by
  rw [lookup]
  simp only [hS, chooseField_at_place hf]
  rfl

theorem run_named_fresh {A : ScopeArena} {M depth id : Nat} {name : String} {position : Option Nat}
    {σ σ₁ : ResolverState} {res : SourceSet} (hfresh : σ.found.lookup (id, name, position) = none)
    (hlim : ¬ M < depth)
    (h : (lookup A M depth id name position hlim).run.run σ = (.ok res, σ₁)) :
    (named A M depth id name position).run.run σ =
      (.ok res, { σ₁ with found := ((id, name, position), res) :: σ₁.found }) := by
  rw [named, run_bind_of_ok (run_get σ)]
  simp only [hfresh]
  rw [dif_neg hlim, run_bind_of_ok h, run_bind_of_ok (run_modify _ _)]
  rfl

theorem run_starColumn {A : ScopeArena} {m : Nat} {x : String} {r' : Nat} {S' : Scope} {f : Field}
    {i : Nat} (hS' : A.get? r' = some S') (hf : S'.fields[i]? = some f) {σ σ₁ : ResolverState}
    {res : SourceSet} (hfresh : σ.found.lookup (r', f.name, some i) = none)
    (h : (field A (m + 1) 1 f).run.run σ = (.ok res, σ₁)) :
    (sourcesOf A (m + 1) (starColumn x r' f i)).run.run σ =
      (.ok res, { σ₁ with found := ((r', f.name, some i), res) :: σ₁.found }) := by
  have hlim : ¬ m + 1 < 0 + 1 := by omega
  simp only [sourcesOf, starColumn, field]
  exact run_named_fresh hfresh hlim ((run_lookup_at_place hS' hf hlim σ).trans h)

/-- The scopes whose entries the two tables of found names share: the matched
scopes but the query's own scope `r`. -/
def Unwrapped (ρ : Renaming) (r : Nat) (i : Nat) : Prop := (∃ j, ρ.map i = some j) ∧ i ≠ r

/-- The tables of found names of the query alone and of its wrapper, before
the wrapper's column at place `k` is followed: they agree on the matched
scopes but `r`, and the wrapper's holds nothing yet for the places of `r'`
from `k` on. -/
structure WrapTables (ρ : Renaming) (r r' k : Nat) (σ σ' : ResolverState) : Prop where
  agree : FoundRel ρ (Unwrapped ρ r) σ.found σ'.found
  fresh : ∀ name j, k ≤ j → σ'.found.lookup (r', name, some j) = none

theorem WrapTables.empty (ρ : Renaming) (r r' : Nat) : WrapTables ρ r r' 0 {} {} :=
  ⟨fun _ _ _ _ => rfl, fun _ _ _ => rfl⟩

/-- An entry the walk of a matched field adds to the wrapper's table is not
for the scope `r'` matched with `r`. -/
theorem Grown.ne_wrapped {σ σ₁ σ' σ₁' : ResolverState} {r r' : Nat} (hr : ρ.map r = some r')
    (hg : Grown ρ (Unwrapped ρ r) σ σ₁ σ' σ₁') :
    ∃ new', σ₁'.found = new' ++ σ'.found ∧ ∀ e ∈ new', e.1.1 ≠ r' := by
  obtain ⟨new, new', -, h₁', hnew, hK⟩ := hg
  refine ⟨new', h₁', ?_⟩
  clear h₁'
  -- each new entry of the wrapper's table stands beside one for an unwrapped scope
  induction hnew with
  | nil => exact fun _ he => absurd he List.not_mem_nil
  | @cons e e' _ _ hee' _ ih =>
    intro e₁ he₁ heq
    rcases List.mem_cons.mp he₁ with rfl | he₁
    · have hmap : ρ.map e.1.1 = some r' := heq ▸ hee'.1
      exact (hK e List.mem_cons_self).2 (ρ.injective hmap hr)
    · exact ih (fun e he => hK e (List.mem_cons_of_mem _ he)) e₁ he₁ heq

variable {A A' : ScopeArena} {m : Nat}

/-- **One column of the wrapper.** The column at place `i` of the wrapper
gives the sources of the output at place `i` of the query alone, from tables
in step, and leaves them in step for the next place. -/
theorem WrapTables.step {x : String} {r r' : Nat} {S S' : Scope} (hA : OutputsRel ρ A A')
    (hK : ReadsWithin ρ (Unwrapped ρ r) A) (hr : ρ.map r = some r') (hS : A.get? r = some S)
    (hS' : A'.get? r' = some S') (hfs : List.Forall₂ (FieldRel ρ) S.fields S'.fields) {i : Nat}
    {f f' : Field} (hf : S.fields[i]? = some f) (hf' : S'.fields[i]? = some f')
    {σ σ' σ₁ : ResolverState} {res : SourceSet} (hI : WrapTables ρ r r' i σ σ')
    (h : (sourcesOf A m f).run.run σ = (.ok res, σ₁)) :
    ∃ σ₁', (sourcesOf A' (m + 1) (starColumn x r' f' i)).run.run σ' = (.ok res, σ₁') ∧
      WrapTables ρ r r' (i + 1) σ₁ σ₁' := by
  have hrel : FieldRel ρ f f' := Forall₂.rel_of_getElem? hfs hf hf'
  -- the output at place `i`, read one level deeper under a limit one higher
  have hfollow := field_follows hA hK (by omega : m + 1 ≤ m + 1 + 0) f f' hrel
    fun k hk => hK.of_mem hr hS (List.mem_of_getElem? hf) hk
  obtain ⟨σ₁'', hy, hg⟩ := hfollow σ σ' res σ₁ hI.agree h
  have hfresh := hI.fresh f'.name i (Nat.le_refl i)
  refine ⟨_, run_starColumn hS' hf' hfresh hy, ?_, ?_⟩
  · -- the entry for `r'` is none of the shared ones
    intro i₀ j₀ hi₀ hij₀ name position
    have hj₀ : (j₀, name, position) ≠ (r', f'.name, some i) := by
      intro heq
      obtain ⟨rfl, -⟩ := Prod.mk.inj heq
      exact hi₀.2 (ρ.injective hij₀ hr)
    rw [lookup_cons_of_ne hj₀]
    exact FoundRel.grow hI.agree hg hi₀ hij₀ name position
  · intro name j hj
    have hne : (r', name, some j) ≠ (r', f'.name, some i) := by
      intro heq
      simp only [Prod.mk.injEq, Option.some.injEq] at heq
      omega
    obtain ⟨new', hnew', hne'⟩ := Grown.ne_wrapped hr hg
    rw [lookup_cons_of_ne hne, hnew', lookup_append_of_ne fun e he heq => hne' e he (by rw [heq])]
    exact hI.fresh name j (by omega)

/-- The wrapper's columns, beside outputs as many, all transform as a
wildcard. -/
theorem forall₂_starColumns (x : String) (r : Nat) {fs gs : List Field}
    (h : fs.length = gs.length) :
    List.Forall₂ (fun _ c => c.process = .wildcard) fs (starColumns x r gs) := by
  rw [List.forall₂_iff_get]
  refine ⟨by simp [starColumns, h], fun i _ h₂ => ?_⟩
  obtain ⟨p, -, hp⟩ := List.mem_map.mp (List.get_mem (starColumns x r gs) ⟨i, h₂⟩)
  rw [← hp]
  rfl

/-- **The wrapper's lineage.** A query answered by the scope `r` of `A`,
which none of its outputs reads, whose outputs are followed without error to
the lineage `L`; a wrapper that reads it whole, walked under a limit one
higher: its analysis reports no error either, and gives `L` with every
transformation a wildcard. -/
theorem lineage_of_wraps {cat : Catalog} {m idx : Nat} {x : String} {st' : Sql.Statement}
    {r r' : Nat} {A : ScopeArena} {d' : Detector} {S : Scope} {L : List TargetLineage}
    {σ : ResolverState} (hans : ¬ A.Reads r) (hS : A.get? r = some S)
    (hres : (resolveOutputs A m none (S.fields.zip (S.fields.map Field.name))).run.run {} =
      (.ok (L, none), σ))
    (hd' : (Detector.new cat (m + 1)).detect st' = (.ok (), d')) (hw : d'.Wraps ρ x A r r') :
    (analyzeStatement cat (m + 1) idx st').error = none ∧
      (analyzeStatement cat (m + 1) idx st').lineage =
        L.map fun e => { e with transformation := .wildcard } := by
  obtain ⟨id₀, S₀, S', hroot, hS₀, hS', hcols⟩ := hw.root
  -- the query's scope and the one the wrapper reads agree output for output
  have hfs : List.Forall₂ (FieldRel ρ) S.fields S'.fields := by
    have h := hw.outputs hw.matched
    rw [hS, hS'] at h
    cases h with
    | some h => exact h
  have hK : ReadsWithin ρ (Unwrapped ρ r) A :=
    OutputsRel.readsWithin (Q := fun k => k ≠ r) hw.outputs fun hk heq => hans (heq ▸ hk)
  have hnames : S₀.fields.map Field.name = S.fields.map Field.name := by
    have h := congrArg Prod.fst (targetNames_rel hfs none)
    rw [hcols, starColumns_names]
    simpa only [targetNames] using h
  -- the wrapper's columns, followed in turn, keep the tables in step
  have hzip := Forall₂.zip_names (forall₂_starColumns x r' hfs.length_eq) (S.fields.map Field.name)
  rw [← hcols] at hzip
  have hstep : ∀ i a b, (S.fields.zip (S.fields.map Field.name))[i]? = some a →
      (S₀.fields.zip (S.fields.map Field.name))[i]? = some b → ∀ τ τ' res τ₁,
        WrapTables ρ r r' (0 + i) τ τ' → (sourcesOf A m a.1).run.run τ = (.ok res, τ₁) →
        ∃ τ₁', (sourcesOf d'.arena (m + 1) b.1).run.run τ' = (.ok res, τ₁') ∧
          WrapTables ρ r r' (0 + i + 1) τ₁ τ₁' := by
    intro i a b ha hb τ τ' res τ₁ hI hx
    obtain ⟨hf, -⟩ := List.getElem?_zip_eq_some.mp ha
    obtain ⟨hc, -⟩ := List.getElem?_zip_eq_some.mp hb
    rw [hcols, starColumns_getElem?] at hc
    obtain ⟨f', hf', hbf⟩ := Option.map_eq_some_iff.mp hc
    rw [← hbf, Nat.zero_add]
    rw [Nat.zero_add] at hI
    exact hI.step hw.outputs hK hw.matched hS hS' hfs hf hf' hx
  obtain ⟨σ', hres'⟩ := resolveOutputs_of_steps (fun _ => .wildcard) 0 hzip hstep {} {} L σ
    (WrapTables.empty ρ r r') hres
  have hroot' : d'.root.bind d'.arena.get? = some S₀ := by
    rw [hroot]
    exact hS₀
  have hn : targetNames S₀.fields d'.target = (S.fields.map Field.name, none) := by
    rw [hw.target, targetNames, hnames]
  have htable : d'.target.bind (·.table) = none := by
    rw [hw.target]
    rfl
  rw [← htable] at hres'
  exact analyzeStatement_of_ok hd' hroot' hn hres'

end Lineage

/-- **A query read whole is transparent.** A query statement analysed without
error under the limit `m` gives, read whole as a derived table
(`SELECT * FROM (q) AS x`) or as a WITH name (`WITH x AS (q) SELECT * FROM x`)
and analysed under `m + 1`, no error and its own lineage, entry for entry:
the same targets and sources, every transformation a wildcard. -/
theorem wrapped_query_lineage (cat : Catalog) (m idx : Nat) (q : Sql.Query) (x : String)
    (h : (analyzeStatement cat m idx (.query q)).error = none) :
    ((analyzeStatement cat (m + 1) idx (q.asDerived x)).error = none ∧
      (analyzeStatement cat (m + 1) idx (q.asDerived x)).lineage =
        (analyzeStatement cat m idx (.query q)).lineage.map
          fun e => { e with transformation := .wildcard }) ∧
    ((analyzeStatement cat (m + 1) idx (q.asCte x)).error = none ∧
      (analyzeStatement cat (m + 1) idx (q.asCte x)).lineage =
        (analyzeStatement cat m idx (.query q)).lineage.map
          fun e => { e with transformation := .wildcard }) := by
  obtain ⟨d, root, names, σ, hd, hroot, hn, hres⟩ := analyzeStatement_ok h
  obtain ⟨r, s₁, hq, -, rfl⟩ := detect_query_run hd
  -- the query alone answers `r`, which none of its scopes reads, and has no target
  obtain ⟨-, hquiet, hans⟩ :=
    query_keeps .query none q _ r s₁ (Detector.valid_start cat m) trivial hq
  have htarget : s₁.target = none := hquiet.1.target
  have hS : s₁.arena.get? r = some root := hroot
  have hnames : names = root.fields.map Field.name := by
    simp only [htarget, targetNames, Prod.mk.injEq] at hn
    exact hn.1.symm
  subst hnames
  simp only [htarget, Option.bind_none] at hres
  obtain ⟨ρ, r', d', hd', hw⟩ := detect_asDerived (x := x) hq
  obtain ⟨ρ₂, r₂, d₂, hd₂, hw₂⟩ := detect_asCte (x := x) hq
  exact ⟨lineage_of_wraps hans.2 hS hres hd' hw, lineage_of_wraps hans.2 hS hres hd₂ hw₂⟩

/-- `SELECT a FROM t`. -/
def selectAFromT : Sql.Query :=
  .mk none [] (.select (.mk "" [.expr (.identifier { value := "a" }) none] ""
    [.mk (.table [{ value := "t" }] "" none "") []] "" none "" none "")) ""

/-- `SELECT a FROM t` reports no error under the limit 1; read whole as `x`,
either way, it reports none under the limit 2 and gives its own lineage. -/
theorem selectAFromT_wrapped :
    (analyzeStatement {} 1 0 (.query selectAFromT)).error = none ∧
      ((analyzeStatement {} 2 0 (selectAFromT.asDerived "x")).error = none ∧
        (analyzeStatement {} 2 0 (selectAFromT.asDerived "x")).lineage =
          (analyzeStatement {} 1 0 (.query selectAFromT)).lineage.map
            fun e => { e with transformation := .wildcard }) ∧
      ((analyzeStatement {} 2 0 (selectAFromT.asCte "x")).error = none ∧
        (analyzeStatement {} 2 0 (selectAFromT.asCte "x")).lineage =
          (analyzeStatement {} 1 0 (.query selectAFromT)).lineage.map
            fun e => { e with transformation := .wildcard }) := by
  have h : (analyzeStatement {} 1 0 (.query selectAFromT)).error = none :=
    @Resolve.Bounded.error_eq_none_of_lineageOf 8 _ _ _ (by decide +kernel) 0
  exact ⟨h, wrapped_query_lineage {} 1 0 selectAFromT "x" h⟩

end ColumnLineage
