import ColumnLineage.Proofs.SetOperands
import ColumnLineage.Proofs.Derivation
/-
ColumnLineage/Proofs/SetOperationLineage.lean

The lineage of a tree of set operations. The output at place `i` of a set
operation reads the output at place `i` of each of its sides, by name and
place (`setOutputs`), and its sources are those of both together. Down the
tree, output `i` of the tree's scope gives the sources that output `i` of
every operand gives (`Fans.fansInAt`). Each operand's outputs are followed
in the tree as in its walk alone, from tables that agree on its own scopes
(`Operand.Agrees`): the tree stores entries only for its own scopes, inner
to an operand or at the place being followed, where no operand looks
(`AddedAt`, `Before`).

Main statement (`setOperation_lineage_fanIn`): a query without a WITH clause
whose body is a tree of set operations over operands of one width, and whose
analysis reports no error, has one entry per output, named after the first
operand's output and carrying its inputs over as they are, with the sources
of the same entry of every operand analysed alone, together. Parenthesized
queries without a WITH clause are looked through; one with a WITH clause of
its own is one operand, whose operands read its WITH names
(`ownCte_operand_reads_its_ctes`).
-/

namespace ColumnLineage

open Run Detect Resolve

/-! ### Lists related element by element -/

theorem Forall₂.exists_of_mem_left {α β : Type} {R : α → β → Prop} {l₁ : List α} {l₂ : List β}
    (h : List.Forall₂ R l₁ l₂) {a : α} (ha : a ∈ l₁) : ∃ b ∈ l₂, R a b := by
  induction h with
  | nil => cases ha
  | cons hab _ ih =>
    rcases List.mem_cons.mp ha with rfl | ha
    · exact ⟨_, List.mem_cons_self, hab⟩
    · obtain ⟨b, hb, hr⟩ := ih ha
      exact ⟨b, List.mem_cons_of_mem _ hb, hr⟩

theorem Forall₂.imp_of_mem {α β : Type} {R S : α → β → Prop} {l₁ : List α} {l₂ : List β}
    (hRS : ∀ a ∈ l₁, ∀ b, R a b → S a b) (h : List.Forall₂ R l₁ l₂) : List.Forall₂ S l₁ l₂ := by
  induction h with
  | nil => exact .nil
  | cons hab _ ih =>
    exact .cons (hRS _ List.mem_cons_self _ hab)
      (ih fun a ha b hr => hRS a (List.mem_cons_of_mem _ ha) b hr)

theorem Forall₂.zipWith_cons {α β : Type} {R : α → β → Prop} {S T : α → List β → Prop}
    {l : List α} {us : List β} {uss : List (List β)} (h₁ : List.Forall₂ R l us)
    (h₂ : List.Forall₂ S l uss) (hT : ∀ a ∈ l, ∀ u us, R a u → S a us → T a (u :: us)) :
    List.Forall₂ T l (List.zipWith List.cons us uss) := by
  induction h₁ generalizing uss with
  | nil =>
    cases h₂
    exact .nil
  | cons hr _ ih =>
    cases h₂ with
    | cons hs h₂ =>
      exact .cons (hT _ List.mem_cons_self _ _ hr hs)
        (ih h₂ fun a ha => hT a (List.mem_cons_of_mem _ ha))

/-! ### Tables that agree on an operand's scopes -/

namespace Operand

/-- The table `τ` of the operand's walk alone agrees with the table `σ` of
the tree on every scope inner to the operand, under its matching. -/
structure Agrees (op : Operand) (σ τ : ResolverState) : Prop where
  found : FoundRel op.matching (Unwrapped op.matching op.root) σ.found τ.found

/-- Followed alone from any table that agrees with `σ`, the operand's output
at place `i` gives `u`, and leaves a table that agrees with `σ₁`. -/
def Gives (m i : Nat) (σ σ₁ : ResolverState) (op : Operand) (u : SourceSet) : Prop :=
  ∀ f', op.alone.outputs[i]? = some f' → ∀ τ, op.Agrees σ τ →
    ∃ τ₁, (sourcesOf op.alone.arena m f').run.run τ = (.ok u, τ₁) ∧ op.Agrees σ₁ τ₁

variable {op : Operand} {m i : Nat} {σ σ₁ σ₂ τ : ResolverState} {u : SourceSet}

/-- Entries added for scopes not inner to the operand change nothing it
sees. -/
theorem agrees_iff_of_append {new : List ((Nat × String × Option Nat) × SourceSet)}
    (hσ : σ₁.found = new ++ σ.found) (hnew : ∀ e ∈ new, ¬ Unwrapped op.matching op.root e.1.1) :
    op.Agrees σ₁ τ ↔ op.Agrees σ τ := by
  -- an entry for an inner scope is found in both tables or in neither
  have hkey : ∀ {j} name position, Unwrapped op.matching op.root j →
      σ₁.found.lookup (j, name, position) = σ.found.lookup (j, name, position) := by
    intro j name position hj
    rw [hσ]
    exact lookup_append_of_ne fun e he heq => hnew e he (by rw [heq]; exact hj)
  constructor
  · intro h
    refine ⟨fun hj hjj' name position => ?_⟩
    rw [← hkey name position hj]
    exact h.found hj hjj' name position
  · intro h
    refine ⟨fun hj hjj' name position => ?_⟩
    rw [hkey name position hj]
    exact h.found hj hjj' name position

theorem Gives.weaken (h : op.Gives m i σ σ₁ u) (hpre : ∀ τ, op.Agrees σ₂ τ → op.Agrees σ τ)
    {σ₃ : ResolverState} (hpost : ∀ τ, op.Agrees σ₁ τ → op.Agrees σ₃ τ) : op.Gives m i σ₂ σ₃ u := by
  intro f' hf' τ hτ
  obtain ⟨τ₁, hrun, hτ₁⟩ := h f' hf' τ (hpre τ hτ)
  exact ⟨τ₁, hrun, hpost τ₁ hτ₁⟩

end Operand

/-- The table holds nothing at place `i` for the scopes `lo` to `hi - 1` that
are inner to no operand. -/
def FreshAt (ops : List Operand) (lo hi i : Nat) (σ : ResolverState) : Prop :=
  ∀ j name, lo ≤ j → j < hi → (∀ op ∈ ops, ¬ Unwrapped op.matching op.root j) →
    σ.found.lookup (j, name, some i) = none

/-- `σ₁` is `σ` with entries added in front, only for the scopes `lo` to
`hi - 1`, each for a scope inner to an operand or at place `i`. -/
def AddedAt (ops : List Operand) (lo hi i : Nat) (σ σ₁ : ResolverState) : Prop :=
  ∃ new, σ₁.found = new ++ σ.found ∧ ∀ e ∈ new, lo ≤ e.1.1 ∧ e.1.1 < hi ∧
    ((∃ op ∈ ops, Unwrapped op.matching op.root e.1.1) ∨ e.1.2.2 = some i)

namespace Fans

variable {cat : Catalog} {m : Nat} {A : ScopeArena} {lo hi id : Nat} {ops : List Operand}

/-- The scopes inner to an operand are the tree's. -/
theorem inner_bounds (h : Fans cat m A lo hi id ops) {op : Operand} (hop : op ∈ ops) {j : Nat}
    (hj : Unwrapped op.matching op.root j) : lo ≤ j ∧ j < hi := by
  obtain ⟨⟨j', hjj'⟩, -⟩ := hj
  have hr := (h.runs op hop).range hjj'
  have hb := h.bounds.2.2 op hop
  omega

/-- The scope of the tree is inner to none of its operands. -/
theorem id_not_inner (h : Fans cat m A lo hi id ops) :
    ∀ op ∈ ops, ¬ Unwrapped op.matching op.root id := by
  cases h with
  | operand hop =>
    intro op' h' hj
    rw [List.mem_singleton.mp h'] at hj
    exact hj.2 rfl
  | node _ _ h₁ h₂ =>
    intro op hop hj
    have b₁ := h₁.bounds
    rcases List.mem_append.mp hop with hop | hop
    · have := h₁.inner_bounds hop hj
      omega
    · have := h₂.inner_bounds hop hj
      omega

end Fans

/-! ### One output of a tree -/

section Runs

variable {A : ScopeArena} {M depth : Nat} {σ σ₁ : ResolverState} {res : SourceSet}

/-- A name looked up where nothing is stored is followed, and its sources
stored in front. -/
theorem run_named_of_fresh {id : Nat} {name : String} {position : Option Nat}
    (hfresh : σ.found.lookup (id, name, position) = none)
    (h : (named A M depth id name position).run.run σ = (.ok res, σ₁)) :
    ∃ (hlim : ¬ M < depth) (σ' : ResolverState),
      (lookup A M depth id name position hlim).run.run σ = (.ok res, σ') ∧
        σ₁ = { σ' with found := ((id, name, position), res) :: σ'.found } := by
  rw [named, run_bind_of_ok (run_get σ)] at h
  simp only [hfresh] at h
  by_cases hlim : M < depth
  · rw [dif_pos hlim] at h
    cases h
  · rw [dif_neg hlim] at h
    obtain ⟨r, σ', h₁, h⟩ := run_bind_ok h
    rw [run_bind_of_ok (run_modify _ _)] at h
    cases h
    exact ⟨hlim, σ', h₁, rfl⟩

theorem run_sideColumn {l : Nat} {g : Field} {i : Nat}
    (h : (field A M depth (sideColumn l g i)).run.run σ = (.ok res, σ₁)) :
    (named A M (depth + 1) l g.name (some i)).run.run σ = (.ok res, σ₁) := by
  simpa only [sideColumn, Field.ofColumn, field] using h

/-- An output of a set operation is followed to its left side's output, then
to its right side's, each looked up by name and place, one depth down. -/
theorem run_setOutput {n : String} {l r : Nat} {gl gr : Field} {i : Nat}
    (h : (field A M depth (.derived n [sideColumn l gl i, sideColumn r gr i] .direct)).run.run σ =
      (.ok res, σ₁)) :
    ∃ a σa b, (named A M (depth + 1) l gl.name (some i)).run.run σ = (.ok a, σa) ∧
      (named A M (depth + 1) r gr.name (some i)).run.run σa = (.ok b, σ₁) ∧
        res = SourceSet.union a b := by
  rw [field, fields] at h
  obtain ⟨a, σa, ha, h⟩ := run_bind_ok h
  obtain ⟨b', σb, hb, h⟩ := run_bind_ok h
  rw [fields] at hb
  obtain ⟨b, σc, hc, hb⟩ := run_bind_ok hb
  obtain ⟨e, σd, hd, hb⟩ := run_bind_ok hb
  rw [fields] at hd
  cases hd
  cases hb
  cases h
  exact ⟨a, σa, b, run_sideColumn ha, run_sideColumn hc, by rw [SourceSet.union_nil]⟩

end Runs

namespace AddedAt

variable {ops : List Operand} {lo hi i : Nat} {σ σ₁ : ResolverState}

/-- Entries added for the scopes `lo` to `hi - 1` leave every other key as it was. -/
theorem lookup_eq (h : AddedAt ops lo hi i σ σ₁) {key : Nat × String × Option Nat}
    (hkey : key.1 < lo ∨ hi ≤ key.1) : σ₁.found.lookup key = σ.found.lookup key := by
  obtain ⟨new, hnew, hk⟩ := h
  rw [hnew]
  refine lookup_append_of_ne fun e he heq => ?_
  have := hk e he
  rw [heq] at this
  omega

/-- An operand whose inner scopes lie outside `lo` to `hi - 1` sees the table
as it was. -/
theorem agrees_iff (h : AddedAt ops lo hi i σ σ₁) {op : Operand}
    (hout : ∀ j, Unwrapped op.matching op.root j → j < lo ∨ hi ≤ j) {τ : ResolverState} :
    op.Agrees σ₁ τ ↔ op.Agrees σ τ := by
  obtain ⟨new, hnew, hk⟩ := h
  refine Operand.agrees_iff_of_append hnew fun e he hj => ?_
  have := hk e he
  have := hout _ hj
  omega

end AddedAt

/-- Output `i` of the scope `id` of a tree with scopes `lo` to `hi - 1` and
operands `ops`, followed at any depth from a table that holds nothing at place
`i` for the tree's scopes inner to no operand, and that agrees with some table
of each operand alone: it adds entries only for the tree's scopes, each inner
to an operand or at place `i`, and gives the sources that the operands'
outputs at place `i` give alone, together. -/
def FansInAt (A : ScopeArena) (m lo hi id : Nat) (ops : List Operand) (i : Nat) : Prop :=
  ∀ {d : Nat} {S : Scope} {f : Field} {σ σ₁ : ResolverState} {res : SourceSet},
    A.get? id = some S → S.fields[i]? = some f → (field A m d f).run.run σ = (.ok res, σ₁) →
    (∀ op ∈ ops, ∃ τ, op.Agrees σ τ) → FreshAt ops lo hi i σ →
    AddedAt ops lo hi i σ σ₁ ∧ ∃ us, List.Forall₂ (Operand.Gives m i σ σ₁) ops us ∧
      ∀ s, s ∈ res ↔ ∃ u ∈ us, s ∈ u

section FansIn

variable {A : ScopeArena} {m i : Nat}

/-- **An operand's output.** In the tree, the output at place `i` of an
operand's own scope gives what the output at place `i` of its walk alone
gives, from agreeing tables. -/
theorem Operand.Runs.fansInAt {cat : Catalog} {op : Operand} (hop : op.Runs cat m A) :
    FansInAt A m op.lo op.hi op.root [op] i := by
  intro d S f σ σ₁ res hS hf h hagree _
  obtain ⟨τ, hτ⟩ := hagree op (List.mem_singleton_self _)
  -- the output alone at place `i` agrees with the output in the tree
  obtain ⟨S₀, S', hS₀, hS', hfs⟩ := hop.scopes_rel
  rw [hS] at hS₀
  cases hS₀
  obtain ⟨f', hf'⟩ : ∃ f', S'.fields[i]? = some f' := by
    have hlt : i < S'.fields.length := hfs.length_eq ▸ (List.getElem?_eq_some_iff.mp hf).1
    exact ⟨_, List.getElem?_eq_getElem hlt⟩
  have hfollow := field_follows hop.outputs hop.reads (by omega : m + 0 ≤ m + d) f f'
    (Forall₂.rel_of_getElem? hfs hf hf') fun k hk =>
      ReadsWithin.of_mem hop.reads hop.matched hS (List.mem_of_getElem? hf) hk
  obtain ⟨-, -, new, new', hnew, -, -, hK⟩ := hfollow σ τ res σ₁ hτ.found h
  refine ⟨⟨new, hnew, fun e he => ?_⟩, [res], .cons (fun f'' hf'' τ' hτ' => ?_) .nil,
    fun s => by simp⟩
  · obtain ⟨⟨j', hj'⟩, -⟩ := hK e he
    obtain ⟨hlo, hhi⟩ := hop.range hj'
    exact ⟨hlo, hhi, .inl ⟨op, List.mem_singleton_self _, hK e he⟩⟩
  · have hf'' : f'' = f' := by
      rw [Detector.outputs_of_root hop.root hS', hf', Option.some.injEq] at hf''
      exact hf''.symm
    subst hf''
    obtain ⟨τ₁, hrun, hrel⟩ := Follows.step hfollow σ τ' res σ₁ hτ'.found h
    exact ⟨τ₁, hrun, ⟨hrel⟩⟩

/-- A side of a set operation, looked up by name and place where nothing is
stored yet: it is followed, and its sources stored, for a scope of the tree
inner to no operand. -/
theorem FansInAt.named {lo hi id : Nat} {ops : List Operand} (h : FansInAt A m lo hi id ops i)
    {S : Scope} {g : Field} (hS : A.get? id = some S) (hg : S.fields[i]? = some g)
    (hid : lo ≤ id ∧ id < hi) (hnot : ∀ op ∈ ops, ¬ Unwrapped op.matching op.root id) {d : Nat}
    {σ σ₁ : ResolverState} {res : SourceSet}
    (hrun : (named A m d id g.name (some i)).run.run σ = (.ok res, σ₁))
    (hagree : ∀ op ∈ ops, ∃ τ, op.Agrees σ τ) (hfresh : FreshAt ops lo hi i σ) :
    AddedAt ops lo hi i σ σ₁ ∧ ∃ us, List.Forall₂ (Operand.Gives m i σ σ₁) ops us ∧
      ∀ s, s ∈ res ↔ ∃ u ∈ us, s ∈ u := by
  obtain ⟨hlim, σ', hlook, rfl⟩ :=
    run_named_of_fresh (hfresh id g.name hid.1 hid.2 hnot) hrun
  rw [run_lookup_at_place hS hg hlim] at hlook
  obtain ⟨⟨new, hnew, hk⟩, us, hgives, hmem⟩ := h hS hg hlook hagree hfresh
  -- the stored entry is for the scope `id` itself, at place `i`
  refine ⟨⟨((id, g.name, some i), res) :: new, by rw [hnew]; rfl, fun e he => ?_⟩, us,
    Forall₂.imp_of_mem (fun op hop u hu => hu.weaken (fun _ h => h) fun τ hτ => ?_) hgives, hmem⟩
  · rcases List.mem_cons.mp he with rfl | he
    · exact ⟨hid.1, hid.2, .inr rfl⟩
    · exact hk e he
  · have hσ : ({ σ' with found := ((id, g.name, some i), res) :: σ'.found } : ResolverState).found =
        [((id, g.name, some i), res)] ++ σ'.found := rfl
    refine (Operand.agrees_iff_of_append hσ fun e he => ?_).mpr hτ
    rw [List.mem_singleton.mp he]
    exact hnot op hop

/-- **A set operation's output.** Output `i` of a set operation reads output
`i` of its left side, then of its right side, each looked up by name and
place, and gives their sources together. -/
theorem fansInAt_node {cat : Catalog} {lo mid hi l r w : Nat} {S : Scope}
    {ops₁ ops₂ : List Operand} (hiw : i < w) (hS : A.get? lo = some S)
    (hf : S.fields = setOutputs A [l, r]) (h₁ : Fans cat m A (lo + 1) mid l ops₁)
    (h₂ : Fans cat m A mid hi r ops₂)
    (hw : ∀ op ∈ ops₁ ++ ops₂, ∃ S, A.get? op.root = some S ∧ S.fields.length = w)
    (ih₁ : FansInAt A m (lo + 1) mid l ops₁ i) (ih₂ : FansInAt A m mid hi r ops₂ i) :
    FansInAt A m lo hi lo (ops₁ ++ ops₂) i := by
  intro d S₀ f σ σ₁ res hS₀ hfi h hagree hfresh
  obtain rfl : S₀ = S := Option.some.inj (hS₀.symm.trans hS)
  have b₁ := h₁.bounds
  have b₂ := h₂.bounds
  -- a scope inner to an operand lies on that operand's side
  have hin₁ : ∀ op ∈ ops₁, ∀ j, Unwrapped op.matching op.root j → lo + 1 ≤ j ∧ j < mid :=
    fun op hop j hj => h₁.inner_bounds hop hj
  have hin₂ : ∀ op ∈ ops₂, ∀ j, Unwrapped op.matching op.root j → mid ≤ j ∧ j < hi :=
    fun op hop j hj => h₂.inner_bounds hop hj
  -- output `i` of either side
  obtain ⟨Sl, hSl, hwl⟩ := h₁.width fun op hop => hw op (List.mem_append_left _ hop)
  obtain ⟨Sr, hSr, hwr⟩ := h₂.width fun op hop => hw op (List.mem_append_right _ hop)
  obtain ⟨fl, hfl⟩ : ∃ fl, Sl.fields[i]? = some fl := ⟨_, List.getElem?_eq_getElem (by omega)⟩
  obtain ⟨fr, hfr⟩ : ∃ fr, Sr.fields[i]? = some fr := ⟨_, List.getElem?_eq_getElem (by omega)⟩
  rw [hf, setOutputs_pair_getElem? hSl hSr hfl hfr] at hfi
  cases hfi
  obtain ⟨a, σa, b, ha, hb, rfl⟩ := run_setOutput h
  -- the left side, from the table as it was
  obtain ⟨hadd₁, us₁, hg₁, hm₁⟩ := ih₁.named hSl hfl ⟨by omega, by omega⟩ h₁.id_not_inner ha
    (fun op hop => hagree op (List.mem_append_left _ hop))
    (fun j n hlo hhi hnot => hfresh j n (by omega) (by omega) fun op hop => by
      rcases List.mem_append.mp hop with hop | hop
      · exact hnot op hop
      · exact fun hj => by have := hin₂ op hop j hj; omega)
  -- the right side, from the table the left side left, the same for its operands
  have hagree₂ : ∀ op ∈ ops₂, ∀ τ, op.Agrees σa τ ↔ op.Agrees σ τ :=
    fun op hop τ => hadd₁.agrees_iff fun j hj => by have := hin₂ op hop j hj; omega
  obtain ⟨hadd₂, us₂, hg₂, hm₂⟩ := ih₂.named hSr hfr ⟨by omega, by omega⟩ h₂.id_not_inner hb
    (fun op hop => by
      obtain ⟨τ, hτ⟩ := hagree op (List.mem_append_right _ hop)
      exact ⟨τ, (hagree₂ op hop τ).mpr hτ⟩)
    (fun j n hlo hhi hnot => by
      rw [hadd₁.lookup_eq (by dsimp only; omega)]
      exact hfresh j n (by omega) (by omega) fun op hop => by
        rcases List.mem_append.mp hop with hop | hop
        · exact fun hj => by have := hin₁ op hop j hj; omega
        · exact hnot op hop)
  have hagree₁ : ∀ op ∈ ops₁, ∀ τ, op.Agrees σ₁ τ ↔ op.Agrees σa τ :=
    fun op hop τ => hadd₂.agrees_iff fun j hj => by have := hin₁ op hop j hj; omega
  obtain ⟨new₁, hnew₁, hk₁⟩ := hadd₁
  obtain ⟨new₂, hnew₂, hk₂⟩ := hadd₂
  refine ⟨⟨new₂ ++ new₁, by rw [hnew₂, hnew₁, List.append_assoc], fun e he => ?_⟩, us₁ ++ us₂,
    List.rel_append ?_ ?_, fun s => ?_⟩
  · rcases List.mem_append.mp he with he | he
    · obtain ⟨h₁', h₂', h₃'⟩ := hk₂ e he
      exact ⟨by omega, h₂', h₃'.imp_left fun ⟨op, hop, hj⟩ => ⟨op, List.mem_append_right _ hop, hj⟩⟩
    · obtain ⟨h₁', h₂', h₃'⟩ := hk₁ e he
      exact ⟨by omega, by omega, h₃'.imp_left fun ⟨op, hop, hj⟩ => ⟨op, List.mem_append_left _ hop, hj⟩⟩
  · exact Forall₂.imp_of_mem (fun op hop u hu =>
      hu.weaken (fun _ h => h) fun τ hτ => (hagree₁ op hop τ).mpr hτ) hg₁
  · exact Forall₂.imp_of_mem (fun op hop u hu =>
      hu.weaken (fun τ hτ => (hagree₂ op hop τ).mpr hτ) fun _ h => h) hg₂
  · simp only [SourceSet.mem_union, hm₁, hm₂, List.mem_append, or_and_right, exists_or]

/-- **Every output of a tree fans in.** Where every operand has `w` outputs,
output `i < w` of a tree's scope fans in output `i` of its operands. -/
theorem Fans.fansInAt {cat : Catalog} {lo hi id w : Nat} {ops : List Operand}
    (h : Fans cat m A lo hi id ops) (hiw : i < w) :
    (∀ op ∈ ops, ∃ S, A.get? op.root = some S ∧ S.fields.length = w) →
      FansInAt A m lo hi id ops i := by
  induction h with
  | operand hop => exact fun _ => hop.fansInAt
  | node hS hf h₁ h₂ ih₁ ih₂ =>
    exact fun hw => fansInAt_node hiw hS hf h₁ h₂ hw
      (ih₁ fun op hop => hw op (List.mem_append_left _ hop))
      (ih₂ fun op hop => hw op (List.mem_append_right _ hop))

end FansIn

/-! ### All outputs of a tree, in turn -/

/-- Every entry of the table is for a scope inner to an operand, or at a
place before `k`. -/
def Before (ops : List Operand) (k : Nat) (σ : ResolverState) : Prop :=
  ∀ e ∈ σ.found, (∃ op ∈ ops, Unwrapped op.matching op.root e.1.1) ∨ ∃ k' < k, e.1.2.2 = some k'

theorem Before.freshAt {ops : List Operand} {k : Nat} {σ : ResolverState} (h : Before ops k σ)
    (lo hi : Nat) : FreshAt ops lo hi k σ := by
  intro j name _ _ hnot
  rw [← List.append_nil σ.found]
  refine lookup_append_of_ne fun e he heq => ?_
  rcases h e he with ⟨op, hop, hj⟩ | ⟨k', hk', hpos⟩
  · rw [heq] at hj
    exact hnot op hop hj
  · rw [heq] at hpos
    cases hpos
    omega

theorem Before.added {ops : List Operand} {lo hi k : Nat} {σ σ₁ : ResolverState}
    (h : Before ops k σ) (hadd : AddedAt ops lo hi k σ σ₁) : Before ops (k + 1) σ₁ := by
  obtain ⟨new, hnew, hk⟩ := hadd
  intro e he
  rw [hnew] at he
  rcases List.mem_append.mp he with he | he
  · rcases (hk e he).2.2 with hin | hpos
    · exact .inl hin
    · exact .inr ⟨k, by omega, hpos⟩
  · rcases h e he with hin | ⟨k', hk', hpos⟩
    · exact .inl hin
    · exact .inr ⟨k', by omega, hpos⟩

/-- Followed alone from any table that agrees with `σ`, the operand's outputs
from place `k` on give `us`. -/
def Operand.GivesFrom (m k : Nat) (σ : ResolverState) (op : Operand) (us : List SourceSet) : Prop :=
  ∀ τ, op.Agrees σ τ →
    ∃ τ', ((op.alone.outputs.drop k).mapM (sourcesOf op.alone.arena m)).run.run τ = (.ok us, τ')

/-- **The outputs of a tree, in turn.** Where every operand has `w` outputs,
the outputs of the tree's scope `id` from place `k` on, followed in turn from
a table that holds entries only for scopes inner to an operand or at places
before `k`, and agrees with some table of each operand alone, give at each
place the sources that the operands' outputs at that place give alone,
together. -/
theorem Fans.outputs_fanIn {cat : Catalog} {A : ScopeArena} {m lo hi id w : Nat}
    {ops : List Operand} (hF : Fans cat m A lo hi id ops) {S : Scope} (hS : A.get? id = some S)
    (hlen : S.fields.length = w)
    (hw : ∀ op ∈ ops, ∃ S, A.get? op.root = some S ∧ S.fields.length = w)
    (hout : ∀ op ∈ ops, op.alone.outputs.length = w) :
    ∀ n k, k + n = w → ∀ σ vs σ', Before ops k σ → (∀ op ∈ ops, ∃ τ, op.Agrees σ τ) →
      ((S.fields.drop k).mapM (sourcesOf A m)).run.run σ = (.ok vs, σ') →
      ∃ uss, List.Forall₂ (Operand.GivesFrom m k σ) ops uss ∧
        ∀ (j : Nat) v, vs[j]? = some v → ∀ s, s ∈ v ↔
          ∃ (t : Nat) (us : List SourceSet) (u : SourceSet), uss[t]? = some us ∧ us[j]? = some u ∧
            s ∈ u := by
  intro n
  -- on the number of outputs left
  induction n with
  | zero =>
    intro k hk σ vs σ' _ _ h
    rw [List.drop_of_length_le (by omega), List.mapM_nil] at h
    cases h
    refine ⟨ops.map fun _ => [], ?_, fun j v hv => by simp at hv⟩
    rw [List.forall₂_map_right_iff]
    refine List.forall₂_same.mpr fun op hop τ _ => ⟨τ, ?_⟩
    rw [List.drop_of_length_le (by rw [hout op hop]; omega)]
    rfl
  | succ n ih =>
    intro k hk σ vs σ' hbefore hagree h
    have hkw : k < w := by omega
    rw [List.drop_eq_getElem_cons (by omega), List.mapM_cons] at h
    obtain ⟨v, σ₁, hv, h⟩ := run_bind_ok h
    obtain ⟨vs', σ₂, hvs', h⟩ := run_bind_ok h
    cases h
    -- the output at place `k`, then the rest
    obtain ⟨hadd, us, hg, hm⟩ := hF.fansInAt hkw hw hS (List.getElem?_eq_getElem _) hv hagree
      (hbefore.freshAt lo hi)
    have hk' : ∀ op ∈ ops, ∃ f', op.alone.outputs[k]? = some f' :=
      fun op hop => ⟨_, List.getElem?_eq_getElem (by rw [hout op hop]; omega)⟩
    have hagree₁ : ∀ op ∈ ops, ∃ τ, op.Agrees σ₁ τ := fun op hop => by
      obtain ⟨τ, hτ⟩ := hagree op hop
      obtain ⟨u, -, hu⟩ := Forall₂.exists_of_mem_left hg hop
      obtain ⟨f', hf'⟩ := hk' op hop
      obtain ⟨τ₁, -, hτ₁⟩ := hu f' hf' τ hτ
      exact ⟨τ₁, hτ₁⟩
    obtain ⟨uss, hgs, hms⟩ := ih (k + 1) (by omega) σ₁ vs' σ' (hbefore.added hadd) hagree₁ hvs'
    have hlen₁ := hg.length_eq
    have hlen₂ := hgs.length_eq
    refine ⟨List.zipWith List.cons us uss,
      Forall₂.zipWith_cons hg hgs fun op hop u us' hu hus' τ hτ => ?_, fun j v' hv' s => ?_⟩
    · obtain ⟨f', hf'⟩ := hk' op hop
      obtain ⟨τ₁, hrun₁, hτ₁⟩ := hu f' hf' τ hτ
      obtain ⟨τ', hrun'⟩ := hus' τ₁ hτ₁
      obtain ⟨hlt, heq⟩ := List.getElem?_eq_some_iff.mp hf'
      refine ⟨τ', ?_⟩
      rw [List.drop_eq_getElem_cons hlt, heq, List.mapM_cons, run_bind_of_ok hrun₁,
        run_bind_of_ok hrun']
      rfl
    · simp only [List.getElem?_zipWith_eq_some]
      cases j with
      | zero =>
        -- the output at place `k` itself
        rw [List.getElem?_cons_zero, Option.some.injEq] at hv'
        subst hv'
        rw [hm s]
        constructor
        · rintro ⟨u, hu, hs⟩
          obtain ⟨t, ht⟩ := List.mem_iff_getElem?.mp hu
          have htl : t < uss.length := by
            have := (List.getElem?_eq_some_iff.mp ht).1
            omega
          exact ⟨t, _, u, ⟨u, _, ht, List.getElem?_eq_getElem htl, rfl⟩, rfl, hs⟩
        · rintro ⟨t, _, u, ⟨u', us', ht, -, rfl⟩, hu, hs⟩
          rw [List.getElem?_cons_zero, Option.some.injEq] at hu
          subst hu
          exact ⟨u', List.mem_of_getElem? ht, hs⟩
      | succ j =>
        -- the outputs after place `k`
        rw [List.getElem?_cons_succ] at hv'
        rw [hms j v' hv' s]
        constructor
        · rintro ⟨t, us', u, ht, hu, hs⟩
          have htl : t < us.length := by
            have := (List.getElem?_eq_some_iff.mp ht).1
            omega
          exact ⟨t, _, u, ⟨_, us', List.getElem?_eq_getElem htl, ht, rfl⟩, hu, hs⟩
        · rintro ⟨t, _, u, ⟨u', us', -, ht, rfl⟩, hu, hs⟩
          exact ⟨t, us', u, ht, hu, hs⟩

/-! ### Outputs followed in turn, as one `mapM` -/

/-- Outputs followed in turn with no failure give the sources of the outputs in
turn, each named and transformed as its output. -/
theorem mapM_of_resolveOutputs {A : ScopeArena} {m : Nat} {t : Option TableName} :
    ∀ {fs : List Field} {names : List String} {σ σ' : ResolverState} {L : List TargetLineage},
      fs.length = names.length →
      (resolveOutputs A m t (fs.zip names)).run.run σ = (.ok (L, none), σ') →
      (fs.mapM (sourcesOf A m)).run.run σ = (.ok (L.map (·.sources)), σ') ∧
        L.map (·.target) = names.map ({ table := t, field := · }) ∧
        L.map (·.transformation) = fs.map Field.process
  | [], [], σ, σ', L, _, h => by
    obtain ⟨hL, rfl⟩ := Prod.mk.inj h
    cases hL
    exact ⟨rfl, rfl, rfl⟩
  | f :: fs, name :: names, σ, σ', L, hlen, h => by
    rw [List.zip_cons_cons, run_resolveOutputs_cons] at h
    rcases hf : (sourcesOf A m f).run.run σ with ⟨_ | v, σ₁⟩ <;> rw [hf] at h
    · cases h
    dsimp only at h
    rcases hr : (resolveOutputs A m t (fs.zip names)).run.run σ₁ with ⟨_ | ⟨more, err⟩, σ₂⟩ <;>
      rw [hr] at h
    · cases h
    obtain ⟨hL, rfl⟩ := Prod.mk.inj h
    cases hL
    obtain ⟨hrun, htarget, hproc⟩ := mapM_of_resolveOutputs (by simpa using hlen) hr
    refine ⟨?_, by simp [htarget], by simp [hproc]⟩
    rw [List.mapM_cons, run_bind_of_ok hf, run_bind_of_ok hrun]
    rfl
  | [], _ :: _, _, _, _, hlen, _ => by simp at hlen
  | _ :: _, [], _, _, _, hlen, _ => by simp at hlen

/-- Conversely, outputs whose sources are all found in turn are followed with
no failure. -/
theorem resolveOutputs_of_mapM {A : ScopeArena} {m : Nat} {t : Option TableName} :
    ∀ {fs : List Field} {names : List String} {σ σ' : ResolverState} {vs : List SourceSet},
      fs.length = names.length →
      (fs.mapM (sourcesOf A m)).run.run σ = (.ok vs, σ') →
      ∃ L, (resolveOutputs A m t (fs.zip names)).run.run σ = (.ok (L, none), σ') ∧
        L.map (·.sources) = vs ∧ L.map (·.target) = names.map ({ table := t, field := · })
  | [], [], σ, σ', vs, _, h => by
    obtain ⟨hvs, rfl⟩ := Prod.mk.inj h
    cases hvs
    exact ⟨[], rfl, rfl, rfl⟩
  | f :: fs, name :: names, σ, σ', vs, hlen, h => by
    rw [List.mapM_cons] at h
    obtain ⟨v, σ₁, hv, h⟩ := run_bind_ok h
    obtain ⟨vs', σ₂, hvs', h⟩ := run_bind_ok h
    cases h
    obtain ⟨L, hres, hsrc, htgt⟩ := resolveOutputs_of_mapM (t := t) (by simpa using hlen) hvs'
    refine ⟨{ target := { table := t, field := name }, sources := v, transformation := f.process } :: L,
      ?_, by simp [hsrc], by simp [htgt]⟩
    rw [List.zip_cons_cons, run_resolveOutputs_cons, hv]
    dsimp only
    rw [hres]
  | [], _ :: _, _, _, _, hlen, _ => by simp at hlen
  | _ :: _, [], _, _, _, hlen, _ => by simp at hlen

/-! ### The operands alone, and the statement -/

namespace Operand.Runs

variable {cat : Catalog} {m : Nat} {A : ScopeArena} {op : Operand}

/-- An operand whose outputs, followed alone from the empty table, give `us`
reports no error when analysed alone, and its lineage has the sources `us`
and the names of its outputs. -/
theorem analysis (h : op.Runs cat m A) (idx : Nat) {us : List SourceSet} {τ : ResolverState}
    (hrun : (op.alone.outputs.mapM (sourcesOf op.alone.arena m)).run.run {} = (.ok us, τ)) :
    (analyzeStatement cat m idx op.body.alone).error = none ∧
      (analyzeStatement cat m idx op.body.alone).lineage.map (·.sources) = us ∧
      (analyzeStatement cat m idx op.body.alone).lineage.map (·.target) =
        op.alone.outputs.map fun f => { table := none, field := f.name } := by
  obtain ⟨-, S', -, hS', -⟩ := h.scopes_rel
  have hroot : op.alone.root.bind op.alone.arena.get? = some S' := by
    rw [h.root]
    exact hS'
  have hn : targetNames S'.fields op.alone.target = (S'.fields.map Field.name, none) := by
    rw [h.target]
    rfl
  have htable : op.alone.target.bind (·.table) = none := by
    rw [h.target]
    rfl
  have hl : S'.fields.length = (S'.fields.map Field.name).length := by simp
  rw [Detector.outputs_of_root h.root hS'] at hrun ⊢
  obtain ⟨L, hres, hsrc, htgt⟩ := resolveOutputs_of_mapM (t := none) hl hrun
  rw [← htable] at hres
  obtain ⟨herr, hL⟩ := @analyzeStatement_of_ok _ _ idx _ _ _ _ _ _ h.detect hroot hn hres
  rw [hL, hsrc, htgt, List.map_map]
  exact ⟨herr, rfl, rfl⟩

end Operand.Runs

/-- Places in two lists of results, one per operand, each read at the same
place `i`: a source found at `i` in the results of some operand is a source of
the entry at `i` of the lineage of some operand, and back. -/
theorem sources_at_iff {ops : List Operand} {uss : List (List SourceSet)}
    (lin : Operand → List TargetLineage) (hlen : ops.length = uss.length)
    (hsrc : ∀ (t : Nat) op us, ops[t]? = some op → uss[t]? = some us →
      (lin op).map (·.sources) = us)
    (i : Nat) (s : Source) :
    (∃ (t : Nat) (us : List SourceSet) (u : SourceSet), uss[t]? = some us ∧ us[i]? = some u ∧
      s ∈ u) ↔ ∃ op ∈ ops, ∃ e, (lin op)[i]? = some e ∧ s ∈ e.sources := by
  constructor
  · rintro ⟨t, us, u, hus, hu, hs⟩
    obtain ⟨op, hop⟩ : ∃ op, ops[t]? = some op :=
      ⟨_, List.getElem?_eq_getElem (by rw [hlen]; exact (List.getElem?_eq_some_iff.mp hus).1)⟩
    rw [← hsrc t op us hop hus, List.getElem?_map, Option.map_eq_some_iff] at hu
    obtain ⟨e, he, rfl⟩ := hu
    exact ⟨op, List.mem_of_getElem? hop, e, he, hs⟩
  · rintro ⟨op, hop, e, he, hs⟩
    obtain ⟨t, ht⟩ := List.mem_iff_getElem?.mp hop
    obtain ⟨us, hus⟩ : ∃ us, uss[t]? = some us :=
      ⟨_, List.getElem?_eq_getElem (by rw [← hlen]; exact (List.getElem?_eq_some_iff.mp ht).1)⟩
    refine ⟨t, us, e.sources, hus, ?_, hs⟩
    rw [← hsrc t op us ht hus, List.getElem?_map, he]
    rfl

/-- The outputs of a tree are named after the outputs of its first operand
alone. -/
theorem Fans.names_alone {cat : Catalog} {m : Nat} {A : ScopeArena} {lo hi id : Nat}
    {ops : List Operand} (hF : Fans cat m A lo hi id ops) {S : Scope} (hS : A.get? id = some S)
    {op : Operand} (hop : ops.head? = some op) :
    S.fields.map Field.name = op.alone.outputs.map Field.name := by
  have hrun := hF.runs op (List.mem_of_mem_head? hop)
  obtain ⟨S₀, S₁, hS₀, hS₁, hnames⟩ := hF.names op hop
  obtain ⟨S₁', S', hS₁', hS', hrel⟩ := hrun.scopes_rel
  rw [hS] at hS₀
  cases hS₀
  rw [hS₁] at hS₁'
  cases hS₁'
  rw [hnames, Detector.outputs_of_root hrun.root hS', FieldRel.map_name_eq hrel]

/-- **Set operations fan in.** A query with no WITH clause whose body is a
tree of set operations over more than one operand, every operand with `w`
outputs, and whose analysis reports no error: its lineage has `w` entries,
every operand alone reports no error, and entry `i` carries its inputs over
as they are, is named as entry `i` of the first operand alone, and has as
sources those of entry `i` of every operand alone, together. Parenthesized
queries with no WITH clause are looked through; one with its own WITH clause
is one operand. -/
theorem setOperation_lineage_fanIn {cat : Catalog} {m idx : Nat} {recursive : Option Bool}
    {T : Sql.SetExpr} {tail : String} {w : Nat} (htwo : 1 < T.operands.length)
    (hwidth : ∀ L ∈ T.operands, ((Detector.new cat m).detect L.alone).2.outputs.length = w)
    (h : (analyzeStatement cat m idx (.query (.mk recursive [] T tail))).error = none) :
    (analyzeStatement cat m idx (.query (.mk recursive [] T tail))).lineage.length = w ∧
      (∀ L ∈ T.operands, (analyzeStatement cat m idx L.alone).error = none) ∧
      ∀ (i : Nat) (e : TargetLineage),
        (analyzeStatement cat m idx (.query (.mk recursive [] T tail))).lineage[i]? = some e →
        e.transformation = .direct ∧
        (∃ (L : Sql.SetExpr) (e₁ : TargetLineage), T.operands.head? = some L ∧
          (analyzeStatement cat m idx L.alone).lineage[i]? = some e₁ ∧ e.target = e₁.target) ∧
        ∀ s, s ∈ e.sources ↔ ∃ L ∈ T.operands, ∃ e' : TargetLineage,
          (analyzeStatement cat m idx L.alone).lineage[i]? = some e' ∧ s ∈ e'.sources := by
  obtain ⟨d, root, names, σ, hd, hroot, hn, hres⟩ := analyzeStatement_ok h
  obtain ⟨r, ops, hdr, hF, hops, htarget⟩ := detect_fans hd
  have hS : d.arena.get? r = some root := by
    rw [hdr] at hroot
    exact hroot
  have hnames : names = root.fields.map Field.name := by
    simp only [htarget, targetNames, Prod.mk.injEq] at hn
    exact hn.1.symm
  subst hnames
  simp only [htarget, Option.bind_none] at hres
  obtain ⟨hmap, htgt, hproc⟩ := mapM_of_resolveOutputs (by simp) hres
  -- every operand has `w` outputs, alone and in the tree
  have hout : ∀ op ∈ ops, op.alone.outputs.length = w := fun op hop => by
    have hL := hwidth op.body (hops ▸ List.mem_map_of_mem hop)
    rwa [(hF.runs op hop).detect] at hL
  have hw : ∀ op ∈ ops, ∃ S, d.arena.get? op.root = some S ∧ S.fields.length = w :=
    fun op hop => by
      obtain ⟨S, S', hS, hS', hrel⟩ := (hF.runs op hop).scopes_rel
      refine ⟨S, hS, ?_⟩
      rw [hrel.length_eq, ← Detector.outputs_of_root (hF.runs op hop).root hS', hout op hop]
  have hlen : root.fields.length = w := by
    obtain ⟨S, hS', hSw⟩ := hF.width hw
    rw [hS] at hS'
    cases hS'
    exact hSw
  -- the outputs of the tree, followed in turn from the empty table
  obtain ⟨uss, hgs, hmem⟩ := hF.outputs_fanIn hS hlen hw hout w 0 (by omega) {} _ σ
    (fun _ he => by cases he) (fun _ _ => ⟨{}, ⟨fun _ _ _ _ => rfl⟩⟩)
    (by rw [List.drop_zero]; exact hmap)
  -- each operand alone gives what it gives in the tree
  have halone : ∀ (t : Nat) op us, ops[t]? = some op → uss[t]? = some us →
      (analyzeStatement cat m idx op.body.alone).error = none ∧
      (analyzeStatement cat m idx op.body.alone).lineage.map (·.sources) = us ∧
      (analyzeStatement cat m idx op.body.alone).lineage.map (·.target) =
        op.alone.outputs.map fun f => { table := none, field := f.name } := by
    intro t op us hop hus
    obtain ⟨τ, hrun⟩ := Forall₂.rel_of_getElem? hgs hop hus {} ⟨fun _ _ _ _ => rfl⟩
    rw [List.drop_zero] at hrun
    exact (hF.runs op (List.mem_of_getElem? hop)).analysis idx hrun
  have hresults : ∀ (t : Nat) op, ops[t]? = some op → ∃ us, uss[t]? = some us := fun t op hop =>
    ⟨_, List.getElem?_eq_getElem (by
      rw [← hgs.length_eq]
      exact (List.getElem?_eq_some_iff.mp hop).1)⟩
  obtain ⟨op₁, rest, hcons⟩ := List.exists_cons_of_ne_nil hF.ne_nil
  refine ⟨?_, ?_, fun i e he => ⟨?_, ?_, fun s => ?_⟩⟩
  · -- one entry per output
    have hcount := congrArg List.length hproc
    simp only [List.length_map] at hcount
    rw [hcount, hlen]
  · intro L hL
    rw [← hops] at hL
    obtain ⟨op, hop, rfl⟩ := List.mem_map.mp hL
    obtain ⟨t, ht⟩ := List.mem_iff_getElem?.mp hop
    obtain ⟨us, hus⟩ := hresults t op ht
    exact (halone t op us ht hus).1
  · -- the root is a set operation, whose outputs carry their inputs over
    obtain ⟨S, l, r', hS', hfields⟩ :=
      hF.node_of_two (by rwa [← hops, List.length_map] at htwo)
    rw [hS] at hS'
    cases hS'
    have hin : e.transformation ∈ root.fields.map Field.process := by
      rw [← hproc]
      exact List.mem_map_of_mem (List.mem_of_getElem? he)
    obtain ⟨f, hf, hfe⟩ := List.mem_map.mp hin
    rw [← hfe]
    exact process_of_mem_setOutputs (hfields ▸ hf)
  · -- named after the first operand alone
    have hop₁ : ops[0]? = some op₁ := by rw [hcons]; rfl
    obtain ⟨us₁, hus₁⟩ := hresults 0 op₁ hop₁
    have htargets : (analyzeStatement cat m idx (.query (.mk recursive [] T tail))).lineage.map
        (·.target) = (analyzeStatement cat m idx op₁.body.alone).lineage.map (·.target) := by
      rw [htgt, (halone 0 op₁ us₁ hop₁ hus₁).2.2, hF.names_alone hS (by rw [hcons]; rfl),
        List.map_map]
      rfl
    have hat := congrArg (·[i]?) htargets
    simp only [List.getElem?_map, he, Option.map_some] at hat
    obtain ⟨e₁, he₁, hte⟩ := Option.map_eq_some_iff.mp hat.symm
    exact ⟨op₁.body, e₁, by rw [← hops, hcons]; rfl, he₁, hte.symm⟩
  · -- the sources of every operand alone, together
    rw [hmem i e.sources (by rw [List.getElem?_map, he]; rfl) s,
      sources_at_iff (fun op => (analyzeStatement cat m idx op.body.alone).lineage)
        hgs.length_eq (fun t op us hop hus => (halone t op us hop hus).2.1) i s, ← hops]
    simp only [List.mem_map, exists_exists_and_eq_and]

/-! ### Two unions -/

/-- The body `SELECT c FROM t`. -/
def selectColumn (c t : String) : Sql.SetExpr :=
  .select (.mk "" [.expr (.identifier { value := c }) none] "" [.mk (.table [{ value := t }] "" none "") []]
    "" none "" none "")

/-- `SELECT a FROM t UNION SELECT a FROM u`. -/
def unionOfTwo : Sql.SetExpr :=
  .setOp (selectColumn "a" "t") "UNION" "" (selectColumn "a" "u")

/-- `SELECT a FROM t UNION SELECT a FROM u` reports no error, and its one
output fans in `t.a` and `u.a`. -/
theorem unionOfTwo_fans_in :
    1 < unionOfTwo.operands.length ∧
      (∀ L ∈ unionOfTwo.operands, ((Detector.new {} 64).detect L.alone).2.outputs.length = 1) ∧
      (analyzeStatement {} 64 0 (.query (.mk none [] unionOfTwo ""))).error = none ∧
      ((analyzeStatement {} 64 0 (.query (.mk none [] unionOfTwo ""))).lineage.length = 1 ∧
      (∀ L ∈ unionOfTwo.operands, (analyzeStatement {} 64 0 L.alone).error = none) ∧
      ∀ (i : Nat) (e : TargetLineage),
        (analyzeStatement {} 64 0 (.query (.mk none [] unionOfTwo ""))).lineage[i]? = some e →
        e.transformation = .direct ∧
        (∃ (L : Sql.SetExpr) (e₁ : TargetLineage), unionOfTwo.operands.head? = some L ∧
          (analyzeStatement {} 64 0 L.alone).lineage[i]? = some e₁ ∧ e.target = e₁.target) ∧
        ∀ s, s ∈ e.sources ↔ ∃ L ∈ unionOfTwo.operands, ∃ e' : TargetLineage,
          (analyzeStatement {} 64 0 L.alone).lineage[i]? = some e' ∧ s ∈ e'.sources) := by
  have htwo : 1 < unionOfTwo.operands.length := by decide
  have hwidth : ∀ L ∈ unionOfTwo.operands,
      ((Detector.new {} 64).detect L.alone).2.outputs.length = 1 := by decide +kernel
  have h : (analyzeStatement {} 64 0 (.query (.mk none [] unionOfTwo ""))).error = none :=
    @Resolve.Bounded.error_eq_none_of_lineageOf 8 _ _ _ (by decide +kernel) 0
  exact ⟨htwo, hwidth, h, setOperation_lineage_fanIn htwo hwidth h⟩

/-- `SELECT a FROM t UNION (WITH c AS (SELECT b FROM u) SELECT b FROM c UNION
SELECT b FROM c)`. -/
def unionWithOwnCte : Sql.SetExpr :=
  .setOp (selectColumn "a" "t") "UNION" ""
    (.query (.mk (some false) [.mk { name := { value := "c" } } (.mk none [] (selectColumn "b" "u") "")
      none none] (.setOp (selectColumn "b" "c") "UNION" "" (selectColumn "b" "c")) ""))

/-- A parenthesized operand with its own WITH clause is not looked through:
inside it, `SELECT b FROM c` reads the WITH name `c`, so the one output of
the union comes from `t.a` and `u.b`; alone, `SELECT b FROM c` reads a table
`c`. -/
theorem ownCte_operand_reads_its_ctes :
    (analyzeStatement {} 64 0 (.query (.mk none [] unionWithOwnCte ""))).error = none ∧
      (analyzeStatement {} 64 0 (.query (.mk none [] unionWithOwnCte ""))).lineage =
        [{ target := { table := none, field := "a" },
           sources := [{ table := some { database := none, name := "t" }, field := "a" },
             { table := some { database := none, name := "u" }, field := "b" }],
           transformation := .direct }] ∧
      (analyzeStatement {} 64 0 (selectColumn "b" "c").alone).lineage =
        [{ target := { table := none, field := "b" },
           sources := [{ table := some { database := none, name := "c" }, field := "b" }],
           transformation := .direct }] := by
  have hunion : Resolve.Bounded.lineageOf 16 {} 64 (.query (.mk none [] unionWithOwnCte "")) =
      some ([{ target := { table := none, field := "a" },
               sources := [{ table := some { database := none, name := "t" }, field := "a" },
                 { table := some { database := none, name := "u" }, field := "b" }],
               transformation := .direct }], none) := by decide +kernel
  have halone : Resolve.Bounded.lineageOf 8 {} 64 (selectColumn "b" "c").alone =
      some ([{ target := { table := none, field := "b" },
               sources := [{ table := some { database := none, name := "c" }, field := "b" }],
               transformation := .direct }], none) := by decide +kernel
  obtain ⟨hL, herr⟩ := Resolve.Bounded.lineageOf_eq hunion 0
  exact ⟨herr, hL, (Resolve.Bounded.lineageOf_eq halone 0).1⟩

end ColumnLineage
