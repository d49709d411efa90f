import ColumnLineage.Proofs.Renaming
import ColumnLineage.Proofs.Run
/-
ColumnLineage/Proofs/ResolveRenaming.lean

The walk to sources over two arenas whose scopes agree under a renaming.
Where the matched scopes have agreeing outputs, a field followed to its
sources in one arena and an agreeing field followed in the other give the same
sources, as long as the second walk has at least as much room below the depth
limit as the first (`field_follows`). The two tables of found names stay in
step: every entry one walk adds, the other adds for the matched scope.

The tables agree only on a set `K` of scopes that holds every scope the
outputs of a matched scope read by name, because only those are ever looked
up; the other walk may hold entries of its own for any other scope. This is
what lets a walk that looks up the outputs of a wrapped query by place keep
them beside the entries of the query's own walk.
-/

namespace ColumnLineage

mutual

/-- The field reads an output of scope `i` by name: one of its column
references points to `i`. -/
def Field.ReadsScope : Field → Nat → Prop
  | .column _ r _, i => r.origin = .scope i
  | .derived _ ds _, i => Field.ListReadsScope ds i
  | _, _ => False

/-- One of the fields reads an output of scope `i` by name. -/
def Field.ListReadsScope : List Field → Nat → Prop
  | [], _ => False
  | f :: fs, i => f.ReadsScope i ∨ Field.ListReadsScope fs i

end

theorem Field.listReadsScope_iff {fs : List Field} {i : Nat} :
    Field.ListReadsScope fs i ↔ ∃ f ∈ fs, f.ReadsScope i := by
  induction fs with
  | nil => simp [Field.ListReadsScope]
  | cons f fs ih => simp [Field.ListReadsScope, ih]

/-- Some output of some scope of the arena reads scope `i` by name. -/
def ScopeArena.Reads (A : ScopeArena) (i : Nat) : Prop :=
  ∃ j S, A.get? j = some S ∧ Field.ListReadsScope S.fields i

namespace Resolve

open Run

section Relations

variable (ρ : Renaming) (K : Nat → Prop)

/-- Matched scopes of the two arenas have agreeing outputs. -/
def OutputsRel (A A' : ScopeArena) : Prop :=
  ∀ {i j : Nat}, ρ.map i = some j →
    Option.Rel (fun S S' : Scope => List.Forall₂ (FieldRel ρ) S.fields S'.fields)
      (A.get? i) (A'.get? j)

/-- Two entries of the tables of found names agree: matched scopes, the same
name and place, the same sources. -/
def EntryRel (e e' : (Nat × String × Option Nat) × SourceSet) : Prop :=
  ρ.map e.1.1 = some e'.1.1 ∧ e'.1.2 = e.1.2 ∧ e'.2 = e.2

/-- Two tables of found names agree on every matched scope of `K`. -/
def FoundRel (found found' : List ((Nat × String × Option Nat) × SourceSet)) : Prop :=
  ∀ {i j : Nat}, K i → ρ.map i = some j → ∀ name position,
    found'.lookup (j, name, position) = found.lookup (i, name, position)

/-- Both tables grew by agreeing entries, for scopes of `K`. -/
def Grown (σ σ₁ σ' σ₁' : ResolverState) : Prop :=
  ∃ new new', σ₁.found = new ++ σ.found ∧ σ₁'.found = new' ++ σ'.found ∧
    List.Forall₂ (EntryRel ρ) new new' ∧ ∀ e ∈ new, K e.1.1

/-- The step `y` follows the step `x`: from agreeing tables, whenever `x`
answers, `y` gives the same answer and both tables grow alike. -/
def Follows {α : Type} (x y : Resolve α) : Prop :=
  ∀ σ σ' r σ₁, FoundRel ρ K σ.found σ'.found → x.run.run σ = (.ok r, σ₁) →
    ∃ σ₁', y.run.run σ' = (.ok r, σ₁') ∧ Grown ρ K σ σ₁ σ' σ₁'

end Relations

variable {ρ : Renaming} {K : Nat → Prop}

/-! ### Tables in step -/

theorem lookup_cons_rel {i j i₀ j₀ : Nat} (hij : ρ.map i = some j) (h₀ : ρ.map i₀ = some j₀)
    (name name₀ : String) (position position₀ : Option Nat) (v : SourceSet)
    (found found' : List ((Nat × String × Option Nat) × SourceSet))
    (hrest : found'.lookup (j, name, position) = found.lookup (i, name, position)) :
    (((j₀, name₀, position₀), v) :: found').lookup (j, name, position) =
      (((i₀, name₀, position₀), v) :: found).lookup (i, name, position) := by
  have hiff : (j = j₀) ↔ (i = i₀) := by
    constructor
    · rintro rfl
      exact ρ.injective hij h₀
    · rintro rfl
      rw [hij] at h₀
      exact Option.some.inj h₀
  by_cases hk : i = i₀ ∧ name = name₀ ∧ position = position₀
  · obtain ⟨rfl, rfl, rfl⟩ := hk
    obtain rfl := hiff.mpr rfl
    rw [List.lookup_cons_self, List.lookup_cons_self]
  · have hk' : ¬ (j = j₀ ∧ name = name₀ ∧ position = position₀) := by
      rwa [hiff]
    simp only [List.lookup_cons]
    rw [beq_false_of_ne (fun he => hk' (by simpa using he)),
      beq_false_of_ne (fun he => hk (by simpa using he))]
    exact hrest

theorem FoundRel.append {found found' new new' : List ((Nat × String × Option Nat) × SourceSet)}
    (h : FoundRel ρ K found found') (hnew : List.Forall₂ (EntryRel ρ) new new') :
    FoundRel ρ K (new ++ found) (new' ++ found') := by
  intro i j hi hij name position
  induction hnew with
  | nil => exact h hi hij name position
  | @cons e e' _ _ he _ ih =>
    obtain ⟨⟨i₀, name₀, position₀⟩, v⟩ := e
    obtain ⟨⟨j₀, name₀', position₀'⟩, v'⟩ := e'
    obtain ⟨h₀, hkey, hv⟩ := he
    dsimp only at h₀ hkey hv
    obtain ⟨rfl, rfl⟩ := Prod.mk.inj hkey
    subst hv
    exact lookup_cons_rel hij h₀ name _ position _ _ _ _ ih

theorem FoundRel.grow {σ σ₁ σ' σ₁' : ResolverState} (h : FoundRel ρ K σ.found σ'.found)
    (hg : Grown ρ K σ σ₁ σ' σ₁') : FoundRel ρ K σ₁.found σ₁'.found := by
  obtain ⟨new, new', h₁, h₁', hnew, -⟩ := hg
  rw [h₁, h₁']
  exact h.append hnew

theorem Grown.refl_of {σ σ₁ σ' σ₁' : ResolverState} (h₁ : σ₁.found = σ.found)
    (h₁' : σ₁'.found = σ'.found) : Grown ρ K σ σ₁ σ' σ₁' :=
  ⟨[], [], h₁, h₁', List.Forall₂.nil, fun _ he => absurd he List.not_mem_nil⟩

theorem Grown.trans {σ σ₁ σ₂ σ' σ₁' σ₂' : ResolverState} (h₁ : Grown ρ K σ σ₁ σ' σ₁')
    (h₂ : Grown ρ K σ₁ σ₂ σ₁' σ₂') : Grown ρ K σ σ₂ σ' σ₂' := by
  obtain ⟨new₁, new₁', e₁, e₁', r₁, k₁⟩ := h₁
  obtain ⟨new₂, new₂', e₂, e₂', r₂, k₂⟩ := h₂
  refine ⟨new₂ ++ new₁, new₂' ++ new₁', ?_, ?_, List.rel_append r₂ r₁, ?_⟩
  · rw [e₂, e₁, List.append_assoc]
  · rw [e₂', e₁', List.append_assoc]
  · intro e he
    rcases List.mem_append.mp he with he | he
    · exact k₂ e he
    · exact k₁ e he

/-! ### Following rules -/

section Rules

variable {α β : Type}

theorem Follows.pure (a : α) : Follows ρ K (pure a) (pure a) := by
  intro σ σ' r σ₁ _ hx
  simp only [run_pure] at hx
  obtain ⟨rfl, rfl⟩ := hx
  exact ⟨σ', rfl, Grown.refl_of rfl rfl⟩

theorem Follows.throw (e : LineageError) (y : Resolve α) : Follows ρ K (throw e) y := by
  intro σ σ' r σ₁ _ hx
  cases hx

theorem Follows.bind {x y : Resolve α} {f g : α → Resolve β} (hx : Follows ρ K x y)
    (hf : ∀ a, Follows ρ K (f a) (g a)) : Follows ρ K (x >>= f) (y >>= g) := by
  intro σ σ' r σ₂ hrel hrun
  obtain ⟨a, σ₁, hx₁, hf₁⟩ := run_bind_ok hrun
  obtain ⟨σ₁', hy₁, hg₁⟩ := hx σ σ' a σ₁ hrel hx₁
  obtain ⟨σ₂', hy₂, hg₂⟩ := hf a σ₁ σ₁' r σ₂ (hrel.grow hg₁) hf₁
  exact ⟨σ₂', by rw [run_bind_of_ok hy₁]; exact hy₂, hg₁.trans hg₂⟩

/-- A warning of a name output twice leaves the tables as they were. -/
theorem follows_duplicateOutput (column : String) (scope scope' : Nat) :
    Follows ρ K (duplicateOutput column scope) (duplicateOutput column scope') := by
  intro σ σ' r σ₁ _ hx
  simp only [duplicateOutput, run_modify] at hx ⊢
  obtain ⟨-, rfl⟩ := hx
  refine ⟨_, rfl, Grown.refl_of ?_ ?_⟩ <;> split <;> rfl

theorem Follows.ite_bind {c : Prop} [Decidable c] {y y' : Resolve Unit} {k k' : Resolve α}
    (hy : Follows ρ K y y') (hk : Follows ρ K k k') :
    Follows ρ K (if c then y >>= fun _ => k else k) (if c then y' >>= fun _ => k' else k') := by
  by_cases hc : c
  · simp only [hc, if_true]
    exact Follows.bind hy fun _ => hk
  · simp only [hc, if_false]
    exact hk

/-- Steps that read the tables: they follow when they do from any two
agreeing tables. -/
theorem Follows.get_bind {F G : ResolverState → Resolve α}
    (h : ∀ σ σ', FoundRel ρ K σ.found σ'.found → Follows ρ K (F σ) (G σ')) :
    Follows ρ K (get >>= F) (get >>= G) := by
  intro σ σ' r σ₁ hrel hrun
  rw [run_bind_of_ok (run_get σ)] at hrun
  obtain ⟨σ₁', hy, hg⟩ := h σ σ' hrel σ σ' r σ₁ hrel hrun
  exact ⟨σ₁', by rw [run_bind_of_ok (run_get σ')]; exact hy, hg⟩

/-- Storing the sources found for matched scopes keeps the tables in step. -/
theorem follows_store {i j : Nat} (hij : ρ.map i = some j) (hi : K i) (name : String)
    (position : Option Nat) (sources : SourceSet) :
    Follows ρ K
      (modify fun st : ResolverState =>
        { st with found := ((i, name, position), sources) :: st.found })
      (modify fun st : ResolverState =>
        { st with found := ((j, name, position), sources) :: st.found }) := by
  intro σ σ' r σ₁ _ hx
  simp only [run_modify] at hx ⊢
  obtain ⟨-, rfl⟩ := hx
  refine ⟨_, rfl, [((i, name, position), sources)], [((j, name, position), sources)], rfl, rfl,
    List.Forall₂.cons ⟨hij, rfl, rfl⟩ List.Forall₂.nil, ?_⟩
  intro e he
  rw [List.mem_singleton.mp he]
  exact hi

end Rules

/-! ### The walk over agreeing arenas -/

section Walk

variable {A' : ScopeArena} {m m' : Nat}

variable {A : ScopeArena}

/-- `K` holds every scope that an output of a matched scope of `A` reads by
name. -/
def ReadsWithin (ρ : Renaming) (K : Nat → Prop) (A : ScopeArena) : Prop :=
  ∀ {i j : Nat} {S : Scope}, ρ.map i = some j → A.get? i = some S →
    ∀ k, Field.ListReadsScope S.fields k → K k

theorem ReadsWithin.of_mem (hK : ReadsWithin ρ K A) {i j : Nat} (hij : ρ.map i = some j)
    {S : Scope} (hS : A.get? i = some S) {g : Field} (hg : g ∈ S.fields) {k : Nat}
    (hk : g.ReadsScope k) : K k :=
  hK hij hS k (Field.listReadsScope_iff.mpr ⟨g, hg, hk⟩)

mutual

/-- **Following agreeing fields.** An agreeing field read in an arena with
agreeing outputs, with as much room below the depth limit, has the same
sources. -/
theorem field_follows (hA : OutputsRel ρ A A') (hK : ReadsWithin ρ K A) {d d' : Nat} (hd : m + d' ≤ m' + d)
    {named : Bool} (f f' : Field) (hf : FieldAgree ρ named f f') (hreads : ∀ k, f.ReadsScope k → K k) :
    Follows ρ K (field A m d f) (field A' m' d' f') := by
  match f, f', hf with
  | .column n r p, .column n' r' p', hf =>
    obtain ⟨-, ⟨hq, hc, hpos, ho⟩, -⟩ := hf
    rcases r with ⟨q, c, pos, o⟩
    rcases r' with ⟨q', c', pos', o'⟩
    dsimp only at hq hc hpos ho
    subst hq hc hpos
    cases o <;> cases o' <;> simp only [OriginRel, Origin.table.injEq, reduceCtorEq] at ho <;>
      simp only [field]
    case scope.scope child child' =>
      exact named_follows hA hK (by omega) child child' ho
        (hreads child (by simp [Field.ReadsScope])) _ _
    case table.table => subst ho; exact Follows.pure _
    all_goals exact Follows.pure _
  | .derived n ds p, .derived n' ds' p', hf =>
    obtain ⟨-, hds, -⟩ := hf
    simp only [field]
    exact fields_follows hA hK hd ds ds' (fieldsRel_iff.mp hds) fun k hk => hreads k hk
  | .scalar n child p, .scalar n' child' p', hf =>
    obtain ⟨-, hchild, -⟩ := hf
    simp only [field]
    by_cases hlim : m < d + 1
    · rw [dif_pos hlim]
      exact Follows.throw _ _
    · rw [dif_neg hlim, dif_neg (by omega)]
      cases hS : A.get? child with
      | none => exact Follows.throw _ _
      | some S =>
        have hrel := hA hchild
        rw [hS] at hrel
        generalize A'.get? child' = o' at hrel ⊢
        cases hrel with
        | some hfs =>
          simp only [fieldsDeeper]
          exact fields_follows hA hK (by omega) _ _ hfs (hK hchild hS)
  | .constant .., f', hf =>
    cases hf
    simp only [field]
    exact Follows.pure _
  | .wildcard .., f', hf =>
    cases hf
    simp only [field]
    exact Follows.pure _
termination_by (m + 1 - d, sizeOf f, 1)
decreasing_by
  all_goals (simp only [Prod.lex_def, Field.column.sizeOf_spec, Field.derived.sizeOf_spec,
    true_and]; omega)

theorem fields_follows (hA : OutputsRel ρ A A') (hK : ReadsWithin ρ K A) {d d' : Nat} (hd : m + d' ≤ m' + d)
    {named : Bool} (fs fs' : List Field) (hfs : List.Forall₂ (FieldAgree ρ named) fs fs')
    (hreads : ∀ k, Field.ListReadsScope fs k → K k) :
    Follows ρ K (fields A m d fs) (fields A' m' d' fs') := by
  match fs, fs', hfs with
  | [], [], _ =>
    simp only [fields]
    exact Follows.pure _
  | f :: rest, f' :: rest', .cons hf hrest =>
    simp only [fields]
    exact Follows.bind
      (field_follows hA hK hd f f' hf fun k hk => hreads k (Or.inl hk)) fun a =>
      Follows.bind (fields_follows hA hK hd rest rest' hrest fun k hk => hreads k (Or.inr hk))
        fun b => Follows.pure _
termination_by (m + 1 - d, sizeOf fs, 1)
decreasing_by all_goals (simp only [Prod.lex_def, List.cons.sizeOf_spec, true_and]; omega)

theorem named_follows (hA : OutputsRel ρ A A') (hK : ReadsWithin ρ K A) {d d' : Nat} (hd : m + d' ≤ m' + d)
    (i j : Nat) (hij : ρ.map i = some j) (hi : K i) (name : String)
    (position : Option Nat) :
    Follows ρ K (named A m d i name position) (named A' m' d' j name position) := by
  simp only [named]
  refine Follows.get_bind fun σ σ' hrel => ?_
  rw [hrel hi hij name position]
  cases σ.found.lookup (i, name, position) with
  | some sources => exact Follows.pure _
  | none =>
    by_cases hlim : m < d
    · rw [dif_pos hlim]
      exact Follows.throw _ _
    · rw [dif_neg hlim, dif_neg (by omega)]
      exact Follows.bind (lookup_follows hA hK hd i j hij name position hlim (by omega))
        fun sources => Follows.bind (follows_store hij hi name position sources)
          fun _ => Follows.pure _
termination_by (m + 2 - d, 0, 1)
decreasing_by all_goals (simp only [Prod.lex_def, true_and]; omega)

theorem lookup_follows (hA : OutputsRel ρ A A') (hK : ReadsWithin ρ K A) {d d' : Nat} (hd : m + d' ≤ m' + d)
    (i j : Nat) (hij : ρ.map i = some j) (name : String)
    (position : Option Nat) (h : ¬ m < d) (h' : ¬ m' < d') :
    Follows ρ K (lookup A m d i name position h) (lookup A' m' d' j name position h') := by
  simp only [lookup]
  have hrel := hA hij
  cases hS : A.get? i with
  | none => exact Follows.throw _ _
  | some S =>
    rw [hS] at hrel
    generalize A'.get? j = o' at hrel ⊢
    cases hrel with
    | some hfs =>
      rename_i S'
      obtain ⟨hchosen, hrepeated⟩ := chooseField_rel hfs name position
      have hmem : ∀ {g}, (chooseField S.fields name position).1 = some g → g ∈ S.fields :=
        chooseField_mem
      dsimp only
      rw [hrepeated]
      refine Follows.ite_bind (follows_duplicateOutput name i j) ?_
      generalize (chooseField S.fields name position).1 = chosen at hchosen hmem ⊢
      generalize (chooseField S'.fields name position).1 = chosen' at hchosen ⊢
      cases hchosen with
      | some hg =>
        rename_i g g'
        exact field_follows hA hK hd g g' hg fun k hk => hK.of_mem hij hS (hmem rfl) hk
      | none =>
        have hstars := Forall₂.filter_isStar hfs
        have hsub : ∀ {g}, g ∈ S.fields.filter Field.isStar → g ∈ S.fields :=
          fun hg => (List.mem_filter.mp hg).1
        generalize S.fields.filter Field.isStar = stars at hstars hsub ⊢
        generalize S'.fields.filter Field.isStar = stars' at hstars ⊢
        match stars, stars', hstars with
        | [], [], _ => exact Follows.pure _
        | [star], [star'], .cons hstar .nil =>
          -- a star over a derived scope is followed into the scope; any other
          -- star gives the source itself
          dsimp only
          split
          · obtain ⟨child', ho, rfl⟩ := FieldRel.of_scope_left hstar
            exact named_follows hA hK (by omega) _ child' ho
              (hK.of_mem hij hS (hsub (List.mem_singleton_self _))
                (by simp [Field.ReadsScope])) name none
          · rename_i hnot
            split
            · obtain ⟨_, rfl⟩ := FieldRel.of_scope_right hstar
              exact absurd rfl (hnot _ _ _ _ _ _)
            · rw [starSource_eq hstar]
              exact Follows.pure _
        | _ :: _ :: _, _ :: _ :: _, _ => exact Follows.pure _
termination_by (m + 2 - d, 0, 0)
decreasing_by all_goals (simp only [Prod.lex_def]; omega)

end

end Walk

end Resolve

end ColumnLineage
