import ColumnLineage.Proofs.Provenance
/-
ColumnLineage/Proofs/Acyclic.lean

The arena a walk builds is a well-formed, acyclic graph of scopes. Every scope
sits at its own id; every scope that a parent link, a binding or a leaf of an
output names is in the arena; a column read from a scope at a place names the
output at that place; and the order in which the walk closed the scopes puts
each scope after every scope it names (`ScopeArena.WellFormed`). That order is
read off the arena: scopes close innermost first, so a scope closes before
each scope around it and before every scope opened after it that it does not
enclose (`ScopeArena.ClosesBefore`).

The walk to sources goes from a scope only to scopes it names, one level
deeper each time, so on such an arena the rank of a scope in that order
bounds how much deeper the walk can go from it. Hence the walk never meets an
unknown scope and fails only at the depth limit (`WellFormed.fails_only_at_limit`),
and with a limit at least the number of scopes it never fails
(`WellFormed.sourcesOf_ok`).

Main statement (`walk_builds_acyclic_arena`): after every walk over a
statement that succeeds, the arena is well formed, and the walk to sources on
it behaves so.
-/

namespace ColumnLineage

open Run Resolve

/-- All the scopes of `A`, each once, in the order they close, and that order
puts every scope after each scope it names. -/
structure ScopeArena.Ranking (A : ScopeArena) (order : List Nat) : Prop where
  nodup : order.Nodup
  mem : ∀ {k}, k ∈ order ↔ k < A.size
  closes : ∀ {k i}, k < A.size → i < A.size → (order.idxOf k < order.idxOf i ↔ A.ClosesBefore k i)
  before : ∀ {i S k}, A.get? i = some S → S.Holds k → order.idxOf k < order.idxOf i

/-- What a walk over a statement leaves: each scope at its own id, every scope
named in the arena a scope of it, every column read at a place naming the
output there, every scope named by a scope closed before it, and the scopes
ranked in the order they close. -/
structure ScopeArena.WellFormed (A : ScopeArena) : Prop where
  ids : ∀ {i S}, A.get? i = some S → S.id = i
  parents : ∀ {i S p}, A.get? i = some S → S.parent = some p → p < A.size
  names : ∀ {i S k}, A.get? i = some S → S.Holds k → k < A.size
  places : ∀ {i S n ref p c q}, A.get? i = some S →
    .column n ref p ∈ Field.listLeaves S.fields → ref.origin = .scope c → ref.position = some q →
    ∃ C g, A.get? c = some C ∧ C.fields[q]? = some g ∧ g.name = ref.column
  closing : ∀ {i S k}, A.get? i = some S → S.Holds k → A.ClosesBefore k i
  ranked : ∃ order, A.Ranking order

namespace ScopeArena

variable {A : ScopeArena} {order : List Nat}

/-- A ranking lists every scope once. -/
theorem Ranking.length_eq (hr : A.Ranking order) : order.length = A.size := by
  have hperm : order.Perm (List.range A.size) :=
    (List.perm_ext_iff_of_nodup hr.nodup List.nodup_range).mpr fun k => by
      simp [hr.mem]
  simpa using hperm.length_eq

/-- The rank of a scope is below the number of scopes. -/
theorem Ranking.rank_lt (hr : A.Ranking order) {i : Nat} (hi : i < A.size) :
    order.idxOf i < A.size :=
  hr.length_eq ▸ List.idxOf_lt_length_of_mem (hr.mem.mpr hi)

end ScopeArena

/-! ### The walk to sources on a ranked arena -/

section Ranked

variable {A : ScopeArena} {order : List Nat} {m : Nat}

variable (m) in
/-- A run of `x` fails only at the depth limit `m`, and only when `m` is below
`bound`. -/
def FailsPast {α : Type} (bound : Nat) (x : Resolve α) : Prop :=
  ∀ σ e σ', x.run.run σ = (.error e, σ') → e = .depthExceeded m ∧ m < bound

namespace FailsPast

variable {α β : Type} {b : Nat}

theorem pure (a : α) : FailsPast m b (Pure.pure a : Resolve α) := by
  intro σ e σ' h
  cases h

theorem limit (h : m < b) : FailsPast m b (throw (.depthExceeded m) : Resolve α) := by
  intro σ e σ' hr
  cases hr
  exact ⟨rfl, h⟩

theorem mono {b' : Nat} {x : Resolve α} (hx : FailsPast m b x) (hb : b ≤ b') : FailsPast m b' x :=
  fun σ e σ' hr => (hx σ e σ' hr).imp_right fun h => Nat.lt_of_lt_of_le h hb

theorem bind {x : Resolve α} {f : α → Resolve β} (hx : FailsPast m b x)
    (hf : ∀ a, FailsPast m b (f a)) : FailsPast m b (x >>= f) := by
  intro σ e σ' hr
  rcases hrun : x.run.run σ with ⟨_ | a, σ₁⟩
  · rw [run_bind_of_error hrun] at hr
    cases hr
    exact hx σ _ _ hrun
  · rw [run_bind_of_ok hrun] at hr
    exact hf a σ₁ e σ' hr

/-- The warning of a duplicate name never fails. -/
theorem duplicate_bind {c : Prop} [Decidable c] (column : String) (scope : Nat)
    {k : Resolve α} (hk : FailsPast m b k) :
    FailsPast m b (if c then duplicateOutput column scope >>= fun _ => k else k) := by
  by_cases hc : c
  · simp only [hc, if_true, duplicateOutput]
    intro σ e σ' hr
    rw [run_bind_of_ok (run_modify _ σ)] at hr
    exact hk _ e σ' hr
  · simp only [hc, if_false]
    exact hk

end FailsPast

/-- A scope named by a scope of the arena is a scope of the arena. -/
theorem ScopeArena.Ranking.lt_size (hr : A.Ranking order) {i k : Nat} {S : Scope}
    (hS : A.get? i = some S) (hk : S.Holds k) : k < A.size := by
  have hlen : order.idxOf i < order.length :=
    hr.length_eq ▸ hr.rank_lt (ScopeArena.lt_size_of_get? hS)
  exact hr.mem.mp (List.idxOf_lt_length_iff.mp (Nat.lt_trans (hr.before hS hk) hlen))

/-- Every scope a scope names closed before it. -/
theorem ScopeArena.Ranking.closesBefore (hr : A.Ranking order) {i k : Nat} {S : Scope}
    (hS : A.get? i = some S) (hk : S.Holds k) : A.ClosesBefore k i :=
  (hr.closes (hr.lt_size hS hk) (ScopeArena.lt_size_of_get? hS)).mp (hr.before hS hk)

mutual

/-- A field read from the outputs of scope `i` at depth `d` fails only at the
limit, and only when the limit is below `d` plus the rank of `i`. -/
theorem field_failsPast (hr : A.Ranking order) (d : Nat) (f : Field) {i : Nat} {S : Scope}
    (hS : A.get? i = some S) (hf : ∀ g ∈ f.leaves, g ∈ Field.listLeaves S.fields) :
    FailsPast m (d + order.idxOf i) (field A m d f) := by
  match f with
  | .column n ref p =>
    rcases ho : ref.origin with _ | t | c | labels | _ <;> simp only [field, ho]
    case scope =>
      -- the column reads scope `c`, which comes before `i`
      have hc : S.Holds c := .inr ⟨.column n ref p, hf _ (by simp), ho⟩
      have hlt := hr.before hS hc
      exact (named_failsPast hr (d + 1) c ref.column ref.position (hr.lt_size hS hc)).mono
        (by omega)
    all_goals exact FailsPast.pure _
  | .derived n deps p =>
    simp only [field]
    exact fields_failsPast hr d deps hS (by simpa using hf)
  | .scalar n k p =>
    simp only [field]
    -- the subquery is scope `k`, which comes before `i`
    have hk : S.Holds k := .inr ⟨.scalar n k p, hf _ (by simp), rfl⟩
    have hlt := hr.before hS hk
    by_cases hlim : m < d + 1
    · rw [dif_pos hlim]
      exact FailsPast.limit (by omega)
    · rw [dif_neg hlim]
      obtain ⟨K, hK⟩ := ScopeArena.exists_get?_of_lt (hr.lt_size hS hk)
      simp only [hK, fieldsDeeper]
      exact (fields_failsPast hr (d + 1) K.fields hK fun _ hg => hg).mono (by omega)
  | .constant n p =>
    simp only [field]
    exact FailsPast.pure _
  | .wildcard n t p =>
    simp only [field]
    exact FailsPast.pure _
termination_by (m + 1 - d, sizeOf f, 1)
decreasing_by
  all_goals (simp only [Prod.lex_def, Field.column.sizeOf_spec, Field.derived.sizeOf_spec,
    true_and]; omega)

theorem fields_failsPast (hr : A.Ranking order) (d : Nat) (fs : List Field) {i : Nat}
    {S : Scope} (hS : A.get? i = some S)
    (hfs : ∀ g ∈ Field.listLeaves fs, g ∈ Field.listLeaves S.fields) :
    FailsPast m (d + order.idxOf i) (fields A m d fs) := by
  match fs with
  | [] =>
    simp only [fields]
    exact FailsPast.pure _
  | f :: rest =>
    simp only [fields]
    have hhead : ∀ g ∈ f.leaves, g ∈ Field.listLeaves S.fields :=
      fun g hg => hfs g (by simp [hg])
    have hrest : ∀ g ∈ Field.listLeaves rest, g ∈ Field.listLeaves S.fields :=
      fun g hg => hfs g (by simp [hg])
    exact (field_failsPast hr d f hS hhead).bind fun _ =>
      (fields_failsPast hr d rest hS hrest).bind fun _ => FailsPast.pure _
termination_by (m + 1 - d, sizeOf fs, 1)
decreasing_by all_goals (simp only [Prod.lex_def, List.cons.sizeOf_spec, true_and]; omega)

/-- A name of scope `c` looked up at depth `d` fails only at the limit, and
only when the limit is below `d` plus the rank of `c`. -/
theorem named_failsPast (hr : A.Ranking order) (d c : Nat) (name : String)
    (position : Option Nat) (hc : c < A.size) :
    FailsPast m (d + order.idxOf c) (named A m d c name position) := by
  intro σ e σ' hrun
  simp only [named] at hrun
  rw [run_bind_of_ok (run_get σ)] at hrun
  cases hfound : σ.found.lookup (c, name, position) with
  | some sources =>
    -- a name found before is handed back and never fails
    rw [hfound] at hrun
    cases hrun
  | none =>
    rw [hfound] at hrun
    dsimp only at hrun
    by_cases hlim : m < d
    · rw [dif_pos hlim] at hrun
      cases hrun
      exact ⟨rfl, by omega⟩
    · rw [dif_neg hlim] at hrun
      rcases hl : (lookup A m d c name position hlim).run.run σ with ⟨_ | sources, σ₁⟩
      · rw [run_bind_of_error hl] at hrun
        cases hrun
        exact lookup_failsPast hr d c name position hlim hc σ _ _ hl
      · rw [run_bind_of_ok hl, run_bind_of_ok (run_modify _ σ₁)] at hrun
        cases hrun
termination_by (m + 2 - d, 0, 1)
decreasing_by all_goals (simp only [Prod.lex_def, true_and]; omega)

theorem lookup_failsPast (hr : A.Ranking order) (d c : Nat) (name : String)
    (position : Option Nat) (h : ¬ m < d) (hc : c < A.size) :
    FailsPast m (d + order.idxOf c) (lookup A m d c name position h) := by
  obtain ⟨C, hC⟩ := ScopeArena.exists_get?_of_lt hc
  simp only [lookup, hC]
  refine FailsPast.duplicate_bind name c ?_
  cases hch : (chooseField C.fields name position).1 with
  | some f =>
    exact field_failsPast hr d f hC fun g hg =>
      Field.mem_listLeaves.mpr ⟨f, chooseField_mem hch, hg⟩
  | none =>
    match hstars : C.fields.filter Field.isStar with
    | [] => exact FailsPast.pure _
    | [star] =>
      match star with
      | .column n { qualifier, column, position := pos, origin := .scope child } p =>
        -- the one wildcard reads scope `child`, which comes before `c`
        have hmem : Field.column n { qualifier, column, position := pos, origin := .scope child } p
            ∈ C.fields := by
          have hin := List.mem_singleton_self
            (Field.column n { qualifier, column, position := pos, origin := .scope child } p)
          rw [← hstars] at hin
          exact (List.mem_filter.mp hin).1
        have hleaf : Field.column n { qualifier, column, position := pos, origin := .scope child } p
            ∈ Field.listLeaves C.fields := Field.mem_listLeaves.mpr ⟨_, hmem, by simp⟩
        have hk : C.Holds child := .inr ⟨_, hleaf, rfl⟩
        have hlt := hr.before hC hk
        exact (named_failsPast hr (d + 1) child name none (hr.lt_size hC hk)).mono (by omega)
      | .column _ { origin := .table _, .. } _ | .column _ { origin := .pending, .. } _
      | .column _ { origin := .ambiguous _, .. } _ | .column _ { origin := .unbound, .. } _
      | .derived .. | .scalar .. | .constant .. | .wildcard .. => exact FailsPast.pure _
    | _ :: _ :: _ => exact FailsPast.pure _
termination_by (m + 2 - d, 0, 0)
decreasing_by all_goals (simp only [Prod.lex_def]; omega)

end

end Ranked

namespace ScopeArena.WellFormed

variable {A : ScopeArena} (hA : A.WellFormed)
include hA

/-- **The walk to sources meets no unknown scope.** On a well-formed arena,
reading an output of any scope, from any depth and any table of found names,
fails only at the depth limit. -/
theorem fails_only_at_limit {m depth i : Nat} {S : Scope} {f : Field} {σ σ' : ResolverState}
    {e : LineageError} (hS : A.get? i = some S) (hf : f ∈ S.fields)
    (hrun : (field A m depth f).run.run σ = (.error e, σ')) : e = .depthExceeded m := by
  obtain ⟨order, hr⟩ := hA.ranked
  exact (field_failsPast hr depth f hS (fun g hg => Field.mem_listLeaves.mpr ⟨f, hf, hg⟩)
    σ e σ' hrun).1

/-- **With room for every scope the walk to sources never fails.** On a
well-formed arena, with a limit at least the number of scopes less one,
reading an output of any scope from the top gives its sources. -/
theorem sourcesOf_ok {m i : Nat} {S : Scope} {f : Field} (σ : ResolverState)
    (hm : A.size ≤ m + 1) (hS : A.get? i = some S) (hf : f ∈ S.fields) :
    ∃ r σ', (sourcesOf A m f).run.run σ = (.ok r, σ') := by
  obtain ⟨order, hr⟩ := hA.ranked
  rcases hrun : (sourcesOf A m f).run.run σ with ⟨_ | r, σ'⟩
  · -- a failure would need a limit below the rank of `i`, which is below the size
    have hfail := field_failsPast hr 0 f hS (fun g hg => Field.mem_listLeaves.mpr ⟨f, hf, hg⟩)
      σ _ σ' hrun
    have hrank := hr.rank_lt (ScopeArena.lt_size_of_get? hS)
    omega
  · exact ⟨r, σ', rfl⟩

end ScopeArena.WellFormed

/-! ### What the walk over a statement builds -/

/-- A sound arena with no scope open is well formed. -/
theorem Detector.Sound.wellFormed {M : List Mention} {d : Detector} (h : d.Sound M)
    (hv : d.Valid) (hstack : d.arena.stack = []) : d.arena.WellFormed := by
  -- with no scope open, every scope of the arena is done
  have hdone : ∀ {k}, d.arena.Done k ↔ k < d.arena.size := by
    intro k
    simp [ScopeArena.Done, hstack]
  -- the order the scopes closed in ranks all of them
  obtain ⟨order, ho⟩ := h.order
  have hr : d.arena.Ranking order :=
    ⟨ho.nodup, fun {k} => (ho.mem k).trans hdone,
      fun hk hi => ho.closes (hdone.mpr hk) (hdone.mpr hi),
      fun hS hk => ho.before hS (hdone.mpr (ScopeArena.lt_size_of_get? hS)) hk⟩
  refine ⟨h.ids, fun hS hp => ?_, fun hS hk => (h.holds_done hv hS hk).1, ?_, hr.closesBefore,
    order, hr⟩
  · have hlt := hv.shaped.parent_lt hS hp
    have hi := ScopeArena.lt_size_of_get? hS
    omega
  · intro i S n ref p c q hS hleaf ho hq
    have hg := h.grounded hS _ hleaf
    simp only [Detector.Grounded, Detector.RefGrounded, ho, hq] at hg
    exact hg.2

/-- **The walk builds a well-formed, acyclic arena.** After a walk over a
statement that succeeds, the arena is well formed: each scope at its own id,
every scope named in it a scope of it, every column read at a place naming
the output there, and every scope a scope names closed before it, scopes
closing innermost first; all the scopes listed in that order. So the walk to
sources on it never meets an unknown scope at any limit, failing only at the
limit itself, and with a limit at least the number of scopes less one it
never fails. -/
theorem walk_builds_acyclic_arena {catalog : Catalog} {maxDepth : Nat} {st : Sql.Statement}
    {d : Detector} (h : (Detector.new catalog maxDepth).detect st = (.ok (), d)) :
    d.arena.WellFormed ∧
      (∀ m depth i S f σ e σ', d.arena.get? i = some S → f ∈ S.fields →
        (field d.arena m depth f).run.run σ = (.error e, σ') → e = .depthExceeded m) ∧
      ∀ m i S f σ, d.arena.size ≤ m + 1 → d.arena.get? i = some S → f ∈ S.fields →
        ∃ r σ', (sourcesOf d.arena m f).run.run σ = (.ok r, σ') := by
  obtain ⟨hv, -, hstack, hsound⟩ := detect_sound h
  have hA := hsound.wellFormed hv hstack
  exact ⟨hA, fun _ _ _ _ _ _ _ _ hS hf hrun => hA.fails_only_at_limit hS hf hrun,
    fun _ _ _ _ σ hm hS hf => hA.sourcesOf_ok σ hm hS hf⟩

theorem missingFromDerived_acyclic :
    (Detector.new {} 3).detect missingFromDerived =
        (.ok (), ((Detector.new {} 3).detect missingFromDerived).2) ∧
      ((Detector.new {} 3).detect missingFromDerived).2.arena.WellFormed ∧
      (∀ m depth i S f σ e σ',
        ((Detector.new {} 3).detect missingFromDerived).2.arena.get? i = some S → f ∈ S.fields →
        (field ((Detector.new {} 3).detect missingFromDerived).2.arena m depth f).run.run σ =
          (.error e, σ') → e = .depthExceeded m) ∧
      ∀ m i S f σ, ((Detector.new {} 3).detect missingFromDerived).2.arena.size ≤ m + 1 →
        ((Detector.new {} 3).detect missingFromDerived).2.arena.get? i = some S → f ∈ S.fields →
        ∃ r σ', (sourcesOf ((Detector.new {} 3).detect missingFromDerived).2.arena m f).run.run σ =
          (.ok r, σ') :=
  ⟨missingFromDerived_walks, walk_builds_acyclic_arena missingFromDerived_walks⟩

end ColumnLineage
