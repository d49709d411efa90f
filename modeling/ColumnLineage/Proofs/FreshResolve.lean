import ColumnLineage.Proofs.Run
/-
ColumnLineage/Proofs/FreshResolve.lean

The walk to sources without its table of found names. `Resolve` keeps the
sources found for each name of a scope and hands them back when the name is
met again; the fresh walk here is the same walk with that table removed, so
every lookup is made anew, at the depth where it is met. It is the reference
the memoising walk is compared with in `Proofs/Memo`.

Two laws of the fresh walk carry the comparison.

* Depth (`Shallower`): a walk that does not stop at the depth limit gives the
  same answer, leaving the same state, when it starts from any smaller depth.
  The depth is read only by the two guards, and a guard that passes at some
  depth passes at every smaller one.
* Rerun (`Settled`): a walk only ever adds warnings, and run again from a
  state that already holds the warnings of its first run, it gives the same
  answer and changes nothing. Its answer never depends on the state, and a
  warning is added only when it is not there yet.
-/

namespace ColumnLineage.Resolve.Fresh

open Run

mutual

/-- The sources of a field read at depth `depth`, every name looked up
afresh. -/
def field (arena : ScopeArena) (maxDepth depth : Nat) (f : Field) : Resolve SourceSet :=
  match f with
  | .column _ ref _ =>
    match ref.origin with
    | .table t => pure [{ table := some t, field := ref.column }]
    | .scope child => named arena maxDepth (depth + 1) child ref.column ref.position
    | .ambiguous _ => pure [{ table := ref.qualifier, field := ref.column, kind := .ambiguous }]
    | .unbound | .pending =>
      pure [{ table := ref.qualifier, field := ref.column, kind := .unresolved }]
  | .derived _ deps _ => fields arena maxDepth depth deps
  | .scalar _ child _ =>
    if h : maxDepth < depth + 1 then throw (.depthExceeded maxDepth)
    else
      match arena.get? child with
      | none => throw (.malformed ("unknown scope " ++ toString child))
      | some s => fieldsDeeper arena maxDepth depth s.fields h
  | .constant n _ => pure [{ table := none, field := n, kind := .literal }]
  | .wildcard _ t _ => pure [{ table := t, field := "*", kind := .unresolvedWildcard }]
termination_by (maxDepth + 1 - depth, sizeOf f, 1)

/-- The sources of fields read at depth `depth`, together. -/
def fields (arena : ScopeArena) (maxDepth depth : Nat) (fs : List Field) : Resolve SourceSet :=
  match fs with
  | [] => pure []
  | f :: rest => do
    let a ← field arena maxDepth depth f
    let b ← fields arena maxDepth depth rest
    return SourceSet.union a b
termination_by (maxDepth + 1 - depth, sizeOf fs, 1)

/-- The sources of the outputs of a scalar subquery, one level deeper. -/
def fieldsDeeper (arena : ScopeArena) (maxDepth depth : Nat) (fs : List Field)
    (_h : ¬ maxDepth < depth + 1) : Resolve SourceSet :=
  fields arena maxDepth (depth + 1) fs
termination_by (maxDepth + 1 - depth, 0, 0)

/-- The sources of the output named `name` of scope `id`, looked up at depth
`depth` whether or not it was looked up before. -/
def named (arena : ScopeArena) (maxDepth depth id : Nat) (name : String)
    (position : Option Nat) : Resolve SourceSet :=
  if h : maxDepth < depth then throw (.depthExceeded maxDepth)
  else lookup arena maxDepth depth id name position h
termination_by (maxDepth + 2 - depth, 0, 1)

/-- Looks a name up in the output of scope `id`. -/
def lookup (arena : ScopeArena) (maxDepth depth id : Nat) (name : String)
    (position : Option Nat) (_h : ¬ maxDepth < depth) : Resolve SourceSet := do
  match arena.get? id with
  | none => throw (.malformed ("unknown scope " ++ toString id))
  | some s =>
    let (chosen, repeated) := chooseField s.fields name position
    if repeated then duplicateOutput name id
    match chosen with
    | some f => field arena maxDepth depth f
    | none =>
      match s.fields.filter Field.isStar with
      | [star] =>
        match star with
        | .column _ { origin := .scope child, .. } _ =>
          named arena maxDepth (depth + 1) child name none
        | _ => pure (starSource star name)
      | [] => pure [{ table := none, field := name, kind := .unresolved }]
      | _ => pure [{ table := none, field := name, kind := .ambiguous }]
termination_by (maxDepth + 2 - depth, 0, 0)

end

/-- The sources of each of `fs` in turn, with one fresh walk: the outcome of
each and the warnings of all. -/
def sourcesOfEach (arena : ScopeArena) (maxDepth : Nat) (fs : List Field) :
    List (Except LineageError SourceSet) × List LineageError :=
  let step := fun (f : Field) => tryCatch (Except.ok <$> field arena maxDepth 0 f)
    (fun e => pure (Except.error e))
  let (result, st) := (fs.mapM step).run.run {}
  match result with
  | .ok rs => (rs, st.warnings)
  | .error _ => ([], st.warnings)

/-! ### The depth law -/

section Depth

variable {α : Type} (maxDepth : Nat)

/-- `x'` gives the answer of `x`, leaving the same state, whenever `x` does
not stop at the depth limit `maxDepth`. -/
def Shallower (x x' : Resolve α) : Prop :=
  ∀ τ r τ', x.run.run τ = (r, τ') → r ≠ .error (.depthExceeded maxDepth) →
    x'.run.run τ = (r, τ')

variable {maxDepth}

theorem Shallower.refl (x : Resolve α) : Shallower maxDepth x x :=
  fun _ _ _ h _ => h

theorem Shallower.bind {β : Type} {x x' : Resolve α} {f f' : α → Resolve β}
    (hx : Shallower maxDepth x x') (hf : ∀ a, Shallower maxDepth (f a) (f' a)) :
    Shallower maxDepth (x >>= f) (x' >>= f') := by
  intro τ r τ' h hr
  rcases hxτ : x.run.run τ with ⟨_ | a, τ₁⟩
  · -- the first step failed, and so did the sequence, with its error
    rename_i e
    rw [run_bind_of_error hxτ] at h
    obtain ⟨rfl, rfl⟩ := Prod.mk.inj h
    have he : (Except.error e : Except LineageError α) ≠ .error (.depthExceeded maxDepth) := by
      rintro ⟨⟩
      exact hr rfl
    exact run_bind_of_error (hx τ _ _ hxτ he)
  · rw [run_bind_of_ok hxτ] at h
    rw [run_bind_of_ok (hx τ _ _ hxτ (by simp))]
    exact hf a τ₁ r τ' h hr

/-- A step that may come first, run on both sides. -/
theorem Shallower.ite_bind {c : Prop} [Decidable c] {y : Resolve Unit} {k k' : Resolve α}
    (hk : Shallower maxDepth k k') :
    Shallower maxDepth (if c then y >>= fun _ => k else k)
      (if c then y >>= fun _ => k' else k') := by
  by_cases hc : c
  · simp only [hc, if_true]
    exact Shallower.bind (Shallower.refl y) fun _ => hk
  · simp only [hc, if_false]
    exact hk

/-- A walk stopping at the limit is shallower than anything. -/
theorem Shallower.of_throw (x' : Resolve α) :
    Shallower maxDepth (throw (.depthExceeded maxDepth)) x' := by
  intro τ r τ' h hr
  rw [run_throw] at h
  cases h
  exact absurd rfl hr

end Depth

section

variable {arena : ScopeArena} {maxDepth : Nat}

mutual

/-- **Depth law.** Reading a field from a smaller depth changes nothing, unless
the deeper read stopped at the limit. -/
theorem field_shallower {d d' : Nat} (hd : d' ≤ d) (f : Field) :
    Shallower maxDepth (field arena maxDepth d f) (field arena maxDepth d' f) := by
  match f with
  | .column n ref p =>
    rcases ho : ref.origin with _ | t | child | labels | _ <;>
      simp only [field, ho]
    case scope => exact named_shallower (by omega) child ref.column ref.position
    all_goals exact Shallower.refl _
  | .derived n deps p =>
    simp only [field]
    exact fields_shallower hd deps
  | .scalar n child p =>
    simp only [field]
    by_cases hlim : maxDepth < d + 1
    · rw [dif_pos hlim]
      exact Shallower.of_throw _
    · have hlim' : ¬ maxDepth < d' + 1 := by omega
      rw [dif_neg hlim, dif_neg hlim']
      cases arena.get? child with
      | none => exact Shallower.refl _
      | some s =>
        simp only [fieldsDeeper]
        exact fields_shallower (by omega) s.fields
  | .constant n p =>
    simp only [field]
    exact Shallower.refl _
  | .wildcard n t p =>
    simp only [field]
    exact Shallower.refl _
termination_by (maxDepth + 1 - d, sizeOf f, 1)
decreasing_by
  all_goals (simp only [Prod.lex_def, Field.column.sizeOf_spec, Field.derived.sizeOf_spec,
    true_and]; omega)

theorem fields_shallower {d d' : Nat} (hd : d' ≤ d) (fs : List Field) :
    Shallower maxDepth (fields arena maxDepth d fs) (fields arena maxDepth d' fs) := by
  match fs with
  | [] =>
    simp only [fields]
    exact Shallower.refl _
  | f :: rest =>
    simp only [fields]
    exact Shallower.bind (field_shallower hd f) fun a =>
      Shallower.bind (fields_shallower hd rest) fun b => Shallower.refl _
termination_by (maxDepth + 1 - d, sizeOf fs, 1)
decreasing_by all_goals (simp only [Prod.lex_def, List.cons.sizeOf_spec, true_and]; omega)

theorem named_shallower {d d' : Nat} (hd : d' ≤ d) (id : Nat) (name : String)
    (position : Option Nat) :
    Shallower maxDepth (named arena maxDepth d id name position)
      (named arena maxDepth d' id name position) := by
  simp only [named]
  by_cases hlim : maxDepth < d
  · rw [dif_pos hlim]
    exact Shallower.of_throw _
  · have hlim' : ¬ maxDepth < d' := by omega
    rw [dif_neg hlim, dif_neg hlim']
    exact lookup_shallower hd id name position hlim hlim'
termination_by (maxDepth + 2 - d, 0, 1)
decreasing_by all_goals (simp only [Prod.lex_def, true_and]; omega)

theorem lookup_shallower {d d' : Nat} (hd : d' ≤ d) (id : Nat) (name : String)
    (position : Option Nat) (h : ¬ maxDepth < d) (h' : ¬ maxDepth < d') :
    Shallower maxDepth (lookup arena maxDepth d id name position h)
      (lookup arena maxDepth d' id name position h') := by
  simp only [lookup]
  cases arena.get? id with
  | none => exact Shallower.refl _
  | some s =>
    -- both reads make the same choice and raise the same warning; only the
    -- depth of what follows the choice differs
    refine Shallower.ite_bind ?_
    cases (chooseField s.fields name position).1 with
    | some f => exact field_shallower hd f
    | none =>
      match s.fields.filter Field.isStar with
      | [] => exact Shallower.refl _
      | [star] =>
        match star with
        | .column _ { origin := .scope child, .. } _ =>
          exact named_shallower (by omega) child name none
        | .column _ { origin := .table _, .. } _ | .column _ { origin := .pending, .. } _
        | .column _ { origin := .ambiguous _, .. } _ | .column _ { origin := .unbound, .. } _
        | .derived .. | .scalar .. | .constant .. | .wildcard .. => exact Shallower.refl _
      | _ :: _ :: _ => exact Shallower.refl _
termination_by (maxDepth + 2 - d, 0, 0)
decreasing_by all_goals (simp only [Prod.lex_def]; omega)

end

end

/-! ### The rerun law -/

section Rerun

variable {α : Type}

/-- `x` only adds warnings, and run again from any state that holds the
warnings its run left, it gives the same answer and changes nothing. -/
def Settled (x : Resolve α) : Prop :=
  ∀ τ r τ', x.run.run τ = (r, τ') →
    τ.warnings <+: τ'.warnings ∧ ∀ τ'', τ'.warnings ⊆ τ''.warnings → x.run.run τ'' = (r, τ'')

theorem Settled.pure (a : α) : Settled (pure a : Resolve α) := by
  intro τ r τ' h
  obtain ⟨rfl, rfl⟩ := Prod.mk.inj h
  exact ⟨List.prefix_refl _, fun _ _ => rfl⟩

theorem Settled.throw (e : LineageError) : Settled (throw e : Resolve α) := by
  intro τ r τ' h
  obtain ⟨rfl, rfl⟩ := Prod.mk.inj h
  exact ⟨List.prefix_refl _, fun _ _ => rfl⟩

theorem Settled.bind {β : Type} {x : Resolve α} {f : α → Resolve β}
    (hx : Settled x) (hf : ∀ a, Settled (f a)) : Settled (x >>= f) := by
  intro τ r τ' h
  rcases hxτ : x.run.run τ with ⟨_ | a, τ₁⟩
  · rw [run_bind_of_error hxτ] at h
    obtain ⟨rfl, rfl⟩ := Prod.mk.inj h
    obtain ⟨grow, again⟩ := hx τ _ _ hxτ
    exact ⟨grow, fun τ'' hw => run_bind_of_error (again τ'' hw)⟩
  · rw [run_bind_of_ok hxτ] at h
    obtain ⟨grow₁, again₁⟩ := hx τ _ _ hxτ
    obtain ⟨grow₂, again₂⟩ := hf a τ₁ r τ' h
    refine ⟨grow₁.trans grow₂, fun τ'' hw => ?_⟩
    rw [run_bind_of_ok (again₁ τ'' (List.Subset.trans grow₂.subset hw))]
    exact again₂ τ'' hw

theorem Settled.ite_bind {c : Prop} [Decidable c] {y : Resolve Unit} {k : Resolve α}
    (hy : Settled y) (hk : Settled k) : Settled (if c then y >>= fun _ => k else k) := by
  by_cases hc : c
  · simp only [hc, if_true]
    exact Settled.bind hy fun _ => hk
  · simp only [hc, if_false]
    exact hk

/-- A duplicate name is warned of once: a second warning changes nothing. -/
theorem settled_duplicateOutput (column : String) (scope : Nat) :
    Settled (duplicateOutput column scope) := by
  intro τ r τ' h
  simp only [duplicateOutput, run_modify] at h
  obtain ⟨rfl, rfl⟩ := Prod.mk.inj h
  by_cases hw : τ.warnings.contains (.duplicateOutput column scope) = true
  · simp only [hw, if_true]
    refine ⟨List.prefix_refl _, fun τ'' hsub => ?_⟩
    have hin : LineageError.duplicateOutput column scope ∈ τ''.warnings :=
      hsub (List.contains_iff_mem.mp hw)
    simp [duplicateOutput, hin]
  · simp only [hw, Bool.false_eq_true, if_false]
    refine ⟨List.prefix_append _ _, fun τ'' hsub => ?_⟩
    have hin : LineageError.duplicateOutput column scope ∈ τ''.warnings :=
      hsub (List.mem_append_right _ (List.mem_singleton_self _))
    simp [duplicateOutput, hin]

end Rerun

section

variable {arena : ScopeArena} {maxDepth : Nat}

mutual

/-- **Rerun law.** Reading a field only adds warnings, and reading it again
once its warnings are there changes nothing. -/
theorem field_settled (d : Nat) (f : Field) : Settled (field arena maxDepth d f) := by
  match f with
  | .column n ref p =>
    rcases ho : ref.origin with _ | t | child | labels | _ <;>
      simp only [field, ho]
    case scope => exact named_settled (d + 1) child ref.column ref.position
    all_goals exact Settled.pure _
  | .derived n deps p =>
    simp only [field]
    exact fields_settled d deps
  | .scalar n child p =>
    simp only [field]
    by_cases hlim : maxDepth < d + 1
    · rw [dif_pos hlim]
      exact Settled.throw _
    · rw [dif_neg hlim]
      cases arena.get? child with
      | none => exact Settled.throw _
      | some s =>
        simp only [fieldsDeeper]
        exact fields_settled (d + 1) s.fields
  | .constant n p =>
    simp only [field]
    exact Settled.pure _
  | .wildcard n t p =>
    simp only [field]
    exact Settled.pure _
termination_by (maxDepth + 1 - d, sizeOf f, 1)
decreasing_by
  all_goals (simp only [Prod.lex_def, Field.column.sizeOf_spec, Field.derived.sizeOf_spec,
    true_and]; omega)

theorem fields_settled (d : Nat) (fs : List Field) : Settled (fields arena maxDepth d fs) := by
  match fs with
  | [] =>
    simp only [fields]
    exact Settled.pure _
  | f :: rest =>
    simp only [fields]
    exact Settled.bind (field_settled d f) fun a =>
      Settled.bind (fields_settled d rest) fun b => Settled.pure _
termination_by (maxDepth + 1 - d, sizeOf fs, 1)
decreasing_by all_goals (simp only [Prod.lex_def, List.cons.sizeOf_spec, true_and]; omega)

theorem named_settled (d id : Nat) (name : String) (position : Option Nat) :
    Settled (named arena maxDepth d id name position) := by
  simp only [named]
  by_cases hlim : maxDepth < d
  · rw [dif_pos hlim]
    exact Settled.throw _
  · rw [dif_neg hlim]
    exact lookup_settled d id name position hlim
termination_by (maxDepth + 2 - d, 0, 1)
decreasing_by all_goals (simp only [Prod.lex_def, true_and]; omega)

theorem lookup_settled (d id : Nat) (name : String) (position : Option Nat)
    (h : ¬ maxDepth < d) : Settled (lookup arena maxDepth d id name position h) := by
  simp only [lookup]
  cases arena.get? id with
  | none => exact Settled.throw _
  | some s =>
    refine Settled.ite_bind (settled_duplicateOutput name id) ?_
    cases (chooseField s.fields name position).1 with
    | some f => exact field_settled d f
    | none =>
      match s.fields.filter Field.isStar with
      | [] => exact Settled.pure _
      | [star] =>
        match star with
        | .column _ { origin := .scope child, .. } _ =>
          exact named_settled (d + 1) child name none
        | .column _ { origin := .table _, .. } _ | .column _ { origin := .pending, .. } _
        | .column _ { origin := .ambiguous _, .. } _ | .column _ { origin := .unbound, .. } _
        | .derived .. | .scalar .. | .constant .. | .wildcard .. => exact Settled.pure _
      | _ :: _ :: _ => exact Settled.pure _
termination_by (maxDepth + 2 - d, 0, 0)
decreasing_by all_goals (simp only [Prod.lex_def]; omega)

end

end

end ColumnLineage.Resolve.Fresh
