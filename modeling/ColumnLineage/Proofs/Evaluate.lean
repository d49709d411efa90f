import Mathlib.Control.Monad.Basic
import ColumnLineage.Proofs.FreshResolve
/-
ColumnLineage/Proofs/Evaluate.lean

The walk to sources with a bound on its calls, for running it on fixed
inputs. `Resolve` is defined by well-founded recursion on the depth left, so
neither `decide` nor the kernel can run it. The bounded walk here is the same
walk, with and without the table of found names (`memo`), by structural
recursion on a bound that every call lowers; when the bound runs out it
answers `none`.

Main statements: where the bounded walk finishes, its answer is the answer of
`Resolve` (`sourcesOfEach_of_bounded`) and of `Resolve.Fresh`
(`fresh_sourcesOfEach_of_bounded`). A statement about the walk at a fixed
input is then proved by running the bounded walk with `decide`.
-/

namespace ColumnLineage.Resolve.Bounded

open Run

/-- A step of the bounded walk: a step of the walk that may also run out of
its bound, answering `none`. -/
abbrev Walk (α : Type) := ExceptT LineageError (StateT ResolverState Option) α

variable {α β : Type}

/-- A step of the walk, as a step of the bounded walk that never runs out. -/
def lift (x : Resolve α) : Walk α :=
  ExceptT.mk fun σ => some (x.run.run σ)

/-- The bound ran out. -/
def exhausted : Walk α :=
  ExceptT.mk fun _ => none

mutual

/-- The sources of a field read at depth `depth`, within `n` calls. -/
def field (memo : Bool) (arena : ScopeArena) (maxDepth : Nat) :
    Nat → Nat → Field → Walk SourceSet
  | 0, _, _ => exhausted
  | n + 1, depth, .column _ ref _ =>
    match ref.origin with
    | .table t => pure [{ table := some t, field := ref.column }]
    | .scope child => named memo arena maxDepth n (depth + 1) child ref.column ref.position
    | .ambiguous _ => pure [{ table := ref.qualifier, field := ref.column, kind := .ambiguous }]
    | .unbound | .pending =>
      pure [{ table := ref.qualifier, field := ref.column, kind := .unresolved }]
  | n + 1, depth, .derived _ deps _ => fields memo arena maxDepth n depth deps
  | n + 1, depth, .scalar _ child _ =>
    if maxDepth < depth + 1 then throw (.depthExceeded maxDepth)
    else
      match arena.get? child with
      | none => throw (.malformed ("unknown scope " ++ toString child))
      | some s => fields memo arena maxDepth n (depth + 1) s.fields
  | _ + 1, _, .constant c _ => pure [{ table := none, field := c, kind := .literal }]
  | _ + 1, _, .wildcard _ t _ => pure [{ table := t, field := "*", kind := .unresolvedWildcard }]

/-- The sources of fields read at depth `depth`, together, within `n` calls. -/
def fields (memo : Bool) (arena : ScopeArena) (maxDepth : Nat) :
    Nat → Nat → List Field → Walk SourceSet
  | 0, _, _ => exhausted
  | _ + 1, _, [] => pure []
  | n + 1, depth, f :: rest => do
    let a ← field memo arena maxDepth n depth f
    let b ← fields memo arena maxDepth n depth rest
    return SourceSet.union a b

/-- The sources of the output `name` of scope `id`, within `n` calls; with
`memo`, found once and then taken from the table. -/
def named (memo : Bool) (arena : ScopeArena) (maxDepth : Nat) :
    Nat → Nat → Nat → String → Option Nat → Walk SourceSet
  | 0, _, _, _, _ => exhausted
  | n + 1, depth, id, name, position => do
    let st ← get
    match (if memo then st.found.lookup (id, name, position) else none) with
    | some sources => pure sources
    | none =>
      if maxDepth < depth then throw (.depthExceeded maxDepth)
      else
        let sources ← lookup memo arena maxDepth n depth id name position
        if memo then
          modify fun st => { st with found := ((id, name, position), sources) :: st.found }
        pure sources

/-- Looks a name up in the output of scope `id`, within `n` calls. -/
def lookup (memo : Bool) (arena : ScopeArena) (maxDepth : Nat) :
    Nat → Nat → Nat → String → Option Nat → Walk SourceSet
  | 0, _, _, _, _ => exhausted
  | n + 1, depth, id, name, position => do
    match arena.get? id with
    | none => throw (.malformed ("unknown scope " ++ toString id))
    | some s =>
      let (chosen, repeated) := chooseField s.fields name position
      if repeated then lift (duplicateOutput name id)
      match chosen with
      | some f => field memo arena maxDepth n depth f
      | none =>
        match s.fields.filter Field.isStar with
        | [star] =>
          match star with
          | .column _ { origin := .scope child, .. } _ =>
            named memo arena maxDepth n (depth + 1) child name none
          | _ => pure (starSource star name)
        | [] => pure [{ table := none, field := name, kind := .unresolved }]
        | _ => pure [{ table := none, field := name, kind := .ambiguous }]

end

/-- The outcome of each of `fs` in turn and the warnings of all, with one
bounded walk, each field within `fuel` calls; `none` when a bound ran out. -/
def sourcesOfEach (memo : Bool) (fuel : Nat) (arena : ScopeArena) (maxDepth : Nat)
    (fs : List Field) : Option (List (Except LineageError SourceSet) × List LineageError) :=
  let step := fun (f : Field) => tryCatch (Except.ok <$> field memo arena maxDepth fuel 0 f)
    (fun e => pure (Except.error e))
  ((fs.mapM step).run.run {}).map fun (result, st) =>
    match result with
    | .ok rs => (rs, st.warnings)
    | .error _ => ([], st.warnings)

/-! ### Running a bounded step -/

@[simp] theorem walk_pure (a : α) (σ : ResolverState) :
    (pure a : Walk α).run.run σ = some (.ok a, σ) := rfl

@[simp] theorem walk_throw (e : LineageError) (σ : ResolverState) :
    (throw e : Walk α).run.run σ = some (.error e, σ) := rfl

@[simp] theorem walk_get (σ : ResolverState) :
    (get : Walk ResolverState).run.run σ = some (.ok σ, σ) := rfl

@[simp] theorem walk_modify (f : ResolverState → ResolverState) (σ : ResolverState) :
    (modify f : Walk Unit).run.run σ = some (.ok (), f σ) := rfl

@[simp] theorem walk_lift (x : Resolve α) (σ : ResolverState) :
    (lift x).run.run σ = some (x.run.run σ) := rfl

@[simp] theorem walk_exhausted (σ : ResolverState) :
    (exhausted : Walk α).run.run σ = none := rfl

theorem walk_bind (y : Walk α) (g : α → Walk β) (σ : ResolverState) :
    (y >>= g).run.run σ = (y.run.run σ).bind fun
      | (.ok a, σ₁) => (g a).run.run σ₁
      | (.error e, σ₁) => some (.error e, σ₁) := by
  simp only [ExceptT.run_bind, StateT.run_bind]
  rcases y.run.run σ with _ | ⟨_ | _, σ₁⟩ <;> rfl

@[simp] theorem walk_catch (y : Walk α) (σ : ResolverState) :
    (tryCatch (Except.ok <$> y) (fun e => pure (Except.error e))).run.run σ =
      (y.run.run σ).map fun (r, σ₁) => (.ok r, σ₁) := by
  show (ExceptT.tryCatch (Except.ok <$> y) _).run.run σ = _
  simp only [ExceptT.tryCatch, ExceptT.run, ExceptT.mk, StateT.run, bind, StateT.bind,
    Functor.map, ExceptT.map]
  rcases y σ with _ | ⟨_ | _, σ₁⟩ <;> rfl

/-! ### Where a bounded step finishes, it agrees -/

/-- The step `x` answers as the bounded step `y` wherever `y` finishes. -/
def Finishes (x : Resolve α) (y : Walk α) : Prop :=
  ∀ σ res, y.run.run σ = some res → x.run.run σ = res

theorem Finishes.pure (a : α) : Finishes (pure a) (pure a) := by
  intro σ res h
  cases h
  rfl

theorem Finishes.throw (e : LineageError) : Finishes (throw e : Resolve α) (throw e) := by
  intro σ res h
  cases h
  rfl

theorem Finishes.lift (x : Resolve α) : Finishes x (lift x) := by
  intro σ res h
  cases h
  rfl

theorem Finishes.exhausted (x : Resolve α) : Finishes x exhausted := by
  intro σ res h
  cases h

theorem Finishes.bind {x : Resolve α} {y : Walk α} {f : α → Resolve β} {g : α → Walk β}
    (hx : Finishes x y) (hf : ∀ a, Finishes (f a) (g a)) : Finishes (x >>= f) (y >>= g) := by
  intro σ res h
  rw [walk_bind] at h
  rcases hy : y.run.run σ with _ | ⟨_ | a, σ₁⟩ <;> rw [hy] at h
  · cases h
  · cases h
    exact run_bind_of_error (hx σ _ hy)
  · rw [run_bind_of_ok (hx σ _ hy)]
    exact hf a σ₁ res h

theorem Finishes.get : Finishes (get : Resolve ResolverState) get := by
  intro σ res h
  cases h
  rfl

theorem Finishes.modify (f : ResolverState → ResolverState) :
    Finishes (modify f : Resolve Unit) (modify f) := by
  intro σ res h
  cases h
  rfl

/-- Reading the state and not using it does nothing. -/
theorem Finishes.get_bind {x : Resolve α} {k : Walk α} (hk : Finishes x k) :
    Finishes x (MonadState.get >>= fun _ => k) := by
  intro σ res h
  exact hk σ res h

theorem Finishes.ite_bind {c : Prop} [Decidable c] {x : Resolve Unit} {y : Walk Unit}
    {k : Resolve α} {k' : Walk α} (hy : Finishes x y) (hk : Finishes k k') :
    Finishes (if c then x >>= fun _ => k else k) (if c then y >>= fun _ => k' else k') := by
  by_cases hc : c
  · simp only [hc, if_true]
    exact Finishes.bind hy fun _ => hk
  · simp only [hc, if_false]
    exact hk

theorem Finishes.catch {x : Resolve α} {y : Walk α} (h : Finishes x y) :
    Finishes (tryCatch (Except.ok <$> x) (fun e => Pure.pure (Except.error e)))
      (tryCatch (Except.ok <$> y) (fun e => Pure.pure (Except.error e))) := by
  intro σ res hy
  rw [walk_catch] at hy
  obtain ⟨⟨r, σ₁⟩, hres, rfl⟩ := Option.map_eq_some_iff.mp hy
  rw [run_catch, h σ _ hres]

theorem Finishes.mapM {γ : Type} {f : γ → Resolve α} {g : γ → Walk α}
    (h : ∀ c, Finishes (f c) (g c)) (xs : List γ) : Finishes (xs.mapM f) (xs.mapM g) := by
  induction xs with
  | nil => exact Finishes.pure []
  | cons c rest ih =>
    simp only [List.mapM_cons]
    exact Finishes.bind (h c) fun a => Finishes.bind ih fun as => Finishes.pure _

/-! ### The bounded walk with the table is the walk -/

section

variable {arena : ScopeArena} {maxDepth : Nat}

mutual

theorem field_finishes : ∀ n depth f,
    Finishes (Resolve.field arena maxDepth depth f) (field true arena maxDepth n depth f)
  | 0, _, _ => by
    simp only [field]
    exact Finishes.exhausted _
  | n + 1, depth, f => by
    match f with
    | .column _ ref _ =>
      rcases ho : ref.origin with _ | t | child | labels | _ <;>
        simp only [field, Resolve.field, ho]
      case scope => exact named_finishes n (depth + 1) child ref.column ref.position
      all_goals exact Finishes.pure _
    | .derived _ deps _ =>
      simp only [field, Resolve.field]
      exact fields_finishes n depth deps
    | .scalar _ child _ =>
      simp only [field, Resolve.field]
      by_cases hlim : maxDepth < depth + 1
      · rw [dif_pos hlim, if_pos hlim]
        exact Finishes.throw _
      · rw [dif_neg hlim, if_neg hlim]
        cases arena.get? child with
        | none => exact Finishes.throw _
        | some s =>
          simp only [Resolve.fieldsDeeper]
          exact fields_finishes n (depth + 1) s.fields
    | .constant .. | .wildcard .. =>
      simp only [field, Resolve.field]
      exact Finishes.pure _

theorem fields_finishes : ∀ n depth fs,
    Finishes (Resolve.fields arena maxDepth depth fs) (fields true arena maxDepth n depth fs)
  | 0, _, _ => by
    simp only [fields]
    exact Finishes.exhausted _
  | _ + 1, _, [] => by
    simp only [fields, Resolve.fields]
    exact Finishes.pure _
  | n + 1, depth, f :: rest => by
    simp only [fields, Resolve.fields]
    exact Finishes.bind (field_finishes n depth f) fun a =>
      Finishes.bind (fields_finishes n depth rest) fun b => Finishes.pure _

theorem named_finishes : ∀ n depth id name position,
    Finishes (Resolve.named arena maxDepth depth id name position)
      (named true arena maxDepth n depth id name position)
  | 0, _, _, _, _ => by
    simp only [named]
    exact Finishes.exhausted _
  | n + 1, depth, id, name, position => by
    simp only [named, Resolve.named, if_true]
    refine Finishes.bind Finishes.get fun st => ?_
    cases st.found.lookup (id, name, position) with
    | some sources => exact Finishes.pure _
    | none =>
      by_cases hlim : maxDepth < depth
      · rw [dif_pos hlim, if_pos hlim]
        exact Finishes.throw _
      · rw [dif_neg hlim, if_neg hlim]
        exact Finishes.bind (lookup_finishes n depth id name position hlim) fun sources =>
          Finishes.bind (Finishes.modify _) fun _ => Finishes.pure _

theorem lookup_finishes : ∀ n depth id name position (h : ¬ maxDepth < depth),
    Finishes (Resolve.lookup arena maxDepth depth id name position h)
      (lookup true arena maxDepth n depth id name position)
  | 0, _, _, _, _, _ => by
    simp only [lookup]
    exact Finishes.exhausted _
  | n + 1, depth, id, name, position, h => by
    simp only [lookup, Resolve.lookup]
    cases arena.get? id with
    | none => exact Finishes.throw _
    | some s =>
      refine Finishes.ite_bind (Finishes.lift _) ?_
      cases (chooseField s.fields name position).1 with
      | some f => exact field_finishes n depth f
      | none =>
        match s.fields.filter Field.isStar with
        | [] => exact Finishes.pure _
        | [star] =>
          match star with
          | .column _ { origin := .scope child, .. } _ =>
            exact named_finishes n (depth + 1) child name none
          | .column _ { origin := .table _, .. } _ | .column _ { origin := .pending, .. } _
          | .column _ { origin := .ambiguous _, .. } _ | .column _ { origin := .unbound, .. } _
          | .derived .. | .scalar .. | .constant .. | .wildcard .. => exact Finishes.pure _
        | _ :: _ :: _ => exact Finishes.pure _

end

end

/-! ### The bounded walk without the table is the fresh walk -/

section

variable {arena : ScopeArena} {maxDepth : Nat}

mutual

theorem fresh_field_finishes : ∀ n depth f,
    Finishes (Fresh.field arena maxDepth depth f) (field false arena maxDepth n depth f)
  | 0, _, _ => by
    simp only [field]
    exact Finishes.exhausted _
  | n + 1, depth, f => by
    match f with
    | .column _ ref _ =>
      rcases ho : ref.origin with _ | t | child | labels | _ <;>
        simp only [field, Fresh.field, ho]
      case scope => exact fresh_named_finishes n (depth + 1) child ref.column ref.position
      all_goals exact Finishes.pure _
    | .derived _ deps _ =>
      simp only [field, Fresh.field]
      exact fresh_fields_finishes n depth deps
    | .scalar _ child _ =>
      simp only [field, Fresh.field]
      by_cases hlim : maxDepth < depth + 1
      · rw [dif_pos hlim, if_pos hlim]
        exact Finishes.throw _
      · rw [dif_neg hlim, if_neg hlim]
        cases arena.get? child with
        | none => exact Finishes.throw _
        | some s =>
          simp only [Fresh.fieldsDeeper]
          exact fresh_fields_finishes n (depth + 1) s.fields
    | .constant .. | .wildcard .. =>
      simp only [field, Fresh.field]
      exact Finishes.pure _

theorem fresh_fields_finishes : ∀ n depth fs,
    Finishes (Fresh.fields arena maxDepth depth fs) (fields false arena maxDepth n depth fs)
  | 0, _, _ => by
    simp only [fields]
    exact Finishes.exhausted _
  | _ + 1, _, [] => by
    simp only [fields, Fresh.fields]
    exact Finishes.pure _
  | n + 1, depth, f :: rest => by
    simp only [fields, Fresh.fields]
    exact Finishes.bind (fresh_field_finishes n depth f) fun a =>
      Finishes.bind (fresh_fields_finishes n depth rest) fun b => Finishes.pure _

theorem fresh_named_finishes : ∀ n depth id name position,
    Finishes (Fresh.named arena maxDepth depth id name position)
      (named false arena maxDepth n depth id name position)
  | 0, _, _, _, _ => by
    simp only [named]
    exact Finishes.exhausted _
  | n + 1, depth, id, name, position => by
    simp only [named, Fresh.named, Bool.false_eq_true, if_false]
    refine Finishes.get_bind ?_
    by_cases hlim : maxDepth < depth
    · rw [dif_pos hlim, if_pos hlim]
      exact Finishes.throw _
    · rw [dif_neg hlim, if_neg hlim, bind_pure]
      exact fresh_lookup_finishes n depth id name position hlim

theorem fresh_lookup_finishes : ∀ n depth id name position (h : ¬ maxDepth < depth),
    Finishes (Fresh.lookup arena maxDepth depth id name position h)
      (lookup false arena maxDepth n depth id name position)
  | 0, _, _, _, _, _ => by
    simp only [lookup]
    exact Finishes.exhausted _
  | n + 1, depth, id, name, position, h => by
    simp only [lookup, Fresh.lookup]
    cases arena.get? id with
    | none => exact Finishes.throw _
    | some s =>
      refine Finishes.ite_bind (Finishes.lift _) ?_
      cases (chooseField s.fields name position).1 with
      | some f => exact fresh_field_finishes n depth f
      | none =>
        match s.fields.filter Field.isStar with
        | [] => exact Finishes.pure _
        | [star] =>
          match star with
          | .column _ { origin := .scope child, .. } _ =>
            exact fresh_named_finishes n (depth + 1) child name none
          | .column _ { origin := .table _, .. } _ | .column _ { origin := .pending, .. } _
          | .column _ { origin := .ambiguous _, .. } _ | .column _ { origin := .unbound, .. } _
          | .derived .. | .scalar .. | .constant .. | .wildcard .. => exact Finishes.pure _
        | _ :: _ :: _ => exact Finishes.pure _

end

end

/-! ### Fields read in turn -/

/-- The arena that walking `st` from a new detector builds, and the outputs of
its outermost scope, none when the walk fails or builds no outermost scope:
what the outputs of a statement are followed to their sources in. -/
def rootOutputs (catalog : Catalog) (maxDepth : Nat) (st : Sql.Statement) :
    ScopeArena × List Field :=
  let (outcome, d) := (Detector.new catalog maxDepth).detect st
  match outcome with
  | .ok () => (d.arena, ((d.root.bind d.arena.get?).map Scope.fields).getD [])
  | .error _ => (d.arena, [])

/-- Where the bounded walk with the table finishes the fields read in turn,
its outcomes and warnings are those of the walk. -/
theorem sourcesOfEach_of_bounded (fuel : Nat) {arena : ScopeArena} {maxDepth : Nat}
    {fs : List Field} {r : List (Except LineageError SourceSet) × List LineageError}
    (h : sourcesOfEach true fuel arena maxDepth fs = some r) :
    ColumnLineage.sourcesOfEach arena maxDepth fs = r := by
  obtain ⟨⟨res, st⟩, hres, rfl⟩ := Option.map_eq_some_iff.mp h
  have hrun := Finishes.mapM (fun f => Finishes.catch (field_finishes fuel 0 f)) fs {} _ hres
  cases res <;> simp only [ColumnLineage.sourcesOfEach, sourcesOf, hrun]

/-- Where the bounded walk without the table finishes the fields read in
turn, its outcomes and warnings are those of the fresh walk. -/
theorem fresh_sourcesOfEach_of_bounded (fuel : Nat) {arena : ScopeArena} {maxDepth : Nat}
    {fs : List Field} {r : List (Except LineageError SourceSet) × List LineageError}
    (h : sourcesOfEach false fuel arena maxDepth fs = some r) :
    Fresh.sourcesOfEach arena maxDepth fs = r := by
  obtain ⟨⟨res, st⟩, hres, rfl⟩ := Option.map_eq_some_iff.mp h
  have hrun := Finishes.mapM (fun f => Finishes.catch (fresh_field_finishes fuel 0 f)) fs {} _ hres
  cases res <;> simp only [Fresh.sourcesOfEach, hrun]

end ColumnLineage.Resolve.Bounded
