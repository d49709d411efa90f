import ColumnLineage.Lineage.Analyze
/-
ColumnLineage/Proofs/Run.lean

How a step of the two walks runs. The walk over a statement (`Detect`) and
the walk to sources (`Resolve`) are both computations that change a state
and may fail, keeping the state reached at the failure. Run from a state,
such a computation gives its outcome and the state after it; the lemmas here
say that once for each way of building one, so that later proofs read a run
as the sequence of its steps and never unfold the monad.
-/

namespace ColumnLineage.Run

variable {ε σ α β : Type}

/-- A step that fails or changes a state. -/
abbrev Step (ε σ α : Type) := ExceptT ε (StateM σ) α

@[simp] theorem run_pure (a : α) (s : σ) :
    (pure a : Step ε σ α).run.run s = (.ok a, s) := rfl

@[simp] theorem run_throw (e : ε) (s : σ) :
    (throw e : Step ε σ α).run.run s = (.error e, s) := rfl

/-- A sequence runs its first step, then, unless that failed, the rest from
the state the first step left. -/
@[simp] theorem run_bind (x : Step ε σ α) (f : α → Step ε σ β) (s : σ) :
    (x >>= f).run.run s = match x.run.run s with
      | (.ok a, s') => (f a).run.run s'
      | (.error e, s') => (.error e, s') := by
  simp only [ExceptT.run_bind, StateT.run_bind]
  rcases x.run.run s with ⟨_ | _, s'⟩ <;> rfl

@[simp] theorem run_get (s : σ) :
    (get : Step ε σ σ).run.run s = (.ok s, s) := rfl

@[simp] theorem run_set (s' s : σ) :
    (set s' : Step ε σ Unit).run.run s = (.ok (), s') := rfl

@[simp] theorem run_modify (f : σ → σ) (s : σ) :
    (modify f : Step ε σ Unit).run.run s = (.ok (), f s) := rfl

/-- A caught failure hands the state it reached to the handler. -/
@[simp] theorem run_tryCatch (x : Step ε σ α) (h : ε → Step ε σ α) (s : σ) :
    (tryCatch x h).run.run s = match x.run.run s with
      | (.ok a, s') => (.ok a, s')
      | (.error e, s') => (h e).run.run s' := by
  show (ExceptT.tryCatch x h).run.run s = _
  simp only [ExceptT.tryCatch, ExceptT.run, ExceptT.mk, StateT.run, bind, StateT.bind]
  rcases x s with ⟨_ | _, s'⟩ <;> rfl

@[simp] theorem run_map (f : α → β) (x : Step ε σ α) (s : σ) :
    (f <$> x).run.run s = match x.run.run s with
      | (.ok a, s') => (.ok (f a), s')
      | (.error e, s') => (.error e, s') := by
  simp only [ExceptT.run_map, StateT.run_map]
  rcases x.run.run s with ⟨_ | _, s'⟩ <;> rfl

theorem run_bind_of_ok {x : Step ε σ α} {f : α → Step ε σ β} {s s' : σ} {a : α}
    (h : x.run.run s = (.ok a, s')) : (x >>= f).run.run s = (f a).run.run s' := by
  rw [run_bind, h]

theorem run_bind_of_error {x : Step ε σ α} {f : α → Step ε σ β} {s s' : σ} {e : ε}
    (h : x.run.run s = (.error e, s')) : (x >>= f).run.run s = (.error e, s') := by
  rw [run_bind, h]

/-- A step whose failures go to a handler that always fails again succeeds
only as the step itself succeeds. -/
theorem run_tryCatch_ok {x : Step ε σ α} {h : ε → Step ε σ α} {s s' : σ} {a : α}
    (hh : ∀ e t, ∃ e' t', (h e).run.run t = (.error e', t'))
    (hr : (tryCatch x h).run.run s = (.ok a, s')) : x.run.run s = (.ok a, s') := by
  rw [run_tryCatch] at hr
  rcases hx : x.run.run s with ⟨_ | a', t⟩ <;> rw [hx] at hr <;> dsimp only at hr
  · rename_i e
    obtain ⟨e', t', he⟩ := hh e t
    rw [he] at hr
    cases hr
  · exact hr

/-- Catching every failure of a step makes its outcome the answer, with the
state the step reached. -/
@[simp] theorem run_catch (x : Step ε σ α) (s : σ) :
    (tryCatch (Except.ok <$> x) (fun e => pure (Except.error e))).run.run s =
      (.ok (x.run.run s).1, (x.run.run s).2) := by
  rw [run_tryCatch, run_map]
  rcases x.run.run s with ⟨_ | _, s'⟩ <;> rfl

/-- Steps whose failures are caught, run in turn over a list, never fail. -/
theorem run_mapM_catch {γ : Type} (g : γ → Step ε σ α) (xs : List γ) (s : σ) :
    ∃ as s', (xs.mapM fun c => tryCatch (Except.ok <$> g c)
      (fun e => pure (Except.error e))).run.run s = (.ok as, s') := by
  induction xs generalizing s with
  | nil => exact ⟨[], s, rfl⟩
  | cons c rest ih =>
    obtain ⟨as, s', h⟩ := ih ((g c).run.run s).2
    refine ⟨((g c).run.run s).1 :: as, s', ?_⟩
    rw [List.mapM_cons, run_bind_of_ok (run_catch _ _), run_bind_of_ok h]
    rfl

/-- A sequence that ends in success had a first step that ended in success. -/
theorem run_bind_ok {x : Step ε σ α} {f : α → Step ε σ β} {s s' : σ} {b : β}
    (h : (x >>= f).run.run s = (.ok b, s')) :
    ∃ a s₁, x.run.run s = (.ok a, s₁) ∧ (f a).run.run s₁ = (.ok b, s') := by
  rw [run_bind] at h
  rcases hx : x.run.run s with ⟨_ | a, s₁⟩
  · rw [hx] at h
    cases h
  · rw [hx] at h
    exact ⟨a, s₁, rfl, h⟩

end ColumnLineage.Run
