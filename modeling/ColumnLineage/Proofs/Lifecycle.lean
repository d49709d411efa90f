import ColumnLineage.Proofs.DepthLimit
/-
ColumnLineage/Proofs/Lifecycle.lean

A detector through a sequence of calls: walking a statement, resetting, and
handing over its warnings.

A detector in use refuses a walk and changes nothing (`statement_of_inUse`);
one not in use marks itself and walks the statement's body, of which two
properties are proved by the rules of the body (`BodyRules`): it keeps the
catalog, the depth limit and the mark of use (`KeepsFrame`), failing or not;
and it reads no warning and only adds warnings after those there were
(`AddsWarnings`). So a walk, whatever its
outcome, leaves the detector in use with its catalog and limit, and the
warnings it pushes do not depend on the warnings before it
(`detect_warnings`).

Main statement (`detector_lifecycle`): after a walk and until a reset, every
walk is refused and changes nothing; a reset gives back the fresh detector,
whatever came before, so every later call answers as on a fresh one; and the
warnings handed over are, in order, those pushed by the walks since the last
reset or handover, and nothing else changes.
-/

namespace ColumnLineage

open Run Detect

/-! ### The catalog, the limit and the mark of use -/

/-- `d'` has the catalog, the depth limit and the mark of use of `d`. -/
structure Detector.SameFrame (d d' : Detector) : Prop where
  catalog : d'.catalog = d.catalog
  maxDepth : d'.arena.maxDepth = d.arena.maxDepth
  inUse : d'.inUse = d.inUse

namespace Detector.SameFrame

variable {d d₁ d₂ : Detector}

theorem refl (d : Detector) : d.SameFrame d := ⟨rfl, rfl, rfl⟩

theorem trans (h₁ : d.SameFrame d₁) (h₂ : d₁.SameFrame d₂) : d.SameFrame d₂ :=
  ⟨h₂.catalog.trans h₁.catalog, h₂.maxDepth.trans h₁.maxDepth, h₂.inUse.trans h₁.inUse⟩

/-- A change of the arena that keeps its limit. -/
theorem of_arena {a : ScopeArena} (ha : a.maxDepth = d.arena.maxDepth) :
    d.SameFrame { d with arena := a } :=
  ⟨rfl, ha, rfl⟩

end Detector.SameFrame

section Frame

variable {α β : Type}

/-- Run from any detector, `x` keeps its catalog, its depth limit and its mark
of use, whether it succeeds or fails. -/
def KeepsFrame (x : Detect α) : Prop :=
  ∀ d : Detector, d.SameFrame (x.run.run d).2

namespace KeepsFrame

theorem pure (a : α) : KeepsFrame (Pure.pure a : Detect α) :=
  fun d => .refl d

theorem throw (e : LineageError) : KeepsFrame (MonadExcept.throw e : Detect α) :=
  fun d => .refl d

theorem bind {x : Detect α} {f : α → Detect β} (hx : KeepsFrame x) (hf : ∀ a, KeepsFrame (f a)) :
    KeepsFrame (x >>= f) := by
  intro d
  have h₁ := hx d
  rcases hxd : x.run.run d with ⟨_ | a, d₁⟩ <;> rw [hxd] at h₁
  · rw [run_bind_of_error hxd]
    exact h₁
  · rw [run_bind_of_ok hxd]
    exact h₁.trans (hf a d₁)

theorem throw_bind (e : LineageError) (f : α → Detect β) :
    KeepsFrame (MonadExcept.throw e >>= f) :=
  fun d => by
    rw [run_bind_of_error (run_throw e d)]
    exact .refl d

theorem get_bind {g : Detector → Detect α} (h : ∀ d, KeepsFrame (g d)) : KeepsFrame (get >>= g) :=
  fun d => by
    rw [run_bind_of_ok (run_get d)]
    exact h d d

theorem catchPop {x : Detect α} (hx : KeepsFrame x) :
    KeepsFrame (tryCatch x fun e => do popFrame; MonadExcept.throw e) := by
  intro d
  have h₁ := hx d
  rw [run_tryCatch]
  rcases hxd : x.run.run d with ⟨_ | a, d₁⟩ <;> rw [hxd] at h₁
  · exact ⟨h₁.catalog, h₁.maxDepth, h₁.inUse⟩
  · exact h₁

end KeepsFrame

/-- Every part of the walk over a statement's body keeps the catalog, the
depth limit and the mark of use. -/
theorem keepsFrame_rules : BodyRules KeepsFrame where
  pure := KeepsFrame.pure
  bind := KeepsFrame.bind
  throw := KeepsFrame.throw
  catchPop := KeepsFrame.catchPop
  readScopes h _ := KeepsFrame.get_bind h
  enter _ _ d := by
    rw [run_enter]
    split
    · exact ⟨rfl, rfl, rfl⟩
    · exact .of_arena rfl
  exit d := by
    rw [run_exit]
    split
    · exact ⟨rfl, rfl, rfl⟩
    · exact .of_arena rfl
  modifyScope _ _ d := by
    rw [run_modifyScope]
    split
    · exact ⟨rfl, rfl, rfl⟩
    · exact .of_arena rfl
  finalize _ d := by
    rw [run_finalize]
    exact ⟨rfl, Bindings.finalize_maxDepth, rfl⟩
  pushFrame d := ⟨rfl, rfl, rfl⟩
  popFrame d := ⟨rfl, rfl, rfl⟩
  addCte _ _ d := by
    rw [run_addCte]
    exact ⟨rfl, rfl, rfl⟩
  lookupCte _ d := by
    rw [run_lookupCte]
    exact ⟨rfl, rfl, rfl⟩
  bindName _ _ d := by
    rw [Detect.run_bind]
    split
    · exact .of_arena rfl
    · exact ⟨rfl, rfl, rfl⟩
  addUsing _ d := by
    rw [run_addUsing]
    split
    · exact .of_arena rfl
    · exact ⟨rfl, rfl, rfl⟩
  expandWildcard _ d := by
    rw [run_expandWildcard]
    split <;> exact ⟨rfl, rfl, rfl⟩
  log _ d := ⟨rfl, rfl, rfl⟩
  throwBind := KeepsFrame.throw_bind
  setRoot _ d := ⟨rfl, rfl, rfl⟩
  setTarget _ d := ⟨rfl, rfl, rfl⟩
  readStack h _ := KeepsFrame.get_bind h

/-- A walk over a statement, whatever its outcome, leaves the detector in use,
with its catalog and its depth limit. -/
theorem detect_frame (d : Detector) (st : Sql.Statement) :
    (d.detect st).2.catalog = d.catalog ∧ (d.detect st).2.arena.maxDepth = d.arena.maxDepth ∧
      (d.detect st).2.inUse = true := by
  unfold Detector.detect
  cases hu : d.inUse with
  | true =>
    rw [statement_of_inUse st hu]
    exact ⟨rfl, rfl, hu⟩
  | false =>
    obtain ⟨body, hbody, hrun⟩ := statement_of_unused st
    rw [hrun d hu]
    -- the body runs from the detector just marked in use
    have hf := hbody _ keepsFrame_rules { d with inUse := true }
    exact ⟨hf.catalog, hf.maxDepth, hf.inUse⟩

end Frame

/-! ### Warnings are only added -/

/-- The detector `d` with the warnings `w` before its own. -/
def Detector.warnedBefore (d : Detector) (w : List LineageError) : Detector :=
  { d with warnings := w ++ d.warnings }

@[simp] theorem Detector.arena_warnedBefore (d : Detector) (w : List LineageError) :
    (d.warnedBefore w).arena = d.arena := rfl

section Warnings

variable {α β : Type}

/-- Run from a detector with more warnings before its own, `x` does what it
does without them, and keeps them before the warnings it ends with: it reads
no warning and only adds warnings after those there were. -/
def AddsWarnings (x : Detect α) : Prop :=
  ∀ d w, x.run.run (d.warnedBefore w) = ((x.run.run d).1, (x.run.run d).2.warnedBefore w)

namespace AddsWarnings

/-- A step that does the same whatever the warnings. -/
theorem of_run {x : Detect α}
    (h : ∀ d w, x.run.run (d.warnedBefore w) = ((x.run.run d).1, (x.run.run d).2.warnedBefore w)) :
    AddsWarnings x := h

theorem pure (a : α) : AddsWarnings (Pure.pure a : Detect α) :=
  fun _ _ => rfl

theorem throw (e : LineageError) : AddsWarnings (MonadExcept.throw e : Detect α) :=
  fun _ _ => rfl

theorem bind {x : Detect α} {f : α → Detect β} (hx : AddsWarnings x) (hf : ∀ a, AddsWarnings (f a)) :
    AddsWarnings (x >>= f) := by
  intro d w
  rcases hxd : x.run.run d with ⟨_ | a, d₁⟩
  · have hx' := hx d w
    rw [hxd] at hx'
    rw [run_bind_of_error hxd, run_bind_of_error hx']
  · have hx' := hx d w
    rw [hxd] at hx'
    rw [run_bind_of_ok hxd, run_bind_of_ok hx', hf a d₁ w]

theorem throw_bind (e : LineageError) (f : α → Detect β) :
    AddsWarnings (MonadExcept.throw e >>= f) :=
  fun d w => by rw [run_bind_of_error (run_throw e d), run_bind_of_error (run_throw e _)]

/-- A step that reads the detector first, where what it reads is not the
warnings. -/
theorem get_bind {g : Detector → Detect α} (h : ∀ d, AddsWarnings (g d))
    (hg : ∀ d w, g (d.warnedBefore w) = g d) : AddsWarnings (get >>= g) :=
  fun d w => by
    rw [run_bind_of_ok (run_get d), run_bind_of_ok (run_get _), hg]
    exact h d d w

theorem catchPop {x : Detect α} (hx : AddsWarnings x) :
    AddsWarnings (tryCatch x fun e => do popFrame; MonadExcept.throw e) := by
  intro d w
  have hx' := hx d w
  rw [run_tryCatch, run_tryCatch, hx']
  rcases x.run.run d with ⟨_ | a, d₁⟩ <;> rfl

end AddsWarnings

/-- Every part of the walk over a statement's body reads no warning and only
adds warnings after those there were. -/
theorem addsWarnings_rules : BodyRules AddsWarnings where
  pure := AddsWarnings.pure
  bind := AddsWarnings.bind
  throw := AddsWarnings.throw
  catchPop := AddsWarnings.catchPop
  readScopes h hg := AddsWarnings.get_bind h fun d _ => hg d _ rfl
  enter _ _ := AddsWarnings.of_run fun d w => by
    rw [run_enter, run_enter]
    by_cases h : d.arena.stack.length ≥ d.arena.maxDepth
    · simp only [Detector.arena_warnedBefore, h, if_true]
    · simp only [Detector.arena_warnedBefore, h, if_false]
      rfl
  exit := AddsWarnings.of_run fun d w => by
    rw [run_exit, run_exit]
    simp only [Detector.arena_warnedBefore]
    cases d.arena.stack <;> rfl
  modifyScope id _ := AddsWarnings.of_run fun d w => by
    rw [run_modifyScope, run_modifyScope]
    by_cases h : (d.arena.get? id).isNone
    · simp only [Detector.arena_warnedBefore, h, if_true]
    · simp only [Detector.arena_warnedBefore, h, if_false, Bool.false_eq_true]
      rfl
  finalize _ := AddsWarnings.of_run fun d w => by
    rw [run_finalize, run_finalize]
    simp only [Detector.warnedBefore, List.append_assoc]
  pushFrame := AddsWarnings.of_run fun _ _ => rfl
  popFrame := AddsWarnings.of_run fun _ _ => rfl
  addCte _ _ := AddsWarnings.of_run fun d w => by
    rw [run_addCte, run_addCte]
    rfl
  lookupCte _ := AddsWarnings.of_run fun d w => by
    rw [run_lookupCte, run_lookupCte]
    rfl
  bindName _ _ := AddsWarnings.of_run fun d w => by
    rw [Detect.run_bind, Detect.run_bind]
    simp only [Detector.arena_warnedBefore]
    cases d.arena.current <;> rfl
  addUsing _ := AddsWarnings.of_run fun d w => by
    rw [run_addUsing, run_addUsing]
    simp only [Detector.arena_warnedBefore]
    cases d.arena.current <;> rfl
  expandWildcard _ := AddsWarnings.of_run fun d w => by
    rw [run_expandWildcard, run_expandWildcard]
    simp only [Detector.arena_warnedBefore]
    cases d.arena.current.bind d.arena.get? with
    | none => rfl
    | some S =>
      simp only [Detector.warnedBefore, List.append_assoc]
  log _ := AddsWarnings.of_run fun _ _ => rfl
  throwBind := AddsWarnings.throw_bind
  setRoot _ := AddsWarnings.of_run fun _ _ => rfl
  setTarget _ := AddsWarnings.of_run fun _ _ => rfl
  readStack h hg := AddsWarnings.get_bind h fun d _ => hg d _ rfl

/-- A walk over a statement from a detector with more warnings before its own
does what it does without them, and keeps them before its own. -/
theorem detect_warnedBefore (d : Detector) (w : List LineageError) (st : Sql.Statement) :
    (d.warnedBefore w).detect st = ((d.detect st).1, (d.detect st).2.warnedBefore w) := by
  unfold Detector.detect
  cases hu : d.inUse with
  | true =>
    rw [statement_of_inUse st hu, @statement_of_inUse st (d.warnedBefore w) hu]
  | false =>
    obtain ⟨body, hbody, hrun⟩ := statement_of_unused st
    rw [hrun d hu, hrun (d.warnedBefore w) hu]
    -- marking the detector in use and adding warnings before its own commute
    exact hbody _ addsWarnings_rules { d with inUse := true } w

end Warnings

/-- The warnings a walk over `st` from `d` pushes: those it ends with when
started with none. -/
def Detector.pushes (d : Detector) (st : Sql.Statement) : List LineageError :=
  ({ d with warnings := [] } : Detector).detect st |>.2.warnings

/-- A walk over a statement keeps the warnings there were and pushes its own
after them. -/
theorem detect_warnings (d : Detector) (st : Sql.Statement) :
    (d.detect st).2.warnings = d.warnings ++ d.pushes st := by
  have hd : d = ({ d with warnings := [] } : Detector).warnedBefore d.warnings := by
    simp [Detector.warnedBefore]
  conv => lhs; rw [hd]
  rw [detect_warnedBefore]
  rfl

/-! ### A detector through a sequence of calls -/

namespace Detector

/-- A call on a detector. -/
inductive Call where
  | detect (st : Sql.Statement)
  | reset
  | takeWarnings

/-- What a call answers. -/
inductive Reply where
  | outcome (r : Except LineageError Unit)
  | done
  | warnings (ws : List LineageError)

/-- One call on `d`: what it answers, and the detector after it. -/
def call (d : Detector) : Call → Reply × Detector
  | .detect st => let (r, d') := d.detect st; (.outcome r, d')
  | .reset => (.done, d.reset)
  | .takeWarnings => let (ws, d') := d.takeWarnings; (.warnings ws, d')

/-- Calls on `d` one after the other: the answers in order, and the detector
after the last. -/
def calls (d : Detector) : List Call → List Reply × Detector
  | [] => ([], d)
  | c :: cs =>
    let (r, d₁) := d.call c
    let (rs, d₂) := d₁.calls cs
    (r :: rs, d₂)

@[simp] theorem call_detect (d : Detector) (st : Sql.Statement) :
    d.call (.detect st) = (.outcome (d.detect st).1, (d.detect st).2) := rfl

@[simp] theorem call_reset (d : Detector) : d.call .reset = (.done, d.reset) := rfl

@[simp] theorem call_takeWarnings (d : Detector) :
    d.call .takeWarnings = (.warnings d.warnings, { d with warnings := [] }) := rfl

@[simp] theorem calls_nil (d : Detector) : d.calls [] = ([], d) := rfl

@[simp] theorem calls_cons (d : Detector) (c : Call) (cs : List Call) :
    d.calls (c :: cs) =
      ((d.call c).1 :: ((d.call c).2.calls cs).1, ((d.call c).2.calls cs).2) := rfl

theorem calls_append (d : Detector) (xs ys : List Call) :
    d.calls (xs ++ ys) =
      ((d.calls xs).1 ++ ((d.calls xs).2.calls ys).1, ((d.calls xs).2.calls ys).2) := by
  induction xs generalizing d with
  | nil => rfl
  | cons c xs ih => simp [ih]

/-! #### The catalog and the limit -/

/-- Every call keeps the catalog and the depth limit. -/
theorem call_frame (d : Detector) (c : Call) :
    (d.call c).2.catalog = d.catalog ∧ (d.call c).2.arena.maxDepth = d.arena.maxDepth := by
  cases c with
  | detect st => exact ⟨(detect_frame d st).1, (detect_frame d st).2.1⟩
  | reset => exact ⟨rfl, rfl⟩
  | takeWarnings => exact ⟨rfl, rfl⟩

theorem calls_frame (d : Detector) (cs : List Call) :
    (d.calls cs).2.catalog = d.catalog ∧ (d.calls cs).2.arena.maxDepth = d.arena.maxDepth := by
  induction cs generalizing d with
  | nil => exact ⟨rfl, rfl⟩
  | cons c cs ih =>
    obtain ⟨hc, hm⟩ := call_frame d c
    obtain ⟨hc', hm'⟩ := ih (d.call c).2
    exact ⟨hc'.trans hc, hm'.trans hm⟩

/-- After a reset, the calls that follow answer and end as on a fresh
detector with the same catalog and limit. -/
theorem calls_reset (d : Detector) (cs : List Call) :
    d.calls (.reset :: cs) =
      (.done :: ((Detector.new d.catalog d.arena.maxDepth).calls cs).1,
        ((Detector.new d.catalog d.arena.maxDepth).calls cs).2) := rfl

/-! #### The mark of use -/

/-- A detector in use refuses every walk, and stays as it is. -/
theorem call_detect_of_inUse {d : Detector} (hd : d.inUse = true) (st : Sql.Statement) :
    d.call (.detect st) = (.outcome (.error .detectorReused), d) := by
  rw [call_detect, Detector.detect, statement_of_inUse st hd]

/-- Only a reset takes the mark of use away. -/
theorem inUse_call {d : Detector} (hd : d.inUse = true) {c : Call} (hc : c ≠ .reset) :
    (d.call c).2.inUse = true := by
  cases c with
  | detect st => exact (detect_frame d st).2.2
  | reset => exact absurd rfl hc
  | takeWarnings => exact hd

theorem inUse_calls {d : Detector} (hd : d.inUse = true) {cs : List Call}
    (hcs : ∀ c ∈ cs, c ≠ .reset) : (d.calls cs).2.inUse = true := by
  induction cs generalizing d with
  | nil => exact hd
  | cons c cs ih =>
    exact ih (inUse_call hd (hcs c List.mem_cons_self)) fun c' h => hcs c' (List.mem_cons_of_mem _ h)

/-- A walk, failed or not, and no reset after it: the detector is in use. -/
theorem inUse_calls_of_detect (d : Detector) {cs : List Call} (hst : ∃ st, Call.detect st ∈ cs)
    (hcs : ∀ c ∈ cs, c ≠ .reset) : (d.calls cs).2.inUse = true := by
  induction cs generalizing d with
  | nil =>
    obtain ⟨_, h⟩ := hst
    exact absurd h List.not_mem_nil
  | cons c cs ih =>
    have hrest : ∀ c' ∈ cs, c' ≠ .reset := fun c' h => hcs c' (List.mem_cons_of_mem _ h)
    cases c with
    | detect st => exact inUse_calls (detect_frame d st).2.2 hrest
    | reset => exact absurd rfl (hcs _ List.mem_cons_self)
    | takeWarnings =>
      -- the walk is further on
      obtain ⟨st, hmem⟩ := hst
      have hmem' : Call.detect st ∈ cs := by simpa using hmem
      exact ih _ ⟨st, hmem'⟩ hrest

/-! #### The warnings handed over -/

/-- What a call pushes: the warnings of a walk, and none for the other calls. -/
def pushesOn (d : Detector) : Call → List LineageError
  | .detect st => d.pushes st
  | _ => []

/-- The warnings the walks among `cs`, called from `d` in order, push. -/
def pushedBy (d : Detector) : List Call → List LineageError
  | [] => []
  | c :: cs => d.pushesOn c ++ (d.call c).2.pushedBy cs

/-- Through walks alone, a detector keeps the warnings it had and gathers
those each walk pushes, in order. -/
theorem warnings_calls (d : Detector) {cs : List Call}
    (hcs : ∀ c ∈ cs, c ≠ .reset ∧ c ≠ .takeWarnings) :
    (d.calls cs).2.warnings = d.warnings ++ d.pushedBy cs := by
  induction cs generalizing d with
  | nil => simp [pushedBy]
  | cons c cs ih =>
    have hrest : ∀ c' ∈ cs, c' ≠ .reset ∧ c' ≠ .takeWarnings :=
      fun c' h => hcs c' (List.mem_cons_of_mem _ h)
    cases c with
    | detect st =>
      have hstep : (d.call (.detect st)).2.warnings = d.warnings ++ d.pushes st :=
        detect_warnings d st
      rw [calls_cons, ih _ hrest, hstep, pushedBy, pushesOn, List.append_assoc]
    | reset => exact absurd rfl (hcs _ List.mem_cons_self).1
    | takeWarnings => exact absurd rfl (hcs _ List.mem_cons_self).2

/-- A fresh detector, and one just reset or just relieved of its warnings,
has none. -/
theorem warnings_calls_of_last (catalog : Catalog) (maxDepth : Nat) {front : List Call}
    (h : front = [] ∨ front.getLast? = some .reset ∨ front.getLast? = some .takeWarnings) :
    ((Detector.new catalog maxDepth).calls front).2.warnings = [] := by
  rcases h with rfl | h | h
  · rfl
  · obtain ⟨init, rfl⟩ := List.getLast?_eq_some_iff.1 h
    rw [calls_append]
    rfl
  · obtain ⟨init, rfl⟩ := List.getLast?_eq_some_iff.1 h
    rw [calls_append]
    rfl

end Detector

/-- The life cycle of a detector made over a catalog with a depth limit,
through any calls `front` and then `back`: once a walk was made, failed or
not, every walk is refused, changing nothing, until a reset; a reset gives
back the fresh detector, so that the calls after it answer and end as on one;
and the warnings handed over after `front` ends with a reset or a handover
are, in order, those the walks of `back` pushed, with nothing else changed. -/
theorem detector_lifecycle (catalog : Catalog) (maxDepth : Nat) (front back : List Detector.Call) :
    let s₀ := ((Detector.new catalog maxDepth).calls front).2
    let s := (s₀.calls back).2
    ((∃ st, .detect st ∈ back) → (∀ c ∈ back, c ≠ .reset) →
      ∀ st, s.call (.detect st) = (.outcome (.error .detectorReused), s)) ∧
    (∀ cs, s.calls (.reset :: cs) =
      (.done :: ((Detector.new catalog maxDepth).calls cs).1,
        ((Detector.new catalog maxDepth).calls cs).2)) ∧
    ((front = [] ∨ front.getLast? = some .reset ∨ front.getLast? = some .takeWarnings) →
      (∀ c ∈ back, c ≠ .reset ∧ c ≠ .takeWarnings) →
      s.call .takeWarnings = (.warnings (s₀.pushedBy back), { s with warnings := [] })) := by
  intro s₀ s
  refine ⟨fun hst hcs st => Detector.call_detect_of_inUse (s₀.inUse_calls_of_detect hst hcs) st,
    fun cs => ?_, fun hfront hcs => ?_⟩
  · -- the catalog and the limit are still those the detector was made with
    have hc : s.catalog = catalog :=
      (Detector.calls_frame s₀ back).1.trans (Detector.calls_frame _ front).1
    have hm : s.arena.maxDepth = maxDepth :=
      (Detector.calls_frame s₀ back).2.trans (Detector.calls_frame _ front).2
    rw [Detector.calls_reset, hc, hm]
  · have hw : s.warnings = s₀.warnings ++ s₀.pushedBy back := s₀.warnings_calls hcs
    have h₀ : s₀.warnings = [] := Detector.warnings_calls_of_last catalog maxDepth hfront
    rw [Detector.call_takeWarnings, hw, h₀, List.nil_append]

/-- A statement the detector does not support still uses it up: the next walk
is refused, and no warning was pushed. -/
theorem unsupported_walk_uses_detector :
    let s := ((Detector.new {} 64).calls [.detect (.other "TRUNCATE t")]).2
    s.call (.detect (.other "TRUNCATE t")) = (.outcome (.error .detectorReused), s) ∧
      s.call .takeWarnings = (.warnings [], { s with warnings := [] }) := by
  intro s
  have h := detector_lifecycle {} 64 [] [.detect (.other "TRUNCATE t")]
  refine ⟨h.1 ⟨_, List.mem_singleton_self _⟩ (by simp) _, ?_⟩
  refine (h.2.2 (Or.inl rfl) (by simp)).trans ?_
  -- the walk fails before it reaches a query, so it pushes nothing
  rfl

end ColumnLineage
