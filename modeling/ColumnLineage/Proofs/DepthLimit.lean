import ColumnLineage.Proofs.WalkInduction
import ColumnLineage.Proofs.PairedLineage
import ColumnLineage.Proofs.FreshResolve
import ColumnLineage.Proofs.Reports
/-
ColumnLineage/Proofs/DepthLimit.lean

The depth limit only ever cuts an analysis short. It is read in two places:
where the walk over a statement opens a scope, and where the walk to sources
steps into another scope. Everything else the analysis does reads the scopes
of the arena, never the limit, and a check that passes under one limit passes
under every larger one. So an analysis that stops at no check gives, under a
larger limit, the same report (`analyzeStatement_limit_mono`).

For the walk over a statement the fact is `LimitFree`, proved of each
primitive step and carried to the whole walk by `BodyRules`. For the walk to
sources it is the depth law's relation `Fresh.Shallower` between the walks at
the two limits: both make the same lookups in the same order, so their tables
of found names grow alike.
-/

namespace ColumnLineage

open Run Detect

/-! ### Changing the limit -/

/-- The arena with the depth limit `m`. -/
def ScopeArena.withLimit (a : ScopeArena) (m : Nat) : ScopeArena := { a with maxDepth := m }

/-- The detector with the depth limit `m`. -/
def Detector.withLimit (d : Detector) (m : Nat) : Detector :=
  { d with arena := d.arena.withLimit m }

namespace ScopeArena

section

variable (a : ScopeArena) (m : Nat)

@[simp] theorem scopes_withLimit : (a.withLimit m).scopes = a.scopes := rfl

@[simp] theorem stack_withLimit : (a.withLimit m).stack = a.stack := rfl

@[simp] theorem maxDepth_withLimit : (a.withLimit m).maxDepth = m := rfl

@[simp] theorem get?_withLimit : (a.withLimit m).get? = a.get? := rfl

@[simp] theorem withLimit_maxDepth : a.withLimit a.maxDepth = a := rfl

theorem modify_withLimit (id : Nat) (f : Scope → Scope) :
    (a.withLimit m).modify id f = (a.modify id f).withLimit m := rfl

end

variable {a a' : ScopeArena}

/-- Arenas with the same scopes have the same scope at every id. -/
theorem get?_congr (h : a'.scopes = a.scopes) (i : Nat) : a'.get? i = a.get? i := by
  simp only [get?, h]

theorem size_congr (h : a'.scopes = a.scopes) : a'.size = a.size := by
  simp only [size, h]

end ScopeArena

namespace Detector

variable (d : Detector) (m : Nat)

@[simp] theorem arena_withLimit : (d.withLimit m).arena = d.arena.withLimit m := rfl

@[simp] theorem withLimit_maxDepth : d.withLimit d.arena.maxDepth = d := rfl

end Detector

/-! ### Placing columns reads the scopes alone -/

namespace Bindings

variable {cat : Catalog} {a a' : ScopeArena}

theorem provides_congr (h : a'.scopes = a.scopes) (b : Binding) (column : String) :
    provides cat a' b column = provides cat a b column := by
  simp only [provides, ScopeArena.get?_congr h]

theorem resolveIn_congr (h : a'.scopes = a.scopes) (s : Scope) (ref : ColumnRef) :
    resolveIn cat a' s ref = resolveIn cat a s ref := by
  simp only [resolveIn, provides_congr h]

theorem resolve_congr (h : a'.scopes = a.scopes) (id : Nat) (ref : ColumnRef) :
    resolve cat a' id ref = resolve cat a id ref := by
  -- the walk to enclosing scopes, for any fuel
  have hgo : ∀ fuel o, resolve.go cat a' ref fuel o = resolve.go cat a ref fuel o := by
    intro fuel
    induction fuel with
    | zero => intro o; simp only [resolve.go]
    | succ fuel ih =>
      intro o
      cases o with
      | none => simp only [resolve.go]
      | some i => simp only [resolve.go, ScopeArena.get?_congr h, resolveIn_congr h, ih]
  simp only [resolve, hgo, ScopeArena.size_congr h]

theorem usingSides_congr (h : a'.scopes = a.scopes) (id : Nat) (f : Field) :
    usingSides cat a' id f = usingSides cat a id f := by
  simp only [usingSides, ScopeArena.get?_congr h, provides_congr h]

mutual

theorem placeField_congr (h : a'.scopes = a.scopes) (id : Nat) :
    ∀ f, placeField cat a' id f = placeField cat a id f
  | .column n ref p => by simp only [placeField, usingSides_congr h, resolve_congr h]
  | .derived n deps p => by simp only [placeField, placeFields_congr h id deps]
  | .scalar .. => by simp only [placeField]
  | .constant .. => by simp only [placeField]
  | .wildcard .. => by simp only [placeField]

theorem placeFields_congr (h : a'.scopes = a.scopes) (id : Nat) :
    ∀ fs, placeFields cat a' id fs = placeFields cat a id fs
  | [] => by simp only [placeFields]
  | f :: fs => by simp only [placeFields, placeField_congr h id f, placeFields_congr h id fs]

end

/-- Completing a scope changes the scopes alone, whatever the limit. -/
theorem finalize_withLimit (a : ScopeArena) (m id : Nat) :
    finalize cat (a.withLimit m) id = ((finalize cat a id).1.withLimit m, (finalize cat a id).2) := by
  simp only [finalize, ScopeArena.get?_withLimit]
  cases a.get? id with
  | none => rfl
  | some s =>
    simp only [ScopeArena.modify_withLimit, placeFields_congr (ScopeArena.scopes_withLimit _ m)]

end Bindings

theorem expandBinding_congr {cat : Catalog} {a a' : ScopeArena} (h : a'.scopes = a.scopes)
    (qualifier : Option TableName) :
    expandBinding cat a' qualifier = expandBinding cat a qualifier := by
  funext acc b
  simp only [expandBinding, ScopeArena.get?_congr h]

theorem wildcardFields_congr {cat : Catalog} {a a' : ScopeArena} (h : a'.scopes = a.scopes)
    (S : Scope) (qualifier : Option TableName) :
    wildcardFields cat a' S qualifier = wildcardFields cat a S qualifier := by
  simp only [wildcardFields, expandBinding_congr h]

/-! ### The walk over a statement -/

section Walk

variable {α β : Type}

/-- Run under a limit at least the detector's own, `x` does what it does
under the detector's limit, unless it stops there at the limit: the same
outcome, and the same detector but for the limit. -/
def LimitFree (x : Detect α) : Prop :=
  ∀ d m, d.arena.maxDepth ≤ m → (x.run.run d).1 ≠ .error (.depthExceeded d.arena.maxDepth) →
    x.run.run (d.withLimit m) = ((x.run.run d).1, (x.run.run d).2.withLimit m)

/-- A step that does the same under every limit. -/
theorem LimitFree.of_run {x : Detect α}
    (h : ∀ d m, x.run.run (d.withLimit m) = ((x.run.run d).1, (x.run.run d).2.withLimit m)) :
    LimitFree x :=
  fun d m _ _ => h d m

/-- A step that does not stop at the limit leaves the limit as it was. -/
theorem LimitFree.keeps_limit {x : Detect α} (hx : LimitFree x) {d d₁ : Detector}
    {r : Except LineageError α} (hr : x.run.run d = (r, d₁))
    (hne : r ≠ .error (.depthExceeded d.arena.maxDepth)) : d₁.arena.maxDepth = d.arena.maxDepth := by
  -- under its own limit the step ends in the detector with that limit
  have hsame := hx d d.arena.maxDepth (Nat.le_refl _) (by rw [hr]; exact hne)
  rw [Detector.withLimit_maxDepth, hr] at hsame
  have hd₁ : d₁ = d₁.withLimit d.arena.maxDepth := (Prod.mk.inj hsame).2
  rw [hd₁]
  rfl

theorem LimitFree.bind {x : Detect α} {f : α → Detect β} (hx : LimitFree x)
    (hf : ∀ a, LimitFree (f a)) : LimitFree (x >>= f) := by
  intro d m hm hne
  rcases hxd : x.run.run d with ⟨_ | a, d₁⟩
  · rename_i e
    rw [run_bind_of_error hxd] at hne ⊢
    have he : e ≠ .depthExceeded d.arena.maxDepth := fun he => hne (by rw [he])
    have hx' := hx d m hm (by rw [hxd]; exact fun h => he (Except.error.inj h))
    rw [hxd] at hx'
    exact run_bind_of_error hx'
  · rw [run_bind_of_ok hxd] at hne ⊢
    have hx' := hx d m hm (by rw [hxd]; exact nofun)
    rw [hxd] at hx'
    -- the rest runs from a detector with the same limit
    have hlim := hx.keeps_limit hxd nofun
    rw [run_bind_of_ok hx']
    exact hf a d₁ m (hlim ▸ hm) (hlim ▸ hne)

theorem LimitFree.pure (a : α) : LimitFree (Pure.pure a : Detect α) :=
  LimitFree.of_run fun _ _ => rfl

theorem LimitFree.throw (e : LineageError) : LimitFree (throw e : Detect α) :=
  LimitFree.of_run fun _ _ => rfl

theorem LimitFree.throw_bind (e : LineageError) (f : α → Detect β) :
    LimitFree (MonadExcept.throw e >>= f) :=
  LimitFree.of_run fun d m => by
    rw [run_bind_of_error (run_throw e d), run_bind_of_error (run_throw e _)]

/-- A step that reads the detector first, where what it reads does not
depend on the limit. -/
theorem LimitFree.get_bind {g : Detector → Detect α} (h : ∀ d, LimitFree (g d))
    (hg : ∀ d m, g (d.withLimit m) = g d) : LimitFree (get >>= g) := by
  intro d m hm hne
  rw [run_bind_of_ok (run_get d)] at hne
  rw [run_bind_of_ok (run_get d), run_bind_of_ok (run_get _), hg]
  exact h d d m hm hne

theorem LimitFree.modify {f : Detector → Detector} (hf : ∀ d m, f (d.withLimit m) = (f d).withLimit m) :
    LimitFree (modify f : Detect Unit) :=
  LimitFree.of_run fun d m => by simp only [run_modify, hf]

/-- The handler of a query's body passes a failure on after closing the
frame, so the failures it sees are the failures of the query. -/
theorem LimitFree.catchPop {x : Detect α} (hx : LimitFree x) :
    LimitFree (tryCatch x fun e => do popFrame; MonadExcept.throw e) := by
  intro d m hm hne
  rcases hxd : x.run.run d with ⟨_ | a, d₁⟩
  · rename_i e
    have hrun : (tryCatch x fun e => do popFrame; MonadExcept.throw e).run.run d =
        (.error e, { d₁ with frames := d₁.frames.drop 1 }) := by
      rw [run_tryCatch, hxd]
      rfl
    rw [hrun] at hne ⊢
    have hx' := hx d m hm (by rw [hxd]; exact hne)
    rw [hxd] at hx'
    rw [run_tryCatch, hx']
    rfl
  · have hrun : (tryCatch x fun e => do popFrame; MonadExcept.throw e).run.run d = (.ok a, d₁) := by
      rw [run_tryCatch, hxd]
    have hx' := hx d m hm (by rw [hxd]; exact nofun)
    rw [hxd] at hx'
    rw [hrun, run_tryCatch, hx']

/-- Opening a scope under a larger limit: where the detector's own limit lets
the scope open, the larger one does too. -/
theorem limitFree_enter (kind : ScopeKind) (aliasName : Option String) :
    LimitFree (enter kind aliasName) := by
  intro d m hm hne
  rw [run_enter] at hne
  by_cases hfull : d.arena.stack.length ≥ d.arena.maxDepth
  · rw [if_pos hfull] at hne
    exact absurd rfl hne
  · have hfull' : ¬ (d.withLimit m).arena.stack.length ≥ (d.withLimit m).arena.maxDepth := by
      simp only [Detector.arena_withLimit, ScopeArena.stack_withLimit,
        ScopeArena.maxDepth_withLimit]
      omega
    rw [run_enter, run_enter, if_neg hfull, if_neg hfull']
    rfl

theorem limitFree_exit : LimitFree exit :=
  LimitFree.of_run fun d m => by
    rw [run_exit, run_exit]
    simp only [Detector.arena_withLimit, ScopeArena.stack_withLimit]
    split <;> rfl

theorem limitFree_modifyScope (id : Nat) (f : Scope → Scope) : LimitFree (modifyScope id f) :=
  LimitFree.of_run fun d m => by
    rw [run_modifyScope, run_modifyScope]
    by_cases hc : (d.arena.get? id).isNone <;>
      simp only [Detector.arena_withLimit, ScopeArena.get?_withLimit, hc, ↓reduceIte]
    all_goals rfl

theorem limitFree_finalize (id : Nat) : LimitFree (finalize id) :=
  LimitFree.of_run fun d m => by
    rw [run_finalize, run_finalize]
    simp only [Detector.arena_withLimit, Bindings.finalize_withLimit]
    rfl

theorem limitFree_bindName (aliasName : Option String) (target : BindingTarget) :
    LimitFree (Detect.bind aliasName target) :=
  LimitFree.of_run fun d m => by
    rw [Detect.run_bind, Detect.run_bind]
    simp only [Detector.arena_withLimit, ScopeArena.current, ScopeArena.stack_withLimit]
    split <;> rfl

theorem limitFree_addUsing (columns : List Sql.ObjectName) : LimitFree (addUsing columns) :=
  LimitFree.of_run fun d m => by
    rw [run_addUsing, run_addUsing]
    simp only [Detector.arena_withLimit, ScopeArena.current, ScopeArena.stack_withLimit]
    split <;> rfl

theorem limitFree_expandWildcard (qualifier : Option TableName) :
    LimitFree (expandWildcard qualifier) :=
  LimitFree.of_run fun d m => by
    rw [run_expandWildcard, run_expandWildcard]
    simp only [Detector.arena_withLimit, ScopeArena.current, ScopeArena.stack_withLimit,
      ScopeArena.get?_withLimit,
      wildcardFields_congr (ScopeArena.scopes_withLimit d.arena m)]
    split <;> rfl

/-- Every part of the walk over a statement does under a larger limit what it
does under the detector's own, unless it stops at that limit. -/
theorem limitFree_rules : BodyRules LimitFree where
  pure := LimitFree.pure
  bind := LimitFree.bind
  throw := LimitFree.throw
  catchPop := LimitFree.catchPop
  readScopes h hg := LimitFree.get_bind h fun d _ => hg d _ rfl
  enter := limitFree_enter
  exit := limitFree_exit
  modifyScope := limitFree_modifyScope
  finalize := limitFree_finalize
  pushFrame := LimitFree.of_run fun _ _ => rfl
  popFrame := LimitFree.of_run fun _ _ => rfl
  addCte _ _ := LimitFree.of_run fun d _ => by rw [run_addCte, run_addCte]; rfl
  lookupCte _ := LimitFree.of_run fun d _ => by rw [run_lookupCte, run_lookupCte]; rfl
  bindName := limitFree_bindName
  addUsing := limitFree_addUsing
  expandWildcard := limitFree_expandWildcard
  log _ := LimitFree.of_run fun _ _ => rfl
  throwBind := LimitFree.throw_bind
  setRoot _ := LimitFree.modify fun _ _ => rfl
  setTarget _ := LimitFree.modify fun _ _ => rfl
  readStack h hg := LimitFree.get_bind h fun d _ => hg d _ rfl

/-- The walk over a statement does under a larger limit what it does under
the detector's own, unless it stops at that limit. -/
theorem limitFree_statement (st : Sql.Statement) : LimitFree (Detect.statement st) := by
  intro d m hm hne
  -- the limit leaves the mark of use as it is
  cases hu : d.inUse with
  | true =>
    rw [statement_of_inUse st hu, @statement_of_inUse st (d.withLimit m) hu]
  | false =>
    obtain ⟨body, hbody, hrun⟩ := statement_of_unused st
    rw [hrun d hu] at hne
    rw [hrun d hu, hrun (d.withLimit m) hu]
    exact hbody _ limitFree_rules { d with inUse := true } m hm hne

end Walk

/-! ### The walk to sources -/

namespace Resolve

open Run

/-- A step that reads the state first. -/
theorem Fresh.Shallower.get_bind {α : Type} {m : Nat} {f f' : ResolverState → Resolve α}
    (h : ∀ s, Fresh.Shallower m (f s) (f' s)) : Fresh.Shallower m (get >>= f) (get >>= f') := by
  intro τ r τ' hrun hne
  rw [run_bind_of_ok (run_get τ)] at hrun ⊢
  exact h τ τ r τ' hrun hne

section Limit

variable {a a' : ScopeArena} {m m' : Nat}

mutual

/-- **Limit law.** Under a larger limit, over an arena with the same scopes, a
field gives what it gives under the smaller one and leaves the same state,
unless it stops at the smaller limit. -/
theorem field_limit (ha : a'.scopes = a.scopes) (hm : m ≤ m') (d : Nat) (f : Field) :
    Fresh.Shallower m (field a m d f) (field a' m' d f) := by
  match f with
  | .column n ref p =>
    rcases ho : ref.origin with _ | t | child | labels | _ <;>
      simp only [field, ho]
    case scope => exact named_limit ha hm (d + 1) child ref.column ref.position
    all_goals exact Fresh.Shallower.refl _
  | .derived n deps p =>
    simp only [field]
    exact fields_limit ha hm d deps
  | .scalar n child p =>
    simp only [field]
    by_cases hlim : m < d + 1
    · rw [dif_pos hlim]
      exact Fresh.Shallower.of_throw _
    · have hlim' : ¬ m' < d + 1 := by omega
      rw [dif_neg hlim, dif_neg hlim', ScopeArena.get?_congr ha]
      cases a.get? child with
      | none => exact Fresh.Shallower.refl _
      | some s =>
        simp only [fieldsDeeper]
        exact fields_limit ha hm (d + 1) s.fields
  | .constant n p =>
    simp only [field]
    exact Fresh.Shallower.refl _
  | .wildcard n t p =>
    simp only [field]
    exact Fresh.Shallower.refl _
termination_by (m + 1 - d, sizeOf f, 1)
decreasing_by
  all_goals (simp only [Prod.lex_def, Field.column.sizeOf_spec, Field.derived.sizeOf_spec,
    true_and]; omega)

theorem fields_limit (ha : a'.scopes = a.scopes) (hm : m ≤ m') (d : Nat) (fs : List Field) :
    Fresh.Shallower m (fields a m d fs) (fields a' m' d fs) := by
  match fs with
  | [] =>
    simp only [fields]
    exact Fresh.Shallower.refl _
  | f :: rest =>
    simp only [fields]
    exact Fresh.Shallower.bind (field_limit ha hm d f) fun _ =>
      Fresh.Shallower.bind (fields_limit ha hm d rest) fun _ => Fresh.Shallower.refl _
termination_by (m + 1 - d, sizeOf fs, 1)
decreasing_by all_goals (simp only [Prod.lex_def, List.cons.sizeOf_spec, true_and]; omega)

theorem named_limit (ha : a'.scopes = a.scopes) (hm : m ≤ m') (d id : Nat) (name : String)
    (position : Option Nat) :
    Fresh.Shallower m (named a m d id name position) (named a' m' d id name position) := by
  simp only [named]
  refine Fresh.Shallower.get_bind fun st => ?_
  -- a name found before is handed back alike; one looked up anew passes both guards
  cases st.found.lookup (id, name, position) with
  | some sources => exact Fresh.Shallower.refl _
  | none =>
    by_cases hlim : m < d
    · rw [dif_pos hlim]
      exact Fresh.Shallower.of_throw _
    · have hlim' : ¬ m' < d := by omega
      rw [dif_neg hlim, dif_neg hlim']
      exact Fresh.Shallower.bind (lookup_limit ha hm d id name position hlim hlim') fun _ =>
        Fresh.Shallower.refl _
termination_by (m + 2 - d, 0, 1)
decreasing_by all_goals (simp only [Prod.lex_def, true_and]; omega)

theorem lookup_limit (ha : a'.scopes = a.scopes) (hm : m ≤ m') (d id : Nat) (name : String)
    (position : Option Nat) (h : ¬ m < d) (h' : ¬ m' < d) :
    Fresh.Shallower m (lookup a m d id name position h) (lookup a' m' d id name position h') := by
  simp only [lookup, ScopeArena.get?_congr ha]
  cases a.get? id with
  | none => exact Fresh.Shallower.refl _
  | some s =>
    refine Fresh.Shallower.ite_bind ?_
    cases (chooseField s.fields name position).1 with
    | some f => exact field_limit ha hm d f
    | none =>
      match s.fields.filter Field.isStar with
      | [] => exact Fresh.Shallower.refl _
      | [star] =>
        match star with
        | .column _ { origin := .scope child, .. } _ =>
          exact named_limit ha hm (d + 1) child name none
        | .column _ { origin := .table _, .. } _ | .column _ { origin := .pending, .. } _
        | .column _ { origin := .ambiguous _, .. } _ | .column _ { origin := .unbound, .. } _
        | .derived .. | .scalar .. | .constant .. | .wildcard .. => exact Fresh.Shallower.refl _
      | _ :: _ :: _ => exact Fresh.Shallower.refl _
termination_by (m + 2 - d, 0, 0)
decreasing_by all_goals (simp only [Prod.lex_def]; omega)

end

end Limit

end Resolve

/-! ### The report of a statement -/

section Report

open Resolve

/-- Following the outputs in turn never fails: a failure of one output ends
the lineage and is reported beside it. -/
theorem resolveOutputs_reports (A : ScopeArena) (m : Nat) (t : Option TableName) :
    ∀ (outs : List (Field × String)) (σ : ResolverState),
      ∃ L err σ', (resolveOutputs A m t outs).run.run σ = (.ok (L, err), σ')
  | [], σ => ⟨[], none, σ, rfl⟩
  | (f, name) :: rest, σ => by
    rw [run_resolveOutputs_cons]
    rcases (sourcesOf A m f).run.run σ with ⟨_ | sources, σ₁⟩
    · exact ⟨_, _, _, rfl⟩
    · obtain ⟨L, err, σ₂, h⟩ := resolveOutputs_reports A m t rest σ₁
      dsimp only
      rw [h]
      exact ⟨_, _, _, rfl⟩

variable {a a' : ScopeArena} {m m' : Nat}

/-- Outputs followed in turn under a larger limit, over an arena with the same
scopes, give the same lineage and leave the same state, unless the error
reported beside the lineage is the smaller limit's. -/
theorem resolveOutputs_limit (ha : a'.scopes = a.scopes) (hm : m ≤ m') (t : Option TableName) :
    ∀ (outs : List (Field × String)) (σ σ' : ResolverState) (L : List TargetLineage)
      (err : Option LineageError),
      (resolveOutputs a m t outs).run.run σ = (.ok (L, err), σ') → err ≠ some (.depthExceeded m) →
      (resolveOutputs a' m' t outs).run.run σ = (.ok (L, err), σ')
  | [], _, _, _, _, h, _ => h
  | (f, name) :: rest, σ, σ', L, err, h, herr => by
    rw [run_resolveOutputs_cons] at h ⊢
    rcases hf : (sourcesOf a m f).run.run σ with ⟨_ | sources, σ₁⟩ <;> rw [hf] at h
    · -- the output failed, and its failure is the error reported
      rename_i e
      obtain ⟨hL, rfl⟩ := Prod.mk.inj h
      obtain ⟨rfl, rfl⟩ := Prod.mk.inj (Except.ok.inj hL)
      have hf' : (sourcesOf a' m' f).run.run σ = (.error e, σ₁) :=
        field_limit ha hm 0 f σ _ _ hf fun he => herr (by cases he; rfl)
      rw [hf']
    · have hf' : (sourcesOf a' m' f).run.run σ = (.ok sources, σ₁) :=
        field_limit ha hm 0 f σ _ _ hf nofun
      dsimp only at h
      rcases hr : (resolveOutputs a m t rest).run.run σ₁ with ⟨_ | ⟨more, err'⟩, σ₂⟩ <;>
        rw [hr] at h
      · exact absurd (Prod.mk.inj h).1 nofun
      obtain ⟨hL, rfl⟩ := Prod.mk.inj h
      obtain ⟨rfl, rfl⟩ := Prod.mk.inj (Except.ok.inj hL)
      rw [hf']
      dsimp only
      rw [resolveOutputs_limit ha hm t rest σ₁ σ₂ more err' hr herr]

/-- The walk over a statement from a fresh detector, under a larger limit: the
same outcome, and the same detector but for the limit, unless it stops at the
smaller limit. -/
theorem detect_withLimit (catalog : Catalog) (st : Sql.Statement) (hm : m ≤ m')
    (h : ((Detector.new catalog m).detect st).1 ≠ .error (.depthExceeded m)) :
    (Detector.new catalog m').detect st =
      (((Detector.new catalog m).detect st).1, ((Detector.new catalog m).detect st).2.withLimit m') :=
  limitFree_statement st (Detector.new catalog m) m' hm h

/-- Where the analysis under `m` does not stop at its limit, the analysis under
a larger limit gives the same report. -/
theorem analyzeStatement_withLimit (catalog : Catalog) (index : Nat) (st : Sql.Statement)
    (hm : m ≤ m') (h : (analyzeStatement catalog m index st).error ≠ some (.depthExceeded m)) :
    analyzeStatement catalog m' index st = analyzeStatement catalog m index st := by
  unfold analyzeStatement at h ⊢
  rcases hd : (Detector.new catalog m).detect st with ⟨r, d⟩
  rw [hd] at h
  have hr : r ≠ .error (.depthExceeded m) := by
    rintro rfl
    exact h rfl
  rw [detect_withLimit catalog st hm (by rw [hd]; exact hr), hd]
  rcases r with e | ⟨⟩
  · rfl
  -- the root scope is read from the same scopes under both limits
  dsimp only [Detector.withLimit] at h ⊢
  simp only [ScopeArena.get?_withLimit]
  generalize d.root.bind d.arena.get? = body at h ⊢
  rcases body with _ | root
  · rfl
  dsimp only at h ⊢
  -- the outputs followed under both limits, over the same scopes
  obtain ⟨L, failure, σ, hres⟩ := resolveOutputs_reports d.arena m
    (if (targetNames root.fields d.target).2.isSome = true then none
      else d.target.bind fun t => t.table)
    (root.fields.zip (targetNames root.fields d.target).1) {}
  rw [hres] at h
  have hfail : failure ≠ some (.depthExceeded m) := by
    rintro rfl
    exact h rfl
  rw [resolveOutputs_limit (ScopeArena.scopes_withLimit d.arena m') hm _ _ _ _ _ _ hres hfail,
    hres]

/-- **A larger limit changes nothing but failures at the limit.** For every
statement, catalog, index and pair of limits `m ≤ m'`: when the analysis under
`m` does not report `DepthExceeded`, the analysis under `m'` gives the very
same report (target table, lineage, warnings in order, error and events). So
the limits at which an analysis reports `DepthExceeded` are all those below
some bound: when it does under `m'`, it does under every `m ≤ m'`. -/
theorem analyzeStatement_limit_mono (catalog : Catalog) (index : Nat) (st : Sql.Statement)
    {m m' : Nat} (hm : m ≤ m') :
    ((analyzeStatement catalog m index st).error ≠ some (.depthExceeded m) →
      analyzeStatement catalog m' index st = analyzeStatement catalog m index st) ∧
    ((∃ k, (analyzeStatement catalog m' index st).error = some (.depthExceeded k)) →
      ∃ k, (analyzeStatement catalog m index st).error = some (.depthExceeded k)) := by
  refine ⟨analyzeStatement_withLimit catalog index st hm, fun ⟨k, hk⟩ => ?_⟩
  -- a report free of the limit under `m` would be the report under `m'`
  by_contra hfree
  have hne : (analyzeStatement catalog m index st).error ≠ some (.depthExceeded m) :=
    fun he => hfree ⟨m, he⟩
  rw [analyzeStatement_withLimit catalog index st hm hne] at hk
  exact hfree ⟨k, hk⟩

/-- `SELECT a, (SELECT b FROM u) AS s FROM (SELECT a FROM t) AS x`: a derived
table and a scalar subquery, each one scope below the top. -/
def derivedAndScalar : Sql.Statement :=
  let item (n : String) : Sql.SelectItem := .expr (.identifier { value := n }) none
  let select (items : List Sql.SelectItem) (relation : Sql.TableFactor) : Sql.Query :=
    .mk none [] (.select (.mk "" items "" [.mk relation []] "" none "" none "")) ""
  let scalar : Sql.SelectItem :=
    .expr (.subquery (select [item "b"] (.table [{ value := "u" }] "" none "")))
      (some { value := "s" })
  .query (select [item "a", scalar] (.derived false (select [item "a"]
    (.table [{ value := "t" }] "" none "")) (some { name := { value := "x" } })))

/-- Two levels are all `derivedAndScalar` needs: analysed under the limit 2 it
reports no error, and under the limit 5 it reports the same. -/
theorem derivedAndScalar_same_under_larger_limit :
    2 ≤ 5 ∧ (analyzeStatement {} 2 0 derivedAndScalar).error ≠ some (.depthExceeded 2) ∧
      analyzeStatement {} 5 0 derivedAndScalar = analyzeStatement {} 2 0 derivedAndScalar := by
  have herr : (analyzeStatement {} 2 0 derivedAndScalar).error = none :=
    @Resolve.Bounded.error_eq_none_of_lineageOf 8 _ _ _ (by decide +kernel) 0
  have hfree : (analyzeStatement {} 2 0 derivedAndScalar).error ≠ some (.depthExceeded 2) := by
    rw [herr]
    exact nofun
  exact ⟨by decide, hfree, (analyzeStatement_limit_mono {} 0 derivedAndScalar (by decide)).1 hfree⟩

end Report

end ColumnLineage
