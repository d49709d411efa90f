import ColumnLineage.Proofs.SoundArena
/-
ColumnLineage/Proofs/UnreadOutputs.lean

What reads the outputs of a scope. A SELECT sets its outputs before its
WHERE and HAVING conditions are walked, while its scope is still open; no
binding stands for an open scope (`Detector.Closed`), and placing a column
looks at the bindings of the scopes it passes and at the outputs of the
scopes those bindings stand for, never at the outputs of the scope itself.
So every part of the walk, run from a detector whose open scope `r` has other
outputs, gives the same answer and leaves the same detector with those
outputs (`walk_ignores` and the lemmas beside it): the outputs of `r` are a
parameter the walk carries along untouched.
-/

namespace ColumnLineage

open Run Detect

/-! ### Replacing the outputs of one scope -/

namespace ScopeArena

/-- The arena with the outputs of scope `r` replaced by `fs`. -/
def setFields (A : ScopeArena) (r : Nat) (fs : List Field) : ScopeArena :=
  A.modify r fun s => { s with fields := fs }

variable {A : ScopeArena} {r : Nat} {fs : List Field}

@[simp] theorem size_setFields : (A.setFields r fs).size = A.size := size_modify _ _ _

@[simp] theorem stack_setFields : (A.setFields r fs).stack = A.stack := rfl

@[simp] theorem maxDepth_setFields : (A.setFields r fs).maxDepth = A.maxDepth := rfl

@[simp] theorem current_setFields : (A.setFields r fs).current = A.current := rfl

@[simp] theorem opened_setFields {kind : ScopeKind} {aliasName : Option String} :
    (A.setFields r fs).opened kind aliasName = A.opened kind aliasName := by
  simp [opened]

theorem get?_setFields_of_ne {i : Nat} (h : r ≠ i) : (A.setFields r fs).get? i = A.get? i :=
  get?_modify_of_ne _ _ _ h

theorem get?_setFields_self :
    (A.setFields r fs).get? r = (A.get? r).map fun s => { s with fields := fs } :=
  get?_modify_self _ _ _

/-- A change of another scope, or one that leaves outputs alone, is made as
well before the outputs of `r` are replaced as after. -/
theorem setFields_modify {id : Nat} {f : Scope → Scope}
    (hf : id ≠ r ∨ ∀ s, f { s with fields := fs } = { f s with fields := fs }) :
    (A.setFields r fs).modify id f = (A.modify id f).setFields r fs := by
  by_cases hid : id = r
  · subst hid
    have hcomm : (f ∘ fun s => { s with fields := fs }) = (fun s => { s with fields := fs }) ∘ f := by
      funext s
      exact (hf.resolve_left (not_not.mpr rfl)) s
    simp only [setFields, modify_modify, hcomm]
  · exact modify_comm _ _ _ _ (Ne.symm hid)

/-- Opening a scope after `r` commutes with replacing the outputs of `r`. -/
theorem setFields_push {s : Scope} (h : r < A.size) :
    (A.setFields r fs).push s = (A.push s).setFields r fs := by
  simp only [setFields, modify, push, size, mk.injEq, and_true]
  refine ⟨?_, by simp⟩
  apply Array.ext (by simp)
  intro i h₁ h₂
  simp only [Array.getElem_push, Array.getElem_modify, Array.size_modify]
  by_cases hi : i < A.scopes.size
  · simp [hi]
  · have hr : r ≠ i := by simp only [size] at h; omega
    simp [hi, hr]

/-- There is nothing to replace past the last scope. -/
theorem setFields_of_size_le (h : A.size ≤ r) : A.setFields r fs = A := by
  obtain ⟨scopes, stack, maxDepth⟩ := A
  simp only [setFields, modify, mk.injEq, and_true]
  apply Array.ext (by simp)
  intro i h₁ h₂
  have hr : r ≠ i := by simp only [size] at h; simp at h₁; omega
  simp [Array.getElem_modify, hr]

/-- Replacing the outputs twice keeps the last. -/
@[simp] theorem setFields_setFields {gs : List Field} :
    (A.setFields r fs).setFields r gs = A.setFields r gs := by
  simp only [setFields, modify_modify]
  rfl

end ScopeArena

/-- The detector with the outputs of scope `r` replaced by `fs`. -/
def Detector.setFields (d : Detector) (r : Nat) (fs : List Field) : Detector :=
  { d with arena := d.arena.setFields r fs }

namespace Detector

variable {d : Detector} {r : Nat} {fs : List Field}

@[simp] theorem arena_setFields : (d.setFields r fs).arena = d.arena.setFields r fs := rfl

@[simp] theorem catalog_setFields : (d.setFields r fs).catalog = d.catalog := rfl

@[simp] theorem frames_setFields : (d.setFields r fs).frames = d.frames := rfl

@[simp] theorem warnings_setFields : (d.setFields r fs).warnings = d.warnings := rfl

@[simp] theorem events_setFields : (d.setFields r fs).events = d.events := rfl

@[simp] theorem root_setFields : (d.setFields r fs).root = d.root := rfl

@[simp] theorem target_setFields : (d.setFields r fs).target = d.target := rfl

theorem setFields_size : d.setFields d.arena.size fs = d := by
  simp only [Detector.setFields, ScopeArena.setFields_of_size_le (Nat.le_refl _)]

end Detector

/-- A valid detector has no binding for a scope still open. -/
theorem Detector.Valid.not_targets {d : Detector} {r : Nat} (hv : d.Valid) (hr : r ∈ d.arena.stack) :
    ¬ d.arena.Targets r :=
  fun ht => (hv.closed.targets ht).2 hr

/-! ### Placing columns reads no outputs of a scope without a binding -/

namespace Bindings

variable {cat : Catalog} {A : ScopeArena} {r : Nat} {fs : List Field}

theorem provides_setFields {b : Binding} (hb : b.target ≠ .scope r) (c : String) :
    provides cat (A.setFields r fs) b c = provides cat A b c := by
  unfold provides
  rcases ht : b.target with t | k
  · rfl
  · have hk : r ≠ k := fun h => hb (by rw [ht, h])
    simp only [ScopeArena.get?_setFields_of_ne hk]

theorem resolveIn_setFields {S : Scope} (hS : ∀ b ∈ S.bindings, b.target ≠ .scope r)
    (ref : ColumnRef) : resolveIn cat (A.setFields r fs) S ref = resolveIn cat A S ref := by
  unfold resolveIn
  split
  · rfl
  · rw [List.filter_congr fun b hb => by rw [provides_setFields (hS b hb)]]

/-- Placing a column walks up the scopes and reads their bindings: the outputs
of a scope that no binding stands for are not read. -/
theorem resolve_setFields (hT : ¬ A.Targets r) (id : Nat) (ref : ColumnRef) :
    resolve cat (A.setFields r fs) id ref = resolve cat A id ref := by
  have hbind : ∀ {i S}, A.get? i = some S → ∀ b ∈ S.bindings, b.target ≠ .scope r :=
    fun hS b hb ht => hT ⟨_, _, b, hS, hb, ht⟩
  -- the walk up the chain, step by step: each scope has the same bindings,
  -- kind and parent, whatever its outputs
  have hgo : ∀ fuel p, resolve.go cat (A.setFields r fs) ref fuel p = resolve.go cat A ref fuel p := by
    intro fuel
    induction fuel with
    | zero => intro p; rfl
    | succ fuel ih =>
      rintro (_ | i)
      · rfl
      · by_cases hi : r = i
        · -- scope `r` itself: its bindings, kind and parent are as they were
          subst hi
          cases hS : A.get? r with
          | none => simp only [resolve.go, ScopeArena.get?_setFields_self, hS, Option.map_none]
          | some S =>
            simp only [resolve.go, ScopeArena.get?_setFields_self, hS, Option.map_some]
            rw [show resolveIn cat (A.setFields r fs) { S with fields := fs } ref =
              resolveIn cat (A.setFields r fs) S ref from rfl, resolveIn_setFields (hbind hS), ih]
        · cases hS : A.get? i with
          | none => simp only [resolve.go, ScopeArena.get?_setFields_of_ne hi, hS]
          | some S =>
            simp only [resolve.go, ScopeArena.get?_setFields_of_ne hi, hS,
              resolveIn_setFields (hbind hS), ih]
  simp only [resolve, ScopeArena.size_setFields, hgo]

theorem usingSides_setFields (hT : ¬ A.Targets r) (id : Nat) (f : Field) :
    usingSides cat (A.setFields r fs) id f = usingSides cat A id f := by
  have hbind : ∀ {i S}, A.get? i = some S → ∀ b ∈ S.bindings, b.target ≠ .scope r :=
    fun hS b hb ht => hT ⟨_, _, b, hS, hb, ht⟩
  -- the sides a USING column may come from are read in the bindings of `id`
  have hsides : ∀ {S : Scope} (c : String) (k : Nat), A.get? id = some S →
      (S.bindings.take k).filter (fun b => provides cat (A.setFields r fs) b c != .no) =
        (S.bindings.take k).filter (fun b => provides cat A b c != .no) := fun c k hS =>
    List.filter_congr fun b hb => by rw [provides_setFields (hbind hS b (List.mem_of_mem_take hb))]
  cases f with
  | column n ref p =>
    by_cases hi : r = id
    · subst hi
      cases hS : A.get? r with
      | none => simp only [usingSides, ScopeArena.get?_setFields_self, hS, Option.map_none]
      | some S => simp only [usingSides, ScopeArena.get?_setFields_self, hS, Option.map_some, hsides _ _ hS]
    · cases hS : A.get? id with
      | none => simp only [usingSides, ScopeArena.get?_setFields_of_ne hi, hS]
      | some S => simp only [usingSides, ScopeArena.get?_setFields_of_ne hi, hS, hsides _ _ hS]
  | derived | scalar | constant | wildcard => rfl

mutual

theorem placeField_setFields (hT : ¬ A.Targets r) (id : Nat) :
    ∀ f, placeField cat (A.setFields r fs) id f = placeField cat A id f
  | .column n ref p => by simp only [placeField, usingSides_setFields hT, resolve_setFields hT]
  | .derived n deps p => by simp only [placeField, placeFields_setFields hT id deps]
  | .scalar .. | .constant .. | .wildcard .. => rfl

theorem placeFields_setFields (hT : ¬ A.Targets r) (id : Nat) :
    ∀ gs, placeFields cat (A.setFields r fs) id gs = placeFields cat A id gs
  | [] => rfl
  | g :: gs => by
    simp only [placeFields, placeField_setFields hT id g, placeFields_setFields hT id gs]

end

/-- Completing another scope than `r` reads no outputs of `r` and leaves
them alone. -/
theorem finalize_setFields (hT : ¬ A.Targets r) {id : Nat} (hid : id ≠ r) :
    finalize cat (A.setFields r fs) id = ((finalize cat A id).1.setFields r fs, (finalize cat A id).2) := by
  unfold finalize
  rw [ScopeArena.get?_setFields_of_ne (Ne.symm hid)]
  cases hS : A.get? id with
  | none => rfl
  | some S =>
    have hT' : ¬ (A.modify id fun s => { s with fields := [] }).Targets r :=
      fun h => hT (h.of_modify fun _ => rfl)
    simp only
    rw [ScopeArena.setFields_modify (.inl hid), ScopeArena.setFields_modify (.inl hid),
      placeFields_setFields hT']

end Bindings

namespace Detect

variable {cat : Catalog} {A : ScopeArena} {r : Nat} {fs : List Field}

theorem expandBinding_setFields {b : Binding} (hb : b.target ≠ .scope r) (q : Option TableName)
    (acc : List Field × List String) :
    expandBinding cat (A.setFields r fs) q acc b = expandBinding cat A q acc b := by
  unfold expandBinding
  rcases ht : b.target with t | k
  · rfl
  · have hk : r ≠ k := fun h => hb (by rw [ht, h])
    simp only [ScopeArena.get?_setFields_of_ne hk]

/-- A wildcard reads the outputs of the scopes its bindings stand for, and
nothing of the scope it stands in but its bindings. -/
theorem wildcardFields_setFields {S : Scope} (hS : ∀ b ∈ S.bindings, b.target ≠ .scope r)
    (gs : List Field) (q : Option TableName) :
    wildcardFields cat (A.setFields r fs) { S with fields := gs } q = wildcardFields cat A S q := by
  have hsub : ∀ b ∈ wildcardBindings S q, b.target ≠ .scope r := by
    intro b hb
    cases q with
    | none => exact hS b hb
    | some q =>
      simp only [wildcardBindings, Option.mem_toList] at hb
      exact hS b (List.mem_of_find?_eq_some hb)
  show (wildcardBindings S q).foldl _ (wildcardStart q (wildcardBindings S q)) = _
  unfold wildcardFields
  generalize wildcardStart q (wildcardBindings S q) = acc
  generalize wildcardBindings S q = bs at hsub ⊢
  induction bs generalizing acc with
  | nil => rfl
  | cons b bs ih =>
    simp only [List.foldl_cons, expandBinding_setFields (hsub b List.mem_cons_self)]
    exact ih _ fun b hb => hsub b (List.mem_cons_of_mem _ hb)

/-- The outputs of a set operation read its operands only. -/
theorem setOutputs_setFields {left right : Nat} (hl : left ≠ r) (hr : right ≠ r) :
    setOutputs (A.setFields r fs) [left, right] = setOutputs A [left, right] := by
  simp only [setOutputs, List.head?_cons, Option.bind_some, List.filterMap_cons, List.filterMap_nil,
    ScopeArena.get?_setFields_of_ne (Ne.symm hl), ScopeArena.get?_setFields_of_ne (Ne.symm hr)]

end Detect

/-! ### Steps that leave the outputs of an open scope alone -/

section Frame

variable {α β : Type} {r : Nat} {pre : Detector → Prop}

/-- The step `x` reads no outputs of scope `r` and leaves them alone: run
from a detector whose scope `r` has other outputs, it ends the same way, in
the same detector with those outputs. -/
def Commutes (r : Nat) (x : Detect α) : Prop :=
  ∀ d fs, x.run.run (d.setFields r fs) = ((x.run.run d).1, (x.run.run d).2.setFields r fs)

/-- `Commutes`, for the runs from a valid detector in which `r` is open and
`pre` holds. -/
def Ignores (r : Nat) (pre : Detector → Prop) (x : Detect α) : Prop :=
  ∀ d fs, d.Valid → r ∈ d.arena.stack → pre d →
    x.run.run (d.setFields r fs) = ((x.run.run d).1, (x.run.run d).2.setFields r fs)

theorem Commutes.ignores {x : Detect α} (h : Commutes r x) : Ignores r pre x :=
  fun d fs _ _ _ => h d fs

theorem Commutes.pure (a : α) : Commutes r (pure a : Detect α) := fun _ _ => rfl

theorem Commutes.throw (e : LineageError) : Commutes r (throw e : Detect α) := fun _ _ => rfl

theorem Commutes.bind {x : Detect α} {f : α → Detect β} (hx : Commutes r x)
    (hf : ∀ a, Commutes r (f a)) : Commutes r (x >>= f) := by
  intro d fs
  rw [Run.run_bind, Run.run_bind, hx d fs]
  rcases x.run.run d with ⟨_ | a, d₁⟩
  · rfl
  · exact hf a d₁ fs

theorem Ignores.mono {x : Detect α} {pre' : Detector → Prop} (h : Ignores r pre x)
    (hpre : ∀ {d}, pre' d → pre d) : Ignores r pre' x :=
  fun d fs hv hr hp => h d fs hv hr (hpre hp)

/-- A sequence: the first step ignores the outputs of `r` and keeps what the
rest needs, `r` open among it. -/
theorem Ignores.bind {R : Detector → Detector → Prop} {mid : α → Detector → Prop} {x : Detect α}
    {f : α → Detect β} (hk : Keeps pre R mid x)
    (hR : ∀ {s s'}, R s s' → s'.arena.stack = s.arena.stack) (hx : Ignores r pre x)
    (hf : ∀ a, Ignores r (mid a) (f a)) :
    Ignores r pre (x >>= f) := by
  intro d fs hv hr hp
  rw [Run.run_bind, Run.run_bind, hx d fs hv hr hp]
  rcases h : x.run.run d with ⟨_ | a, d₁⟩
  · rfl
  · obtain ⟨hv₁, hR₁, hmid⟩ := hk d a d₁ hv hp h
    exact hf a d₁ fs hv₁ (by rw [hR hR₁]; exact hr) hmid

/-- A sequence whose later steps commute, wherever they start. -/
theorem Ignores.bind_commutes {x : Detect α} {f : α → Detect β} (hx : Ignores r pre x)
    (hf : ∀ a, Commutes r (f a)) : Ignores r pre (x >>= f) := by
  intro d fs hv hr hp
  rw [Run.run_bind, Run.run_bind, hx d fs hv hr hp]
  rcases x.run.run d with ⟨_ | a, d₁⟩
  · rfl
  · exact hf a d₁ fs

/-- A failure handed to a handler that commutes. -/
theorem Ignores.tryCatch {x : Detect α} {h : LineageError → Detect α} (hx : Ignores r pre x)
    (hh : ∀ e, Commutes r (h e)) : Ignores r pre (tryCatch x h) := by
  intro d fs hv hr hp
  rw [Run.run_tryCatch, Run.run_tryCatch, hx d fs hv hr hp]
  rcases x.run.run d with ⟨e | a, d₁⟩
  · exact hh e d₁ fs
  · rfl

/-- A step that reads the detector, when what it reads is the same with
either outputs of `r`. -/
theorem Ignores.get_bind {g : Detector → Detect α} (hg : ∀ d fs, g (d.setFields r fs) = g d)
    (hf : ∀ d₀, Ignores r pre (g d₀)) : Ignores r pre (get >>= g) := by
  intro d fs hv hr hp
  rw [Run.run_bind, Run.run_bind, Run.run_get, Run.run_get]
  dsimp only
  rw [hg d fs]
  exact hf d d fs hv hr hp

theorem Commutes.get_bind {g : Detector → Detect α} (hg : ∀ d fs, g (d.setFields r fs) = g d)
    (hf : ∀ d₀, Commutes r (g d₀)) : Commutes r (get >>= g) := by
  intro d fs
  rw [Run.run_bind, Run.run_bind, Run.run_get, Run.run_get]
  dsimp only
  rw [hg d fs]
  exact hf d d fs

/-- A scope that a walk answers is done, so it is not the open scope `r`. -/
theorem Ignores.of_answered {k : Nat} {x : Detect α} (h : k ≠ r → Ignores r (fun _ => True) x) :
    Ignores r (Detector.Answered k) x :=
  fun d fs hv hr hk => h (fun he => hk.1.2 (he ▸ hr)) d fs hv hr trivial

end Frame

/-! ### The primitive steps -/

section Primitives

variable {β : Type} {r : Nat} {pre : Detector → Prop}

theorem commutes_pushFrame : Commutes r pushFrame := fun _ _ => rfl

theorem commutes_popFrame : Commutes r popFrame := fun _ _ => rfl

theorem commutes_addCte (name : String) (id : Nat) : Commutes r (addCte name id) := fun _ _ => rfl

theorem commutes_log (e : Log.Event) : Commutes r (log e) := fun _ _ => rfl

theorem commutes_lookupCte (t : TableName) : Commutes r (lookupCte t) := by
  intro d fs
  rw [run_lookupCte, run_lookupCte]
  rfl

theorem commutes_exit : Commutes r exit := by
  intro d fs
  rw [run_exit, run_exit, Detector.arena_setFields, ScopeArena.stack_setFields]
  rcases d.arena.stack with _ | ⟨id, rest⟩ <;> rfl

/-- Changing a scope other than `r`, or changing anything of `r` but its
outputs. -/
theorem commutes_modifyScope {id : Nat} {f : Scope → Scope}
    (hf : ∀ fs, id ≠ r ∨ ∀ s, f { s with fields := fs } = { f s with fields := fs }) :
    Commutes r (modifyScope id f) := by
  intro d fs
  -- the check that scope `id` exists sees the same scopes
  have hnone : ((d.arena.setFields r fs).get? id).isNone = (d.arena.get? id).isNone := by
    by_cases h : r = id
    · subst h
      rw [ScopeArena.get?_setFields_self, Option.isNone_map]
    · rw [ScopeArena.get?_setFields_of_ne h]
  rw [run_modifyScope, run_modifyScope, Detector.arena_setFields, hnone]
  cases (d.arena.get? id).isNone
  · simp only [Bool.false_eq_true, if_false]
    rw [ScopeArena.setFields_modify (hf fs)]
    rfl
  · rfl

theorem commutes_bind (aliasName : Option String) (target : BindingTarget) :
    Commutes r (Detect.bind aliasName target) := by
  intro d fs
  rw [Detect.run_bind, Detect.run_bind, Detector.arena_setFields, ScopeArena.current_setFields]
  cases d.arena.current with
  | none => rfl
  | some id =>
    simp only
    rw [ScopeArena.setFields_modify (.inr fun _ => rfl)]
    rfl

theorem commutes_addUsing (columns : List Sql.ObjectName) : Commutes r (addUsing columns) := by
  intro d fs
  rw [run_addUsing, run_addUsing, Detector.arena_setFields, ScopeArena.current_setFields]
  cases d.arena.current with
  | none => rfl
  | some id =>
    simp only
    rw [ScopeArena.setFields_modify (.inr fun _ => rfl)]
    rfl

/-- Completing a scope other than `r`: no binding stands for `r`, which is
open, so placing reads none of its outputs. -/
theorem ignores_finalize {id : Nat} (hid : id ≠ r) : Ignores r pre (finalize id) := by
  intro d fs hv hr _
  rw [run_finalize, run_finalize, Detector.catalog_setFields, Detector.arena_setFields,
    Detector.warnings_setFields, Detector.events_setFields,
    Bindings.finalize_setFields (hv.not_targets hr) hid]
  rfl

/-- A wildcard expands the bindings of the current scope, none of which
stands for `r`. -/
theorem ignores_expandWildcard (q : Option TableName) : Ignores r pre (expandWildcard q) := by
  intro d fs hv hr _
  have hbind : ∀ {i S}, d.arena.get? i = some S → ∀ b ∈ S.bindings, b.target ≠ .scope r :=
    fun hS b hb ht => hv.not_targets hr ⟨_, _, b, hS, hb, ht⟩
  rw [run_expandWildcard, run_expandWildcard, Detector.arena_setFields, Detector.catalog_setFields,
    ScopeArena.current_setFields]
  rcases d.arena.current with _ | c
  · rfl
  · simp only [Option.bind_some]
    by_cases hc : r = c
    · subst hc
      rw [ScopeArena.get?_setFields_self]
      cases hS : d.arena.get? r with
      | none => rfl
      | some S =>
        simp only [Option.map_some]
        rw [Detect.wildcardFields_setFields (hbind hS)]
        rfl
    · rw [ScopeArena.get?_setFields_of_ne hc]
      cases hS : d.arena.get? c with
      | none => rfl
      | some S =>
        simp only
        rw [Detect.wildcardFields_setFields (hbind hS) S.fields]
        rfl

/-- Opening a scope, then steps that ignore the outputs of `r` given that the
new scope is not `r`. -/
theorem Ignores.enter_bind {kind : ScopeKind} {aliasName : Option String} {f : Nat → Detect β}
    (hf : ∀ id, id ≠ r → Ignores r (fun _ => True) (f id)) :
    Ignores r pre (enter kind aliasName >>= f) := by
  intro d fs hv hr _
  have hlt : r < d.arena.size := hv.shaped.stack_lt hr
  rw [Run.run_bind, Run.run_bind, run_enter, run_enter, Detector.arena_setFields,
    ScopeArena.stack_setFields, ScopeArena.maxDepth_setFields]
  by_cases hd : d.arena.stack.length ≥ d.arena.maxDepth
  · rw [if_pos hd, if_pos hd]
  · rw [if_neg hd, if_neg hd]
    simp only
    rw [ScopeArena.size_setFields, ScopeArena.opened_setFields, ScopeArena.setFields_push hlt]
    exact hf _ (Nat.ne_of_gt hlt) _ fs (hv.push kind aliasName) (List.mem_cons_of_mem _ hr) trivial

/-- Steps that change the frames of WITH names only keep the arena. -/
theorem keeps_pushFrame :
    Keeps (fun _ => True) (fun s s' => s'.arena = s.arena) (fun _ _ => True) pushFrame := by
  intro s u s' hv _ h
  rw [run_pushFrame] at h
  cases h
  exact ⟨hv.pushFrame, rfl, trivial⟩

theorem keeps_addUsing (columns : List Sql.ObjectName) :
    Keeps (fun _ => True) Detector.Here (fun _ _ => True) (addUsing columns) :=
  fun _ _ _ hv _ h => ⟨(hv.addUsing h).1, (hv.addUsing h).2, trivial⟩

/-- Filling the outputs of a scope with fields that read done scopes. -/
theorem keeps_fill (id : Nat) (fields : List Field) :
    Keeps (Detector.ReadsDone fields) (Detector.Quiet (some id)) (fun _ _ => True)
      (modifyScope id fun s => { s with fields }) := by
  intro s u s' hv hs h
  obtain ⟨hv', hq⟩ := hv.modifyScope h (fun _ => rfl) (fun _ hk => .inr (hs _ hk))
    (fun _ hb _ => .inl hb)
  exact ⟨hv', hq, trivial⟩

end Primitives

/-! ### Expression walks -/

section Walks

variable {β : Type} {r : Nat} {pre : Detector → Prop}

/-- An expression walk ignores the outputs of `r`, from any inputs that read
done scopes only. -/
def WalkIgnores (r : Nat) (x : List Field → Detect (List Field)) : Prop :=
  ∀ acc, Ignores r (Detector.ReadsDone acc) (x acc)

theorem WalkIgnores.pure : WalkIgnores r (fun acc => pure acc) :=
  fun acc => (Commutes.pure acc).ignores

theorem WalkIgnores.comp {x y : List Field → Detect (List Field)} (hk : WalkKeeps x)
    (hx : WalkIgnores r x) (hy : WalkIgnores r y) : WalkIgnores r (fun acc => x acc >>= y) :=
  fun acc => Ignores.bind (hk acc) (fun h => h.1.stack) (hx acc) hy

/-- A subquery walked for its own sake, then the rest of the walk. -/
theorem WalkIgnores.after {q : Detect Nat}
    (hk : Keeps (fun _ => True) (Detector.Quiet none) Detector.Answered q)
    (hq : Ignores r (fun _ => True) q) {x : List Field → Detect (List Field)}
    (hx : WalkIgnores r x) : WalkIgnores r (fun acc => q >>= fun _ => x acc) :=
  fun acc => Ignores.bind (hk.keepReads acc) (fun h => h.1.stack) (hq.mono fun _ => trivial)
    fun _ => (hx acc).mono fun h => h.2

/-- A condition, walked from no inputs for its subqueries, then steps that
need nothing of it. -/
theorem Ignores.condition_bind {e : Option Sql.Expr} {f : List Field → Detect β}
    (he : WalkIgnores r (walkOpt .predicate e)) (hf : ∀ a, Ignores r (fun _ => True) (f a)) :
    Ignores r pre (walkOpt .predicate e [] >>= f) :=
  Ignores.bind ((walkOpt_keeps .predicate e []).mono (fun _ => Detector.ReadsDone.nil _)
    (fun h => h) (fun h => h)) (fun h => h.1.stack) ((he []).mono fun _ => Detector.ReadsDone.nil _)
    fun a => (hf a).mono fun _ => trivial

/-- A VALUES list opens a scope other than `r`, fills it, completes it and
closes it. -/
theorem ignores_values (kind : ScopeKind) (aliasName : Option String) {first : Detect (List Field)}
    (hk : Keeps (fun _ => True) (Detector.Quiet none) (fun fs d => d.ReadsDone fs) first)
    (hfirst : Ignores r (fun _ => True) first) :
    Ignores r (fun _ => True) (do
      let id ← enter kind aliasName
      let fields ← first
      modifyScope id fun s => { s with fields }
      finalize id
      let _ ← exit
      return id) :=
  Ignores.enter_bind fun id hid =>
    Ignores.bind hk (fun h => h.1.stack) hfirst fun fields =>
      Ignores.bind (keeps_fill id fields) (fun h => h.1.stack)
        (commutes_modifyScope fun _ => .inl hid).ignores fun _ =>
          Ignores.bind_commutes (ignores_finalize hid) fun _ =>
            Commutes.bind commutes_exit fun _ => Commutes.pure id

end Walks

/-! ### The walk -/

mutual

theorem query_ignores (r : Nat) (kind : ScopeKind) (aliasName : Option String) :
    ∀ q, Ignores r (fun _ => True) (query kind aliasName q)
  | .mk _ ctes body _ => by
    simp only [query]
    refine Ignores.bind keeps_pushFrame (fun h => by rw [h]) commutes_pushFrame.ignores fun _ => ?_
    -- the frame is closed again whether the body fails or not, and closing it commutes
    refine Ignores.bind_commutes (Ignores.tryCatch ?_ fun e =>
      Commutes.bind commutes_popFrame fun _ => Commutes.throw e) fun id =>
        Commutes.bind commutes_popFrame fun _ => Commutes.pure id
    exact Ignores.bind (withClause_keeps ctes) (fun h => h.1.stack) (withClause_ignores r ctes)
      fun _ => setExpr_ignores r kind aliasName body

theorem withClause_ignores (r : Nat) : ∀ ctes, Ignores r (fun _ => True) (withClause ctes)
  | [] => (Commutes.pure ()).ignores
  | .mk a q _ _ :: rest => by
    simp only [withClause]
    exact Ignores.bind (query_keeps .cte (some a.name.value) q) (fun h => h.1.stack)
      (query_ignores r .cte _ q) fun id =>
        Ignores.bind ((keeps_addCte _ id).mono (fun h => h.1) (fun h => h) (fun h => h))
          (fun h => h.1.stack) (commutes_addCte _ id).ignores fun _ => withClause_ignores r rest

theorem setExpr_ignores (r : Nat) (kind : ScopeKind) (aliasName : Option String) :
    ∀ t, Ignores r (fun _ => True) (setExpr kind aliasName t)
  | .select sel => by
    simp only [setExpr]
    exact select_ignores r kind aliasName sel
  | .query q => by
    simp only [setExpr]
    exact query_ignores r kind aliasName q
  | .setOp left _ _ right => by
    simp only [setExpr]
    refine Ignores.enter_bind fun id hid => ?_
    refine Ignores.bind (setExpr_keeps .setOperand none left) (fun h => h.1.stack)
      (setExpr_ignores r .setOperand none left) fun l => Ignores.of_answered fun hl => ?_
    refine Ignores.bind (setExpr_keeps .setOperand none right) (fun h => h.1.stack)
      (setExpr_ignores r .setOperand none right) fun rt => Ignores.of_answered fun hrt => ?_
    -- the outputs of a set operation read its operands, which are done
    refine Ignores.get_bind (fun d fs => by
      simp only [Detector.arena_setFields, setOutputs_setFields hl hrt]) fun _ => ?_
    exact (Commutes.bind (commutes_modifyScope fun _ => .inl hid) fun _ =>
      Commutes.bind commutes_exit fun _ => Commutes.pure id).ignores
  | .values _ [] => by
    simp only [setExpr]
    exact ignores_values _ aliasName
      (Keeps.of_pure [] (Detector.Quiet.refl none) fun _ => Detector.ReadsDone.nil _)
      (Commutes.pure []).ignores
  | .values _ (row :: _) => by
    simp only [setExpr]
    exact ignores_values _ aliasName (rowFields_keeps 1 row) (rowFields_ignores r 1 row)
  | .insert .. => by
    simp only [setExpr]
    exact (Commutes.throw _).ignores
  | .other _ => by
    simp only [setExpr]
    exact (Commutes.throw _).ignores

theorem select_ignores (r : Nat) (kind : ScopeKind) (aliasName : Option String) :
    ∀ sel, Ignores r (fun _ => True) (select kind aliasName sel)
  | .mk _ projection _ from_ _ selection _ having _ => by
    simp only [select]
    refine Ignores.enter_bind fun id hid => ?_
    refine Ignores.bind (fromClause_keeps from_) (fun h => h.1.stack) (fromClause_ignores r from_)
      fun _ => ?_
    refine Ignores.bind (selectItems_keeps projection) (fun h => h.1.stack)
      (selectItems_ignores r projection) fun fields => ?_
    refine Ignores.bind (keeps_fill id fields) (fun h => h.1.stack)
      (commutes_modifyScope fun _ => .inl hid).ignores fun _ => ?_
    refine Ignores.condition_bind (walkOpt_ignores r .predicate selection) fun _ => ?_
    refine Ignores.condition_bind (walkOpt_ignores r .predicate having) fun _ => ?_
    exact Ignores.bind_commutes (ignores_finalize hid) fun _ =>
      Commutes.bind commutes_exit fun _ => Commutes.pure id

theorem selectItems_ignores (r : Nat) :
    ∀ items, Ignores r (fun _ => True) (selectItems items)
  | [] => (Commutes.pure []).ignores
  | item :: rest => by
    simp only [selectItems]
    exact Ignores.bind (selectItem_keeps item) (fun h => h.1.stack) (selectItem_ignores r item)
      fun fs => Ignores.bind_commutes ((selectItems_ignores r rest).mono fun _ => trivial)
        fun more => Commutes.pure _

theorem selectItem_ignores (r : Nat) :
    ∀ item, Ignores r (fun _ => True) (selectItem item)
  | .expr e aliasName => by
    simp only [selectItem]
    split
    · exact (Commutes.pure _).ignores
    · exact Ignores.bind_commutes ((walk_ignores r .value e []).mono
        fun _ => Detector.ReadsDone.nil _) fun inputs => Commutes.pure _
  | .wildcard none _ => by
    simp only [selectItem]
    exact ignores_expandWildcard none
  | .wildcard (some name) _ => by
    simp only [selectItem]
    split
    · exact ignores_expandWildcard _
    · exact (Commutes.throw _).ignores

theorem rowFields_ignores (r : Nat) (n : Nat) :
    ∀ row, Ignores r (fun _ => True) (rowFields n row)
  | [] => (Commutes.pure []).ignores
  | e :: rest => by
    simp only [rowFields]
    exact Ignores.bind ((walk_keeps .value e []).mono (fun _ => Detector.ReadsDone.nil _)
      (fun h => h) (fun h => h)) (fun h => h.1.stack)
      ((walk_ignores r .value e []).mono fun _ => Detector.ReadsDone.nil _) fun inputs =>
        Ignores.bind_commutes ((rowFields_ignores r (n + 1) rest).mono fun _ => trivial)
          fun more => Commutes.pure _

theorem fromClause_ignores (r : Nat) : ∀ ts, Ignores r (fun _ => True) (fromClause ts)
  | [] => (Commutes.pure ()).ignores
  | t :: rest => by
    simp only [fromClause]
    exact Ignores.bind (tableWithJoins_keeps t) (fun h => h.1.stack) (tableWithJoins_ignores r t)
      fun _ => fromClause_ignores r rest

theorem tableWithJoins_ignores (r : Nat) :
    ∀ t, Ignores r (fun _ => True) (tableWithJoins t)
  | .mk relation js => by
    simp only [tableWithJoins]
    exact Ignores.bind (factor_keeps relation) (fun h => h.1.stack) (factor_ignores r relation)
      fun _ => joins_ignores r js

theorem joins_ignores (r : Nat) : ∀ js, Ignores r (fun _ => True) (joins js)
  | [] => (Commutes.pure ()).ignores
  | .mk _ kind relation on c :: rest => by
    simp only [joins]
    refine Ignores.bind (factor_keeps relation) (fun h => h.1.stack) (factor_ignores r relation)
      fun _ => ?_
    split
    · split
      · exact Ignores.condition_bind (walkOpt_ignores r .predicate on) fun _ => joins_ignores r rest
      · exact Ignores.bind (keeps_addUsing _) (fun h => h.1.stack) (commutes_addUsing _).ignores
          fun _ => joins_ignores r rest
      · exact joins_ignores r rest
    · exact joins_ignores r rest

theorem factor_ignores (r : Nat) : ∀ t, Ignores r (fun _ => True) (factor t)
  | .table name _ aliasName _ => by
    simp only [factor]
    split
    · -- a WITH name or a table: the binding commutes, whichever it is
      refine (Commutes.bind (commutes_lookupCte _) fun cte => ?_).ignores
      split
      · exact Commutes.bind (Commutes.pure _) fun target => commutes_bind _ target
      · exact Commutes.bind (Commutes.pure _) fun target => commutes_bind _ target
    · exact (Commutes.throw _).ignores
  | .derived _ q aliasName => by
    simp only [factor]
    exact Ignores.bind_commutes (query_ignores r .derived _ q) fun child => commutes_bind _ _
  | .nestedJoin inner _ => by
    simp only [factor]
    exact tableWithJoins_ignores r inner
  | .other _ => by
    simp only [factor]
    exact (commutes_log _).ignores

theorem walk_ignores (r : Nat) (mode : WalkMode) : ∀ e, WalkIgnores r (walk mode e)
  | .identifier i => fun acc => by
    rw [walk_identifier]
    split
    · exact (Commutes.pure _).ignores
    · exact (Commutes.pure _).ignores
  | .compound parts => fun acc => by
    rw [walk_compound]
    split
    · split
      · exact (Commutes.pure _).ignores
      · exact (Commutes.pure _).ignores
    · exact (Commutes.pure _).ignores
  | .isTest e _ => walk_ignores r mode e
  | .isDistinctFrom a _ b =>
    .comp (walk_keeps mode a) (walk_ignores r mode a) (walk_ignores r mode b)
  | .inList e list _ =>
    .comp (walk_keeps mode e) (walk_ignores r mode e) (walkList_ignores r mode list)
  | .inSubquery e q _ =>
    .after (query_keeps .predicate none q) (query_ignores r .predicate none q)
      (walk_ignores r mode e)
  | .inUnnest e arr _ => .comp (walk_keeps mode e) (walk_ignores r mode e) (walk_ignores r mode arr)
  | .between e _ lo hi =>
    .comp (walk_keeps mode e) (walk_ignores r mode e)
      (.comp (walk_keeps mode lo) (walk_ignores r mode lo) (walk_ignores r mode hi))
  | .binary a _ b => .comp (walk_keeps mode a) (walk_ignores r mode a) (walk_ignores r mode b)
  | .like _ _ _ e p _ => .comp (walk_keeps mode e) (walk_ignores r mode e) (walk_ignores r mode p)
  | .rlike _ e p _ => .comp (walk_keeps mode e) (walk_ignores r mode e) (walk_ignores r mode p)
  | .quantified a _ _ b => .comp (walk_keeps mode a) (walk_ignores r mode a) (walk_ignores r mode b)
  | .unary _ e => walk_ignores r mode e
  | .postOp e _ => walk_ignores r mode e
  | .cast _ e _ _ => walk_ignores r mode e
  | .atTimeZone t z => .comp (walk_keeps mode t) (walk_ignores r mode t) (walk_ignores r mode z)
  | .extract _ _ e => walk_ignores r mode e
  | .ceilFloor _ e _ _ => walk_ignores r mode e
  | .position e i => .comp (walk_keeps mode e) (walk_ignores r mode e) (walk_ignores r mode i)
  | .substring e f fo _ =>
    .comp (walk_keeps mode e) (walk_ignores r mode e)
      (.comp (walkOpt_keeps mode f) (walkOpt_ignores r mode f) (walkOpt_ignores r mode fo))
  | .trim e _ what chars =>
    .comp (walk_keeps mode e) (walk_ignores r mode e)
      (.comp (walkOpt_keeps mode what) (walkOpt_ignores r mode what) (walkList_ignores r mode chars))
  | .overlay e w f fo =>
    .comp (walk_keeps mode e) (walk_ignores r mode e)
      (.comp (walk_keeps mode w) (walk_ignores r mode w)
        (.comp (walk_keeps mode f) (walk_ignores r mode f) (walkOpt_ignores r mode fo)))
  | .collate e _ => walk_ignores r mode e
  | .nested e => walk_ignores r mode e
  | .tuple items => walkList_ignores r mode items
  | .array items _ => walkList_ignores r mode items
  | .interval v _ => walk_ignores r mode v
  | .function _ params args filter _ window withinGroup _ =>
    .comp (walkArgs_keeps mode params) (walkArgs_ignores r mode params)
      (.comp (walkArgs_keeps mode args) (walkArgs_ignores r mode args)
        (.comp (walkOpt_keeps mode filter) (walkOpt_ignores r mode filter)
          (.comp (walkWindow_keeps mode window) (walkWindow_ignores r mode window)
            (walkOrder_ignores r mode withinGroup))))
  | .namedArg _ _ e => walk_ignores r mode e
  | .exprNamedArg name _ e =>
    .comp (walk_keeps mode name) (walk_ignores r mode name) (walk_ignores r mode e)
  | .matchAgainst .. => WalkIgnores.pure
  | .case operand conds results otherwise =>
    .comp (walkOpt_keeps mode operand) (walkOpt_ignores r mode operand)
      (.comp (walkList_keeps mode conds) (walkList_ignores r mode conds)
        (.comp (walkList_keeps mode results) (walkList_ignores r mode results)
          (walkOpt_ignores r mode otherwise)))
  | .exists q _ => .after (query_keeps .predicate none q) (query_ignores r .predicate none q) .pure
  | .subquery q => fun acc => by
    cases mode
    · exact Ignores.bind_commutes ((query_ignores r .scalar none q).mono fun _ => trivial)
        fun _ => Commutes.pure _
    · exact WalkIgnores.after (query_keeps .predicate none q) (query_ignores r .predicate none q)
        .pure acc
  | .access root chain =>
    .comp (walk_keeps mode root) (walk_ignores r mode root) (walkAccess_ignores r mode chain)
  | .pathAccess e path =>
    .comp (walk_keeps mode e) (walk_ignores r mode e) (walkPath_ignores r mode path)
  | .composite e _ => walk_ignores r mode e
  | .wildcard => WalkIgnores.pure
  | .qualifiedWildcard _ => WalkIgnores.pure
  | .introduced .. => WalkIgnores.pure
  | .convert _ e _ _ _ styles =>
    .comp (walk_keeps mode e) (walk_ignores r mode e) (walkList_ignores r mode styles)
  | .structLiteral _ values => walkList_ignores r mode values
  | .named e _ => walk_ignores r mode e
  | .dictionary _ values => walkList_ignores r mode values
  | .mapLiteral entries => walkEntries_ignores r mode entries
  | .prior e => walk_ignores r mode e
  | .lambda _ _ body => walk_ignores r mode body
  | .outerJoin e => walk_ignores r mode e
  | .method e calls =>
    .comp (walk_keeps mode e) (walk_ignores r mode e) (walkList_ignores r mode calls)
  | .value _ => WalkIgnores.pure
  | .typedString .. => WalkIgnores.pure

theorem walkList_ignores (r : Nat) (mode : WalkMode) : ∀ es, WalkIgnores r (walkList mode es)
  | [] => WalkIgnores.pure
  | e :: rest => .comp (walk_keeps mode e) (walk_ignores r mode e) (walkList_ignores r mode rest)

theorem walkAccess_ignores (r : Nat) (mode : WalkMode) :
    ∀ chain, WalkIgnores r (walkAccess mode chain)
  | [] => WalkIgnores.pure
  | .field e :: rest =>
    .comp (walk_keeps mode e) (walk_ignores r mode e) (walkAccess_ignores r mode rest)
  | .index e :: rest =>
    .comp (walk_keeps mode e) (walk_ignores r mode e) (walkAccess_ignores r mode rest)
  | .slice lower upper stride :: rest =>
    .comp (walkOpt_keeps mode lower) (walkOpt_ignores r mode lower)
      (.comp (walkOpt_keeps mode upper) (walkOpt_ignores r mode upper)
        (.comp (walkOpt_keeps mode stride) (walkOpt_ignores r mode stride)
          (walkAccess_ignores r mode rest)))

theorem walkClauses_ignores (r : Nat) (mode : WalkMode) :
    ∀ clauses, WalkIgnores r (walkClauses mode clauses)
  | [] => WalkIgnores.pure
  | .mk _ e _ :: rest =>
    .comp (walkOpt_keeps mode e) (walkOpt_ignores r mode e) (walkClauses_ignores r mode rest)

theorem walkEntries_ignores (r : Nat) (mode : WalkMode) :
    ∀ entries, WalkIgnores r (walkEntries mode entries)
  | [] => WalkIgnores.pure
  | .mk key v :: rest =>
    .comp (walk_keeps mode key) (walk_ignores r mode key)
      (.comp (walk_keeps mode v) (walk_ignores r mode v) (walkEntries_ignores r mode rest))

theorem walkPath_ignores (r : Nat) (mode : WalkMode) : ∀ path, WalkIgnores r (walkPath mode path)
  | [] => WalkIgnores.pure
  | .key _ _ :: rest => walkPath_ignores r mode rest
  | .bracket e :: rest =>
    .comp (walk_keeps mode e) (walk_ignores r mode e) (walkPath_ignores r mode rest)

theorem walkOpt_ignores (r : Nat) (mode : WalkMode) : ∀ e, WalkIgnores r (walkOpt mode e)
  | none => WalkIgnores.pure
  | some e => walk_ignores r mode e

theorem walkArgs_ignores (r : Nat) (mode : WalkMode) : ∀ args, WalkIgnores r (walkArgs mode args)
  | .list _ args _ orderBy limit clauses =>
    .comp (walkList_keeps mode args) (walkList_ignores r mode args)
      (.comp (walkOrder_keeps mode orderBy) (walkOrder_ignores r mode orderBy)
        (.comp (walkOpt_keeps mode limit) (walkOpt_ignores r mode limit)
          (walkClauses_ignores r mode clauses)))
  | .none => WalkIgnores.pure
  | .subquery _ => WalkIgnores.pure

theorem walkOrder_ignores (r : Nat) (mode : WalkMode) :
    ∀ items, WalkIgnores r (walkOrder mode items)
  | [] => WalkIgnores.pure
  | .mk e _ _ fill :: rest =>
    .comp (walk_keeps mode e) (walk_ignores r mode e)
      (.comp (walkFill_keeps mode fill) (walkFill_ignores r mode fill) (walkOrder_ignores r mode rest))

theorem walkFill_ignores (r : Nat) (mode : WalkMode) : ∀ fill, WalkIgnores r (walkFill mode fill)
  | some (.mk start stop step) =>
    .comp (walkOpt_keeps mode start) (walkOpt_ignores r mode start)
      (.comp (walkOpt_keeps mode stop) (walkOpt_ignores r mode stop) (walkOpt_ignores r mode step))
  | none => WalkIgnores.pure

theorem walkWindow_ignores (r : Nat) (mode : WalkMode) :
    ∀ window, WalkIgnores r (walkWindow mode window)
  | some (.spec _ partitionBy orderBy _ _ startExpr _ endExpr) =>
    .comp (walkList_keeps mode partitionBy) (walkList_ignores r mode partitionBy)
      (.comp (walkOrder_keeps mode orderBy) (walkOrder_ignores r mode orderBy)
        (.comp (walkOpt_keeps mode startExpr) (walkOpt_ignores r mode startExpr)
          (walkOpt_ignores r mode endExpr)))
  | some (.named _) => WalkIgnores.pure
  | none => WalkIgnores.pure

end

/-! ### The walk to sources reads the outputs it reaches -/

/-- Every leaf of the fields refers to scopes of `K` only. -/
def Field.LeavesWithin (K : Nat → Prop) (fs : List Field) : Prop :=
  ∀ g ∈ Field.listLeaves fs, ∀ k, g.Refers k → K k

namespace Field.LeavesWithin

variable {K : Nat → Prop} {f : Field} {fs : List Field}

theorem head (h : LeavesWithin K (f :: fs)) : LeavesWithin K [f] :=
  fun g hg => h g (by simp only [listLeaves_cons, listLeaves_nil, List.append_nil] at hg; simp [hg])

theorem tail (h : LeavesWithin K (f :: fs)) : LeavesWithin K fs :=
  fun g hg => h g (by simp [hg])

theorem of_mem (h : LeavesWithin K fs) (hf : f ∈ fs) : LeavesWithin K [f] :=
  fun g hg => h g (mem_listLeaves.mpr ⟨f, hf, by simpa using hg⟩)

@[simp] theorem derived_iff {n : String} {ds : List Field} {p : Transformation} :
    LeavesWithin K [.derived n ds p] ↔ LeavesWithin K ds := by
  simp [LeavesWithin]

theorem mono {K' : Nat → Prop} (h : LeavesWithin K fs) (hK : ∀ {k}, K k → K' k) :
    LeavesWithin K' fs :=
  fun g hg k hk => hK (h g hg k hk)

end Field.LeavesWithin

namespace Resolve

variable {A : ScopeArena} {r : Nat} {fs : List Field} {K : Nat → Prop} {maxDepth : Nat}

/-! The walk to sources follows a field into the scopes its leaves refer to,
and from a scope into the scopes its outputs refer to. Run over scopes `K`
closed in that sense and not holding `r`, it never reads the outputs of `r`. -/

mutual

theorem field_setFields (hK : ∀ {k S}, K k → A.get? k = some S → Field.LeavesWithin K S.fields)
    (hr : ¬ K r) (d : Nat) (f : Field) (hf : Field.LeavesWithin K [f]) :
    field (A.setFields r fs) maxDepth d f = field A maxDepth d f := by
  match f with
  | .column n ref p =>
    rcases ho : ref.origin with _ | t | child | labels | _ <;> simp only [field, ho]
    exact named_setFields hK hr (d + 1) child ref.column ref.position
      (hf (.column n ref p) (by simp) child ho)
  | .derived n deps p =>
    simp only [field]
    exact fields_setFields hK hr d deps (Field.LeavesWithin.derived_iff.mp hf)
  | .scalar n child p =>
    have hchild : K child := hf (.scalar n child p) (by simp) child rfl
    have hne : r ≠ child := fun h => hr (h ▸ hchild)
    simp only [field, ScopeArena.get?_setFields_of_ne hne]
    by_cases hlim : maxDepth < d + 1
    · rw [dif_pos hlim, dif_pos hlim]
    · rw [dif_neg hlim, dif_neg hlim]
      cases hS : A.get? child with
      | none => rfl
      | some s =>
        simp only [fieldsDeeper]
        exact fields_setFields hK hr (d + 1) s.fields (hK hchild hS)
  | .constant n p => simp only [field]
  | .wildcard n t p => simp only [field]
termination_by (maxDepth + 1 - d, sizeOf f, 1)
decreasing_by
  all_goals (simp only [Prod.lex_def, Field.column.sizeOf_spec, Field.derived.sizeOf_spec,
    true_and]; omega)

theorem fields_setFields (hK : ∀ {k S}, K k → A.get? k = some S → Field.LeavesWithin K S.fields)
    (hr : ¬ K r) (d : Nat) (gs : List Field) (hg : Field.LeavesWithin K gs) :
    fields (A.setFields r fs) maxDepth d gs = fields A maxDepth d gs := by
  match gs with
  | [] => simp only [fields]
  | f :: rest =>
    simp only [fields]
    rw [field_setFields hK hr d f hg.head, fields_setFields hK hr d rest hg.tail]
termination_by (maxDepth + 1 - d, sizeOf gs, 1)
decreasing_by all_goals (simp only [Prod.lex_def, List.cons.sizeOf_spec, true_and]; omega)

theorem named_setFields (hK : ∀ {k S}, K k → A.get? k = some S → Field.LeavesWithin K S.fields)
    (hr : ¬ K r) (d id : Nat) (name : String) (position : Option Nat) (hid : K id) :
    named (A.setFields r fs) maxDepth d id name position = named A maxDepth d id name position := by
  simp only [named]
  congr 1
  funext st
  split
  · rfl
  · by_cases hlim : maxDepth < d
    · rw [dif_pos hlim, dif_pos hlim]
    · rw [dif_neg hlim, dif_neg hlim, lookup_setFields hK hr d id name position hlim hid]
termination_by (maxDepth + 2 - d, 0, 1)
decreasing_by all_goals (simp only [Prod.lex_def, true_and]; omega)

theorem lookup_setFields (hK : ∀ {k S}, K k → A.get? k = some S → Field.LeavesWithin K S.fields)
    (hr : ¬ K r) (d id : Nat) (name : String) (position : Option Nat) (h : ¬ maxDepth < d)
    (hid : K id) :
    lookup (A.setFields r fs) maxDepth d id name position h =
      lookup A maxDepth d id name position h := by
  have hne : r ≠ id := fun he => hr (he ▸ hid)
  -- one case for each way the lookup goes on: each reads the same scopes
  cases hS : A.get? id with
  | none => simp only [lookup, ScopeArena.get?_setFields_of_ne hne, hS]
  | some s =>
    have hs := hK hid hS
    cases hc : (chooseField s.fields name position).1 with
    | some f =>
      simp only [lookup, ScopeArena.get?_setFields_of_ne hne, hS, hc,
        field_setFields hK hr d f (hs.of_mem (chooseField_mem hc))]
    | none =>
      match hst : s.fields.filter Field.isStar with
      | [] => simp only [lookup, ScopeArena.get?_setFields_of_ne hne, hS, hc, hst]
      | [star] =>
        have hmem : star ∈ s.fields := by
          have h₁ : star ∈ s.fields.filter Field.isStar := by
            rw [hst]
            exact List.mem_singleton_self star
          exact List.mem_of_mem_filter h₁
        match star with
        | .column m' { qualifier, column, position := place, origin := .scope child } p =>
          simp only [lookup, ScopeArena.get?_setFields_of_ne hne, hS, hc, hst,
            named_setFields hK hr (d + 1) child name none
              (hs.of_mem hmem (.column m' { qualifier, column, position := place, origin := .scope child } p)
                (by simp) child rfl)]
        | .column _ { origin := .table _, .. } _ | .column _ { origin := .pending, .. } _
        | .column _ { origin := .ambiguous _, .. } _ | .column _ { origin := .unbound, .. } _
        | .derived .. | .scalar .. | .constant .. | .wildcard .. =>
          simp only [lookup, ScopeArena.get?_setFields_of_ne hne, hS, hc, hst]
      | _ :: _ :: _ => simp only [lookup, ScopeArena.get?_setFields_of_ne hne, hS, hc, hst]
termination_by (maxDepth + 2 - d, 0, 0)
decreasing_by all_goals (simp only [Prod.lex_def]; omega)

end

end Resolve

/-- The outputs of a done scope refer only to scopes closed before it. -/
theorem ScopeArena.ClosingOrder.leaves {A : ScopeArena} {order : List Nat}
    (ho : A.ClosingOrder order) {i : Nat} {S : Scope} (hi : A.Done i) (hS : A.get? i = some S) :
    Field.LeavesWithin (fun k => A.Done k ∧ order.idxOf k < order.idxOf i) S.fields := by
  intro g hg k hk
  have hlt : order.idxOf k < order.idxOf i := ho.before hS hi (.inr ⟨g, hg, hk⟩)
  have hin : order.idxOf i < order.length := List.idxOf_lt_length_iff.mpr ((ho.mem i).mpr hi)
  exact ⟨(ho.mem k).mp (List.idxOf_lt_length_iff.mp (Nat.lt_trans hlt hin)), hlt⟩

/-- Fields that refer only to scopes closed before `r` have the same sources
whatever the outputs of `r`. -/
theorem ScopeArena.ClosingOrder.field_setFields {A : ScopeArena} {order : List Nat}
    (ho : A.ClosingOrder order) {r : Nat} {fs : List Field} (maxDepth d : Nat) (f : Field)
    (hf : Field.LeavesWithin (fun k => A.Done k ∧ order.idxOf k < order.idxOf r) [f]) :
    Resolve.field (A.setFields r fs) maxDepth d f = Resolve.field A maxDepth d f :=
  Resolve.field_setFields (fun hk hS => (ho.leaves hk.1 hS).mono fun hj => ⟨hj.1, Nat.lt_trans hj.2 hk.2⟩)
    (fun h => Nat.lt_irrefl _ h.2) d f hf

end ColumnLineage
