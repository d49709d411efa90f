import ColumnLineage.Proofs.WalkFrame
/-
ColumnLineage/Proofs/ScopeOutline.lean

The outline of the scopes of a statement: for each scope, in the order the
scopes were opened, its parent, its kind and the names of its FROM clause with
what each stands for (`ScopeOutline`). The walk changes the outline in two
ways only (`ScopeEvent`): it opens a scope below the current one, or it binds
a name in a scope. Everything else it does to a scope (its fields, the columns
of its joins, the places of its column references) leaves the outline as it
was.

`Replays` is a Hoare triple for the walk over the outline: started with an
outline, frames of WITH names and open scopes, a step changes the outline by
some first events of a list, by all of them when it succeeds, and then leaves
given frames and open scopes. Each primitive step of the walk gets its triple
here; sequencing appends the lists. The proofs about whole walks then only put
these triples together along the walk's own recursion.
-/

namespace ColumnLineage

open Run Detect

/-- What a scope records of the structure of a statement: its parent, its
kind, and the names of its FROM clause with what each stands for. -/
structure ScopeOutline where
  parent : Option Nat
  kind : ScopeKind
  bindings : List Binding
  deriving DecidableEq, Repr

/-- The outline of a scope. -/
def Scope.outline (S : Scope) : ScopeOutline := ⟨S.parent, S.kind, S.bindings⟩

/-- The outlines of the scopes of an arena, by id. -/
def ScopeArena.outline (a : ScopeArena) : List ScopeOutline := a.scopes.toList.map Scope.outline

namespace ScopeArena

variable {a : ScopeArena}

@[simp] theorem length_outline : a.outline.length = a.size := by
  simp [outline, size]

theorem outline_push (s : Scope) : (a.push s).outline = a.outline ++ [s.outline] := by
  simp [outline, push]

/-- Changing a scope changes its outline alone, as `g` says. -/
theorem outline_modify {id : Nat} {f : Scope → Scope} {g : ScopeOutline → ScopeOutline}
    (hf : ∀ S, (f S).outline = g S.outline) : (a.modify id f).outline = a.outline.modify id g := by
  apply List.ext_getElem?
  intro i
  simp only [outline, modify, Array.toList_modify, List.getElem?_map, List.getElem?_modify]
  cases a.scopes.toList[i]? <;> by_cases h : id = i <;> simp [h, hf]

/-- A change that keeps the outline of every scope keeps the arena's. -/
theorem outline_modify_of_eq {id : Nat} {f : Scope → Scope} (hf : ∀ S, (f S).outline = S.outline) :
    (a.modify id f).outline = a.outline := by
  rw [outline_modify (g := fun o => o) hf]
  apply List.ext_getElem?
  intro i
  simp only [List.getElem?_modify]
  cases a.outline[i]? <;> simp

end ScopeArena

/-- A change the walk makes to the outline of the scopes: a scope opened below
a parent, or a name bound in a scope. -/
inductive ScopeEvent where
  | enter (parent : Option Nat) (kind : ScopeKind)
  | bind (scope : Nat) (b : Binding)
  deriving DecidableEq, Repr

namespace ScopeEvent

/-- The outline after one event. -/
def apply (K : List ScopeOutline) : ScopeEvent → List ScopeOutline
  | .enter parent kind => K ++ [⟨parent, kind, []⟩]
  | .bind i b => K.modify i fun o => { o with bindings := o.bindings ++ [b] }

/-- The outline after events, in order. -/
def replay (K : List ScopeOutline) (evs : List ScopeEvent) : List ScopeOutline := evs.foldl apply K

/-- How many scopes events open. -/
def opened (evs : List ScopeEvent) : Nat :=
  evs.countP fun | .enter .. => true | .bind .. => false

/-- Events at `n` followed by events at the next free id: the ids of the scopes
the first ones open come before those of the second. -/
def seq (f g : Nat → List ScopeEvent) (n : Nat) : List ScopeEvent :=
  f n ++ g (n + opened (f n))

@[simp] theorem replay_nil (K : List ScopeOutline) : replay K [] = K := rfl

@[simp] theorem replay_cons (K : List ScopeOutline) (e : ScopeEvent) (evs : List ScopeEvent) :
    replay K (e :: evs) = replay (apply K e) evs := rfl

theorem replay_append (K : List ScopeOutline) (evs evs' : List ScopeEvent) :
    replay K (evs ++ evs') = replay (replay K evs) evs' := by
  simp [replay, List.foldl_append]

theorem length_apply (K : List ScopeOutline) (e : ScopeEvent) :
    (apply K e).length = K.length + opened [e] := by
  cases e <;> simp [apply, opened]

/-- The outline grows by the scopes the events open. -/
theorem length_replay (K : List ScopeOutline) (evs : List ScopeEvent) :
    (replay K evs).length = K.length + opened evs := by
  induction evs generalizing K with
  | nil => simp [opened]
  | cons e evs ih =>
    rw [replay_cons, ih, length_apply]
    simp [opened, List.countP_cons]
    omega

theorem length_replay_of {K : List ScopeOutline} {n : Nat} (hK : K.length = n)
    (evs : List ScopeEvent) : (replay K evs).length = n + opened evs := by
  rw [length_replay, hK]

end ScopeEvent

open ScopeEvent

/-- Started with the outline `K`, the frames of WITH names `E` and the open
scopes `σ`, the step `x` changes the outline by some first events of `evs`, and
by all of them when it succeeds; it then leaves the frames `E'` and the open
scopes `σ'`, with an answer that `post` accepts. -/
def Replays {α : Type} (K : List ScopeOutline) (E : List (List (String × Nat))) (σ : List Nat)
    (x : Detect α) (evs : List ScopeEvent) (E' : List (List (String × Nat))) (σ' : List Nat)
    (post : α → Prop) : Prop :=
  ∀ d r d', d.arena.outline = K → d.frames = E → d.arena.stack = σ → x.run.run d = (r, d') →
    (∃ pre, pre <+: evs ∧ d'.arena.outline = replay K pre) ∧
    ∀ a, r = .ok a →
      d'.arena.outline = replay K evs ∧ d'.frames = E' ∧ d'.arena.stack = σ' ∧ post a

namespace Replays

variable {α β : Type} {K : List ScopeOutline} {E E₁ E₂ : List (List (String × Nat))}
  {σ σ₁ σ₂ : List Nat} {x : Detect α} {f : α → Detect β} {evs ex ef : List ScopeEvent}
  {P : α → Prop} {Q : β → Prop}

/-- A step that keeps the outline, and when it succeeds the frames and the
open scopes too. -/
theorem of_keeps (h : ∀ d r d', x.run.run d = (r, d') → d'.arena.outline = d.arena.outline ∧
    ∀ a, r = .ok a → d'.frames = d.frames ∧ d'.arena.stack = d.arena.stack ∧ P a) :
    Replays K E σ x [] E σ P := by
  intro d r d' hK hE hσ hx
  obtain ⟨hout, hok⟩ := h d r d' hx
  refine ⟨⟨[], List.nil_prefix, by rw [hout, hK]; rfl⟩, fun a hr => ?_⟩
  obtain ⟨hf, hs, hP⟩ := hok a hr
  exact ⟨by rw [hout, hK]; rfl, hf.trans hE, hs.trans hσ, hP⟩

/-- A step that leaves the arena and the frames as they are. -/
theorem of_arena (h : ∀ d r d', x.run.run d = (r, d') → d'.arena = d.arena ∧ d'.frames = d.frames ∧
    ∀ a, r = .ok a → P a) : Replays K E σ x [] E σ P :=
  of_keeps fun d r d' hx => by
    obtain ⟨ha, hf, hP⟩ := h d r d' hx
    exact ⟨by rw [ha], fun a hr => ⟨hf, by rw [ha], hP a hr⟩⟩

theorem pure (a : α) (h : P a) : Replays K E σ (Pure.pure a : Detect α) [] E σ P :=
  of_arena fun d r d' hx => by
    cases hx
    exact ⟨rfl, rfl, fun b hb => by cases hb; exact h⟩

theorem of_throw (e : LineageError) : Replays K E σ (throw e : Detect α) evs E' σ' P := by
  intro d r d' hK _ _ hx
  cases hx
  exact ⟨⟨[], List.nil_prefix, hK⟩, fun a ha => by cases ha⟩

/-- A failure, whatever would follow it. -/
theorem throw_bind (e : LineageError) (f : α → Detect β) :
    Replays K E σ (MonadExcept.throw e >>= f) evs E' σ' Q := by
  intro d r d' hK _ _ h
  rw [Run.run_bind] at h
  cases h
  exact ⟨⟨[], List.nil_prefix, hK⟩, fun a ha => by cases ha⟩

/-- A change of the detector that leaves its arena and frames alone. -/
theorem modify {g : Detector → Detector} (ha : ∀ d, (g d).arena = d.arena)
    (hf : ∀ d, (g d).frames = d.frames) : Replays K E σ (modify g) [] E σ fun _ => True :=
  of_arena fun d r d' h => by
    rw [Run.run_modify] at h
    cases h
    exact ⟨ha d, hf d, fun _ _ => trivial⟩

/-- A sequence changes the outline by the events of its first step, then by
those of the rest. -/
theorem bind (hx : Replays K E σ x ex E₁ σ₁ P)
    (hf : ∀ a, P a → Replays (replay K ex) E₁ σ₁ (f a) ef E₂ σ₂ Q) :
    Replays K E σ (x >>= f) (ex ++ ef) E₂ σ₂ Q := by
  intro d r d' hK hE hσ h
  rw [Run.run_bind] at h
  rcases h₁ : x.run.run d with ⟨e | a, d₁⟩ <;> rw [h₁] at h
  · -- the first step failed: its events are a prefix of both
    cases h
    obtain ⟨⟨pre, hpre, hout⟩, -⟩ := hx d _ _ hK hE hσ h₁
    exact ⟨⟨pre, hpre.trans (List.prefix_append ex ef), hout⟩, fun a ha => by cases ha⟩
  · obtain ⟨-, hok⟩ := hx d _ d₁ hK hE hσ h₁
    obtain ⟨hK₁, hE₁, hσ₁, hP⟩ := hok a rfl
    obtain ⟨⟨pre, hpre, hout⟩, hok₂⟩ := hf a hP d₁ r d' hK₁ hE₁ hσ₁ h
    refine ⟨⟨ex ++ pre, (List.prefix_append_right_inj ex).mpr hpre, by rw [hout, replay_append]⟩,
      fun b hb => ?_⟩
    obtain ⟨hout₂, hrest⟩ := hok₂ b hb
    exact ⟨by rw [hout₂, replay_append], hrest⟩

/-- A first step that does not change the outline. -/
theorem keep_bind (hx : Replays K E σ x [] E₁ σ₁ P) (hf : ∀ a, P a → Replays K E₁ σ₁ (f a) ef E₂ σ₂ Q) :
    Replays K E σ (x >>= f) ef E₂ σ₂ Q :=
  bind hx hf

/-- A last part that does not change the outline. -/
theorem bind_nil (hx : Replays K E σ x evs E₁ σ₁ P)
    (hf : ∀ a, P a → Replays (replay K evs) E₁ σ₁ (f a) [] E₂ σ₂ Q) :
    Replays K E σ (x >>= f) evs E₂ σ₂ Q := by
  have h := bind hx hf
  rwa [List.append_nil] at h

/-- Two parts in turn, each with the events it makes from the next free id:
the second part starts after the scopes the first one opened. -/
theorem seq {g h : Nat → List ScopeEvent} {n : Nat} (hK : K.length = n)
    (hx : Replays K E σ x (g n) E₁ σ₁ P)
    (hf : ∀ a, P a → (replay K (g n)).length = n + opened (g n) →
      Replays (replay K (g n)) E₁ σ₁ (f a) (h (n + opened (g n))) E₂ σ₂ Q) :
    Replays K E σ (x >>= f) (ScopeEvent.seq g h n) E₂ σ₂ Q :=
  bind hx fun a hP => hf a hP (length_replay_of hK _)

/-- A query's handler closes its frame and fails again: the outline is the one
its body failed with. -/
theorem catchPop (hx : Replays K E σ x evs E₁ σ₁ P) :
    Replays K E σ (tryCatch x fun e => do popFrame; MonadExcept.throw e) evs E₁ σ₁ P := by
  intro d r d' hK hE hσ h
  rw [run_tryCatch] at h
  rcases h₁ : x.run.run d with ⟨e | a, d₁⟩ <;> rw [h₁] at h
  · dsimp only at h
    rw [run_popFrame_throw] at h
    cases h
    obtain ⟨hpre, -⟩ := hx d _ d₁ hK hE hσ h₁
    exact ⟨hpre, fun a ha => by cases ha⟩
  · cases h
    exact hx d _ _ hK hE hσ h₁

theorem get {g : Detector → Detect α} (hg : ∀ d, Replays K E σ (g d) evs E₁ σ₁ P) :
    Replays K E σ (MonadState.get >>= g) evs E₁ σ₁ P :=
  fun d r d' hK hE hσ h => hg d d r d' hK hE hσ (by simpa only [Run.run_bind, Run.run_get] using h)

end Replays

/-! ### The primitive steps -/

section Steps

variable {K : List ScopeOutline} {E : List (List (String × Nat))} {σ : List Nat}

/-- Opening a scope adds its outline, below the current scope, under the next
free id. -/
theorem Replays.enter (kind : ScopeKind) (aliasName : Option String) :
    Replays K E σ (enter kind aliasName) [.enter σ.head? kind] E (K.length :: σ) (· = K.length) := by
  intro d r d' hK hE hσ h
  rw [run_enter] at h
  split at h
  · cases h
    exact ⟨⟨[], List.nil_prefix, hK⟩, fun a ha => by cases ha⟩
  · cases h
    have hsize : d.arena.size = K.length := by rw [← hK, ScopeArena.length_outline]
    have hout : (d.arena.push (d.arena.opened kind aliasName)).outline =
        replay K [.enter σ.head? kind] := by
      rw [ScopeArena.outline_push, hK]
      simp [replay, apply, Scope.outline, ScopeArena.opened, ScopeArena.current, hσ]
    refine ⟨⟨_, List.prefix_refl _, hout⟩, fun a ha => ?_⟩
    cases ha
    exact ⟨hout, hE, by simp [hσ, hsize], hsize⟩

theorem Replays.exit {i : Nat} : Replays K E (i :: σ) exit [] E σ (· = i) := by
  intro d r d' hK hE hσ h
  rw [run_exit, hσ] at h
  cases h
  exact ⟨⟨[], List.nil_prefix, hK⟩, fun a ha => by cases ha; exact ⟨hK, hE, rfl, rfl⟩⟩

/-- Binding a name adds it to the bindings of the current scope. -/
theorem Replays.bindName {i : Nat} (aliasName : Option String) (target : BindingTarget) :
    Replays K E (i :: σ) (Detect.bind aliasName target) [.bind i ⟨aliasName, target⟩] E (i :: σ)
      fun _ => True := by
  intro d r d' hK hE hσ h
  rw [Detect.run_bind] at h
  simp only [ScopeArena.current, hσ, List.head?_cons] at h
  cases h
  have hout : (d.arena.modify i fun c => { c with bindings := c.bindings ++ [{ aliasName, target }] }).outline =
      replay K [.bind i ⟨aliasName, target⟩] := by
    rw [ScopeArena.outline_modify (g := fun o => { o with bindings := o.bindings ++ [⟨aliasName, target⟩] })
      fun _ => rfl, hK]
    rfl
  exact ⟨⟨_, List.prefix_refl _, hout⟩, fun a _ => ⟨hout, hE, hσ, trivial⟩⟩

theorem Replays.pushFrame : Replays K E σ pushFrame [] ([] :: E) σ fun _ => True := by
  intro d r d' hK hE hσ h
  rw [run_pushFrame] at h
  cases h
  exact ⟨⟨[], List.nil_prefix, hK⟩, fun a _ => ⟨hK, by rw [hE], hσ, trivial⟩⟩

theorem Replays.popFrame {frame : List (String × Nat)} :
    Replays K (frame :: E) σ popFrame [] E σ fun _ => True := by
  intro d r d' hK hE hσ h
  rw [run_popFrame] at h
  cases h
  exact ⟨⟨[], List.nil_prefix, hK⟩, fun a _ => ⟨hK, by simp [hE], hσ, trivial⟩⟩

/-- A WITH name goes to the frame of the innermost query, latest first. -/
theorem Replays.addCte {frame : List (String × Nat)} (name : String) (id : Nat) :
    Replays K (frame :: E) σ (addCte name id) [] (((name, id) :: frame) :: E) σ fun _ => True := by
  intro d r d' hK hE hσ h
  rw [run_addCte, hE] at h
  cases h
  exact ⟨⟨[], List.nil_prefix, hK⟩, fun a _ => ⟨hK, rfl, hσ, trivial⟩⟩

theorem Replays.lookupCte (t : TableName) :
    Replays K E σ (lookupCte t) [] E σ
      (· = if t.database.isSome then none else E.findSome? fun f => f.lookup t.name) := by
  intro d r d' hK hE hσ h
  rw [run_lookupCte] at h
  cases h
  exact ⟨⟨[], List.nil_prefix, hK⟩, fun a ha => by cases ha; exact ⟨hK, hE, hσ, by rw [hE]⟩⟩

/-- Changing what a scope holds besides its outline. -/
theorem Replays.modifyScope {id : Nat} {f : Scope → Scope} (hf : ∀ S, (f S).outline = S.outline) :
    Replays K E σ (modifyScope id f) [] E σ fun _ => True :=
  Replays.of_keeps fun d r d' h => by
    rw [run_modifyScope] at h
    split at h
    · cases h
      exact ⟨rfl, fun a ha => by cases ha⟩
    · cases h
      exact ⟨ScopeArena.outline_modify_of_eq hf, fun _ _ => ⟨rfl, rfl, trivial⟩⟩

/-- Completing a scope places its column references, which the outline does
not record. -/
theorem Replays.finalize (id : Nat) : Replays K E σ (finalize id) [] E σ fun _ => True :=
  Replays.of_keeps fun d r d' h => by
    rw [run_finalize] at h
    cases h
    have ha : (Bindings.finalize d.catalog d.arena id).1 = _ := Bindings.finalize_arena id
    refine ⟨?_, fun _ _ => ⟨rfl, ?_, trivial⟩⟩
    · rcases hS : d.arena.get? id with _ | S <;> rw [hS] at ha <;> rw [ha]
      exact ScopeArena.outline_modify_of_eq fun _ => rfl
    · rcases hS : d.arena.get? id with _ | S <;> rw [hS] at ha <;> rw [ha]
      rfl

theorem Replays.addUsing (columns : List Sql.ObjectName) :
    Replays K E σ (addUsing columns) [] E σ fun _ => True :=
  Replays.of_keeps fun d r d' h => by
    rw [run_addUsing] at h
    split at h
    · cases h
      exact ⟨ScopeArena.outline_modify_of_eq fun _ => rfl, fun _ _ => ⟨rfl, rfl, trivial⟩⟩
    · cases h
      exact ⟨rfl, fun a ha => by cases ha⟩

theorem Replays.expandWildcard (qualifier : Option TableName) :
    Replays K E σ (expandWildcard qualifier) [] E σ fun _ => True :=
  Replays.of_arena fun d r d' h => by
    rw [run_expandWildcard] at h
    split at h <;> cases h <;> exact ⟨rfl, rfl, fun _ _ => trivial⟩

theorem Replays.log (e : Log.Event) : Replays K E σ (log e) [] E σ fun _ => True :=
  Replays.of_arena fun d r d' h => by
    rw [run_log] at h
    cases h
    exact ⟨rfl, rfl, fun _ _ => trivial⟩

/-- A set operation completes its scope with its outputs and binds its two
operands, in order. -/
theorem Replays.bindOperands {i id : Nat} (outputs : List Field) (b₁ b₂ : Binding) :
    Replays K E (i :: σ) (Detect.modifyScope id fun s =>
        { s with fields := outputs, bindings := s.bindings ++ [b₁, b₂] })
      [.bind id b₁, .bind id b₂] E (i :: σ) fun _ => True := by
  intro d r d' hK hE hσ h
  rw [run_modifyScope] at h
  split at h
  · cases h
    exact ⟨⟨[], List.nil_prefix, hK⟩, fun a ha => by cases ha⟩
  · cases h
    have hout : (d.arena.modify id fun s =>
          { s with fields := outputs, bindings := s.bindings ++ [b₁, b₂] }).outline =
        replay K [.bind id b₁, .bind id b₂] := by
      rw [ScopeArena.outline_modify (g := fun o => { o with bindings := o.bindings ++ [b₁, b₂] })
        fun _ => rfl, hK]
      apply List.ext_getElem?
      intro j
      simp only [replay_cons, replay_nil, apply, List.getElem?_modify]
      cases K[j]? <;> by_cases hj : id = j <;> simp [hj]
    exact ⟨⟨_, List.prefix_refl _, hout⟩, fun a _ => ⟨hout, hE, hσ, trivial⟩⟩

end Steps

end ColumnLineage
