import ColumnLineage.Proofs.PlaceRenaming
import ColumnLineage.Proofs.ClosedWalk
/-
ColumnLineage/Proofs/PairedSteps.lean

Two walks over the same syntax, step by step. The first walk runs from a
detector `s`, the second from a detector `w`, and the two are in step under a
matching `ρ` of their scopes (`Detector.InStep`): matched scopes agree, the
innermost open scopes and frames of WITH names are matched, and below them
neither side has a scope that places a column or a frame that holds a WITH
name. So the walks may start at different depths and in different arenas:
a query walked as a statement of its own and the same query walked as a
derived table or as a WITH body of another.

`Sim P n m n' m' x y R` says that the step `y` keeps pace with the step `x`:
from detectors in step with `n` matched open scopes and `m` matched frames,
where `P` holds, whenever `x` succeeds so does `y`, the detectors are in step
again with `n'` and `m'`, the matching grows only by scopes `x` opened, and
`R` relates the answers. The first walk's detector stays valid all along; this
is what lets the second walk skip a step of the first that changes nothing it
matched (`Sim.leftQuiet`). Every primitive step keeps pace with itself, given
matched arguments; the walks over the syntax are put together from these.
-/

namespace ColumnLineage

open Run Detect

/-- Two frames of WITH names agree: the same names in the same order, for
matched scopes. -/
def FrameRel (ρ : Renaming) (f f' : List (String × Nat)) : Prop :=
  List.Forall₂ (fun e e' => e'.1 = e.1 ∧ ρ.map e.2 = some e'.2) f f'

/-- The detectors `s` and `w` are in step under `ρ`, with `n` matched open
scopes and `m` matched frames: they read the same catalog; matched scopes
agree and the second arena is well laid out; the innermost `n` open scopes
are matched in order, and the open scope below them on either side heads a
blind chain; the innermost `m` frames agree, and every frame below them is
empty; the second walk has at least as much room below its depth limit as
the first. -/
structure Detector.InStep (ρ : Renaming) (n m : Nat) (s w : Detector) : Prop where
  catalog : w.catalog = s.catalog
  scopes : ScopesRel ρ s.arena w.arena
  shaped : w.arena.Shaped
  stack : List.Forall₂ (fun i j => ρ.map i = some j) (s.arena.stack.take n)
    (w.arena.stack.take n)
  depth : n ≤ s.arena.stack.length
  outerLeft : Blind s.arena ρ.FreeLeft (s.arena.stack.drop n).head?
  outerRight : Blind w.arena ρ.FreeRight (w.arena.stack.drop n).head?
  frames : List.Forall₂ (FrameRel ρ) (s.frames.take m) (w.frames.take m)
  frameDepth : m ≤ s.frames.length
  outerFramesLeft : ∀ f ∈ s.frames.drop m, f = []
  outerFramesRight : ∀ f ∈ w.frames.drop m, f = []
  room : w.arena.stack.length + s.arena.maxDepth ≤ s.arena.stack.length + w.arena.maxDepth

/-- `ρ'` extends `ρ` by scopes of the first arena with ids from `k` on. -/
structure Renaming.AddsFrom (ρ ρ' : Renaming) (k : Nat) : Prop where
  grows : ρ.Extends ρ'
  fresh : ∀ {i j}, ρ'.map i = some j → ρ.map i = none → k ≤ i

namespace Renaming.AddsFrom

variable {ρ ρ₁ ρ₂ : Renaming} {k k₁ : Nat}

theorem refl (ρ : Renaming) (k : Nat) : ρ.AddsFrom ρ k :=
  ⟨fun h => h, fun h h₀ => by rw [h₀] at h; cases h⟩

theorem trans (h₁ : ρ.AddsFrom ρ₁ k) (h₂ : ρ₁.AddsFrom ρ₂ k₁) (hk : k ≤ k₁) :
    ρ.AddsFrom ρ₂ k where
  grows := Renaming.Extends.trans h₁.grows h₂.grows
  fresh {i _} h h₀ := by
    rcases h₁₀ : ρ₁.map i with _ | j₁
    · exact Nat.le_trans hk (h₂.fresh h h₁₀)
    · exact h₁.fresh h₁₀ h₀

end Renaming.AddsFrom

/-! ### Being in step -/

section InStep

variable {ρ ρ' : Renaming} {n m : Nat} {s w : Detector}

theorem FrameRel.mono (hρ : ρ.Extends ρ') {f f' : List (String × Nat)} (h : FrameRel ρ f f') :
    FrameRel ρ' f f' :=
  h.imp fun _ _ he => ⟨he.1, hρ he.2⟩

/-- Agreeing lists of at least one element start with agreeing elements. -/
theorem Forall₂.head?_take {α β : Type} {R : α → β → Prop} {l : List α} {l' : List β} {k : Nat}
    (h : List.Forall₂ R (l.take (k + 1)) (l'.take (k + 1))) : Option.Rel R l.head? l'.head? := by
  cases l <;> cases l' <;> simp_all

theorem Detector.InStep.depth_right (h : s.InStep ρ n m w) : n ≤ w.arena.stack.length := by
  have hlen := h.stack.length_eq
  have hd := h.depth
  simp only [List.length_take] at hlen
  omega

theorem Detector.InStep.frameDepth_right (h : s.InStep ρ n m w) : m ≤ w.frames.length := by
  have hlen := h.frames.length_eq
  have hd := h.frameDepth
  simp only [List.length_take] at hlen
  omega

/-- Steps that change only the scopes, keeping the open ones, keep the
detectors in step when the scopes still agree and every scope left out of the
matching is as it was. -/
theorem Detector.InStep.of_arenas (h : s.InStep ρ n m w) {s₁ w₁ : Detector}
    (hcat : s₁.catalog = s.catalog) (hcat' : w₁.catalog = w.catalog)
    (hframes : s₁.frames = s.frames) (hframes' : w₁.frames = w.frames)
    (hstack : s₁.arena.stack = s.arena.stack) (hstack' : w₁.arena.stack = w.arena.stack)
    (hmax : s₁.arena.maxDepth = s.arena.maxDepth) (hmax' : w₁.arena.maxDepth = w.arena.maxDepth)
    (hscopes : ScopesRel ρ s₁.arena w₁.arena) (hshaped : w₁.arena.Shaped)
    (hk : KeepsFree ρ ρ s.arena w.arena s₁.arena w₁.arena) : s₁.InStep ρ n m w₁ where
  catalog := by rw [hcat, hcat', h.catalog]
  scopes := hscopes
  shaped := hshaped
  stack := by rw [hstack, hstack']; exact h.stack
  depth := by rw [hstack]; exact h.depth
  outerLeft := by rw [hstack]; exact h.outerLeft.transfer hk.left
  outerRight := by rw [hstack']; exact h.outerRight.transfer hk.right
  frames := by rw [hframes, hframes']; exact h.frames
  frameDepth := by rw [hframes]; exact h.frameDepth
  outerFramesLeft := by rw [hframes]; exact h.outerFramesLeft
  outerFramesRight := by rw [hframes']; exact h.outerFramesRight
  room := by rw [hstack, hstack', hmax, hmax']; exact h.room

/-- Steps that change neither the catalog, nor the arena, nor the frames
keep the detectors in step. -/
theorem Detector.InStep.congr (h : s.InStep ρ n m w) {s₁ w₁ : Detector}
    (hcat : s₁.catalog = s.catalog) (hcat' : w₁.catalog = w.catalog)
    (ha : s₁.arena = s.arena) (ha' : w₁.arena = w.arena)
    (hframes : s₁.frames = s.frames) (hframes' : w₁.frames = w.frames) : s₁.InStep ρ n m w₁ :=
  h.of_arenas hcat hcat' hframes hframes' (by rw [ha]) (by rw [ha']) (by rw [ha]) (by rw [ha'])
    (by rw [ha, ha']; exact h.scopes) (by rw [ha']; exact h.shaped)
    (.of_scopes (by rw [ha]) (by rw [ha']))

/-- Changing matched scopes, each to a scope agreeing with the other and with
the same parent, keeps the detectors in step. -/
theorem Detector.InStep.modify (h : s.InStep ρ n m w) {i j : Nat} (hij : ρ.map i = some j)
    (f f' : Scope → Scope)
    (hf : ∀ {S S'}, s.arena.get? i = some S → w.arena.get? j = some S' →
      ScopeRel ρ s.arena w.arena S S' → ScopeRel ρ s.arena w.arena (f S) (f' S'))
    (hparent : ∀ {S'}, w.arena.get? j = some S' → (f' S').parent = S'.parent) :
    Detector.InStep ρ n m { s with arena := s.arena.modify i f }
      { w with arena := w.arena.modify j f' } :=
  h.of_arenas rfl rfl rfl rfl rfl rfl rfl rfl (ScopesRel.modify h.scopes hij f f' hf)
    (h.shaped.modify hparent) (KeepsFree.modify hij f f')

/-- A step of the first walk alone that opens scopes only to close them again
and changes none that were there keeps the detectors in step. -/
theorem Detector.InStep.of_quiet (h : s.InStep ρ n m w) {s' : Detector}
    (hq : s.Quiet none s') : s'.InStep ρ n m w := by
  obtain ⟨hg, hframes⟩ := hq
  have hget : ∀ {p}, p < s.arena.size → s'.arena.get? p = s.arena.get? p :=
    fun hp => hg.scopes _ hp (by simp)
  have hk : KeepsFree ρ ρ s.arena w.arena s'.arena w.arena :=
    ⟨fun h => h, fun hp hfree => ⟨hfree, hget hp⟩, fun _ hfree => ⟨hfree, rfl⟩⟩
  refine ⟨hg.catalog ▸ h.catalog, ?_, h.shaped, hg.stack ▸ h.stack, hg.stack ▸ h.depth,
    hg.stack ▸ h.outerLeft.transfer hk.left, h.outerRight, hframes ▸ h.frames,
    hframes ▸ h.frameDepth, hframes ▸ h.outerFramesLeft, h.outerFramesRight, ?_⟩
  · intro i j hij
    obtain ⟨S, S', hS, hS', hr⟩ := h.scopes hij
    exact ⟨S, S', (hget (ScopeArena.lt_size_of_get? hS)).trans hS, hS', hr.transfer hk⟩
  · rw [hg.stack, hg.maxDepth]
    exact h.room

end InStep

/-! ### Keeping pace -/

section Sim

variable {α β γ δ : Type}

/-- After a step of both walks from `s` (the first) under `ρ`: the matching
`ρ'` adds scopes the first walk opened, the first detector `s'` is valid, and
it is in step with the second, `w'`, with `n` matched open scopes and `m`
matched frames. -/
structure Stepped (ρ : Renaming) (s : Detector) (n m : Nat) (ρ' : Renaming) (s' w' : Detector) :
    Prop where
  adds : ρ.AddsFrom ρ' s.arena.size
  size : s.arena.size ≤ s'.arena.size
  valid : s'.Valid
  inStep : s'.InStep ρ' n m w'

theorem Stepped.trans {ρ ρ₁ ρ₂ : Renaming} {s s₁ s₂ w₁ w₂ : Detector} {n₁ m₁ n₂ m₂ : Nat}
    (h₁ : Stepped ρ s n₁ m₁ ρ₁ s₁ w₁) (h₂ : Stepped ρ₁ s₁ n₂ m₂ ρ₂ s₂ w₂) :
    Stepped ρ s n₂ m₂ ρ₂ s₂ w₂ :=
  ⟨h₁.adds.trans h₂.adds h₁.size, Nat.le_trans h₁.size h₂.size, h₂.valid, h₂.inStep⟩

/-- A step of the first walk alone that changes nothing the matching sees. -/
theorem Stepped.refl {ρ : Renaming} {s s' w : Detector} {n m : Nat} (hv : s'.Valid)
    (hst : s'.InStep ρ n m w) (hsize : s.arena.size ≤ s'.arena.size) : Stepped ρ s n m ρ s' w :=
  ⟨.refl ρ _, hsize, hv, hst⟩

/-- From detectors `s` and `w` in step under `ρ`, whenever `x` succeeds so
does `y`, both end `Stepped` with `n'` matched open scopes and `m'` matched
frames, and `R` relates the answers. -/
def SimFrom (ρ : Renaming) (s w : Detector) (n' m' : Nat) (x : Detect α) (y : Detect β)
    (R : Renaming → α → β → Detector → Prop) : Prop :=
  ∀ a s', x.run.run s = (.ok a, s') →
    ∃ ρ' b w', y.run.run w = (.ok b, w') ∧ Stepped ρ s n' m' ρ' s' w' ∧ R ρ' a b s'

/-- The step `y` keeps pace with the step `x`, from any valid detector where
`P` holds and any detector in step with it. -/
def Sim (P : Renaming → Detector → Prop) (n m n' m' : Nat) (x : Detect α) (y : Detect β)
    (R : Renaming → α → β → Detector → Prop) : Prop :=
  ∀ ρ s w, s.Valid → P ρ s → s.InStep ρ n m w → SimFrom ρ s w n' m' x y R

variable {P P' : Renaming → Detector → Prop} {n m n' m' n₁ m₁ n₂ m₂ : Nat}
  {R R' : Renaming → α → β → Detector → Prop}

/-- Peeling the first step off both walks; the rest of the walks may use
everything the first step gave. -/
theorem SimFrom.bind {ρ : Renaming} {s w : Detector} {R₂ : Renaming → γ → δ → Detector → Prop}
    {x : Detect α} {y : Detect β} {f : α → Detect γ} {g : β → Detect δ}
    (hx : SimFrom ρ s w n₁ m₁ x y R)
    (hf : ∀ ρ₁ a b s₁ w₁, x.run.run s = (.ok a, s₁) → Stepped ρ s n₁ m₁ ρ₁ s₁ w₁ →
      R ρ₁ a b s₁ → SimFrom ρ₁ s₁ w₁ n₂ m₂ (f a) (g b) R₂) :
    SimFrom ρ s w n₂ m₂ (x >>= f) (y >>= g) R₂ := by
  intro c s₂ h
  obtain ⟨a, s₁, h₁, h₂⟩ := run_bind_ok h
  obtain ⟨ρ₁, b, w₁, hy₁, hs₁, hR₁⟩ := hx a s₁ h₁
  obtain ⟨ρ₂, d, w₂, hy₂, hs₂, hR₂⟩ := hf ρ₁ a b s₁ w₁ h₁ hs₁ hR₁ c s₂ h₂
  exact ⟨ρ₂, d, w₂, by rw [run_bind_of_ok hy₁]; exact hy₂, hs₁.trans hs₂, hR₂⟩

theorem SimFrom.pure {ρ : Renaming} {s w : Detector} (a : α) (b : β) (hv : s.Valid)
    (hst : s.InStep ρ n m w) (h : R ρ a b s) : SimFrom ρ s w n m (Pure.pure a) (Pure.pure b) R := by
  intro a' s' hx
  cases hx
  exact ⟨ρ, b, w, rfl, .refl hv hst (Nat.le_refl _), h⟩

/-- A step that reads the detector first. -/
theorem SimFrom.get_bind {ρ : Renaming} {s w : Detector} {f : Detector → Detect α}
    {g : Detector → Detect β} (h : SimFrom ρ s w n m (f s) (g w) R) :
    SimFrom ρ s w n m (get >>= f) (get >>= g) R := by
  intro a s' hx
  rw [run_bind_of_ok (run_get s)] at hx
  obtain ⟨ρ', b, w', hy, hrest⟩ := h a s' hx
  exact ⟨ρ', b, w', by rw [run_bind_of_ok (run_get w)]; exact hy, hrest⟩

theorem Sim.bind {R₂ : Renaming → γ → δ → Detector → Prop} {x : Detect α} {y : Detect β}
    {f : α → Detect γ} {g : β → Detect δ} (hx : Sim P n m n₁ m₁ x y R)
    (hf : ∀ a b, Sim (fun ρ s => R ρ a b s) n₁ m₁ n₂ m₂ (f a) (g b) R₂) :
    Sim P n m n₂ m₂ (x >>= f) (y >>= g) R₂ :=
  fun ρ s w hv hP hst => (hx ρ s w hv hP hst).bind fun ρ₁ a b s₁ w₁ _ hs₁ hR₁ =>
    hf a b ρ₁ s₁ w₁ hs₁.valid hR₁ hs₁.inStep

theorem Sim.pure (a : α) (b : β) (h : ∀ {ρ s}, P ρ s → R ρ a b s) :
    Sim P n m n m (pure a) (pure b) R :=
  fun _ _ _ hv hP hst => SimFrom.pure a b hv hst (h hP)

theorem Sim.mono {x : Detect α} {y : Detect β} (h : Sim P n m n' m' x y R)
    (hP : ∀ {ρ s}, P' ρ s → P ρ s) (hR : ∀ {ρ a b s}, R ρ a b s → R' ρ a b s) :
    Sim P' n m n' m' x y R' := by
  intro ρ s w hv hP' hst a s' hx
  obtain ⟨ρ', b, w', hy, hs, hR₀⟩ := h ρ s w hv (hP hP') hst a s' hx
  exact ⟨ρ', b, w', hy, hs, hR hR₀⟩

/-- A fact about the matching alone that more matched scopes keep true holds
after the step too. -/
theorem Sim.frame {x : Detect α} {y : Detect β} {Q : Renaming → Prop}
    (h : Sim P n m n' m' x y R) (hQ : ∀ {ρ ρ'}, ρ.Extends ρ' → Q ρ → Q ρ') :
    Sim (fun ρ s => P ρ s ∧ Q ρ) n m n' m' x y (fun ρ a b s => R ρ a b s ∧ Q ρ) := by
  intro ρ s w hv hP hst a s' hx
  obtain ⟨ρ', b, w', hy, hs, hR₀⟩ := h ρ s w hv hP.1 hst a s' hx
  exact ⟨ρ', b, w', hy, hs, hR₀, hQ hs.adds.grows hP.2⟩

/-- What the first walk's step guarantees on its own holds after the step
too. -/
theorem Sim.withKeeps {x : Detect α} {y : Detect β} {pre : Detector → Prop}
    {Rel : Detector → Detector → Prop} {post : α → Detector → Prop}
    (h : Sim P n m n' m' x y R) (hk : Keeps pre Rel post x) (hpre : ∀ {ρ s}, P ρ s → pre s) :
    Sim P n m n' m' x y (fun ρ a b s => R ρ a b s ∧ post a s) := by
  intro ρ s w hv hP hst a s' hx
  obtain ⟨ρ', b, w', hy, hs, hR₀⟩ := h ρ s w hv hP hst a s' hx
  exact ⟨ρ', b, w', hy, hs, hR₀, (hk s a s' hv (hpre hP) hx).2.2⟩

/-- A step of the first walk that the second one skips: it opens scopes
only to close them again and changes none that were there. -/
theorem Sim.leftQuiet {x : Detect α} {pre : Detector → Prop} {post : α → Detector → Prop}
    (hk : Keeps pre (Detector.Quiet none) post x) (hpre : ∀ {ρ s}, P ρ s → pre s) (b : β) :
    Sim P n m n m x (Pure.pure b) (fun _ _ _ _ => True) := by
  intro ρ s w hv hP hst a s' hx
  obtain ⟨hv', hq, -⟩ := hk s a s' hv (hpre hP) hx
  exact ⟨ρ, b, w, rfl, .refl hv' (hst.of_quiet hq) hq.1.size, trivial⟩

/-- Handlers that only pass a failure on change nothing of a step that
succeeds. -/
theorem Sim.tryCatch {x : Detect α} {y : Detect β} {hx : LineageError → Detect α}
    {hy : LineageError → Detect β} (h : Sim P n m n' m' x y R)
    (hfail : ∀ e t, ∃ e' t', (hx e).run.run t = (.error e', t')) :
    Sim P n m n' m' (tryCatch x hx) (tryCatch y hy) R := by
  intro ρ s w hv hP hst a s' hr
  obtain ⟨ρ', b, w', hy', hs, hR⟩ := h ρ s w hv hP hst a s' (run_tryCatch_ok hfail hr)
  exact ⟨ρ', b, w', by rw [run_tryCatch, hy'], hs, hR⟩

theorem Sim.throw {y : Detect β} (e : LineageError) : Sim P n m n' m' (throw e : Detect α) y R := by
  intro ρ s w _ _ _ a s' hx
  cases hx

end Sim

/-! ### The primitive steps keep pace with themselves -/

section Primitives

variable {ρ : Renaming} {n m : Nat} {s w : Detector}

/-- Opening a scope on each side, of kinds that see the scope around them
alike when that scope is matched: the two new scopes are matched. -/
theorem sim_enter {κ κ' : ScopeKind} (α α' : Option String)
    (hκ : κ'.seesEnclosing = κ.seesEnclosing ∨ n = 0) :
    Sim (fun _ _ => True) n m (n + 1) m (enter κ α) (enter κ' α')
      (fun ρ id id' _ => ρ.map id = some id') := by
  intro ρ s w hv _ hst id s' h
  have hroom : ¬ w.arena.stack.length ≥ w.arena.maxDepth := by
    have hlt : ¬ s.arena.stack.length ≥ s.arena.maxDepth := by
      intro hge
      rw [run_enter, if_pos hge] at h
      cases h
    have := hst.room
    omega
  obtain ⟨rfl, rfl⟩ := enter_ok h
  have hi : ρ.map s.arena.size = none := by
    rcases hm : ρ.map s.arena.size with _ | j
    · rfl
    · obtain ⟨S, -, hS, -⟩ := hst.scopes hm
      exact absurd (ScopeArena.lt_size_of_get? hS) (Nat.lt_irrefl _)
  have hj : ∀ i, ρ.map i ≠ some w.arena.size := fun i hm => by
    obtain ⟨-, S', -, hS', -⟩ := hst.scopes hm
    exact Nat.lt_irrefl _ (ScopeArena.lt_size_of_get? hS')
  have hk := KeepsFree.push (s.arena.opened κ α) (w.arena.opened κ' α') hi hj
  have hgrows : ρ.Extends (ρ.extend s.arena.size w.arena.size hj) := Renaming.extend_extends hj hi
  have hnew : ScopeRel (ρ.extend s.arena.size w.arena.size hj) (s.arena.push (s.arena.opened κ α))
      (w.arena.push (w.arena.opened κ' α')) (s.arena.opened κ α) (w.arena.opened κ' α') := by
    refine ⟨.nil, .nil, rfl, ?_⟩
    -- the parents: the innermost matched scopes, or the heads of blind chains
    cases n with
    | zero =>
      exact .inr ⟨fun _ => hst.outerLeft.transfer hk.left,
        fun _ => hst.outerRight.transfer hk.right⟩
    | succ k =>
      refine .inl ⟨hκ.resolve_right (Nat.succ_ne_zero k), ?_⟩
      have hh := Forall₂.head?_take hst.stack
      show Option.Rel _ s.arena.stack.head? w.arena.stack.head?
      generalize s.arena.stack.head? = c at hh ⊢
      generalize w.arena.stack.head? = c' at hh ⊢
      cases hh with
      | none => exact .none
      | some hc => exact .some (hgrows hc)
  refine ⟨ρ.extend s.arena.size w.arena.size hj, w.arena.size,
    { w with arena := w.arena.push (w.arena.opened κ' α') }, ?_, ⟨⟨hgrows, fun {i _} h h₀ => ?_⟩,
    by simp, hv.push κ α, ⟨hst.catalog, ScopesRel.push hst.scopes hi hj hnew,
      hst.shaped.push κ' α', ?_, by simpa using hst.depth, ?_, ?_,
      hst.frames.imp fun _ _ h => h.mono hgrows, hst.frameDepth, hst.outerFramesLeft,
      hst.outerFramesRight, ?_⟩⟩, Renaming.extend_map_self hj⟩
  · rw [run_enter, if_neg hroom]
  · by_cases hi' : i = s.arena.size
    · omega
    · rw [Renaming.extend_map_of_ne hj hi', h₀] at h
      cases h
  · simp only [ScopeArena.stack_push, List.take_succ_cons]
    exact .cons (Renaming.extend_map_self hj) (hst.stack.imp fun _ _ h => hgrows h)
  · simpa using hst.outerLeft.transfer hk.left
  · simpa using hst.outerRight.transfer hk.right
  · have := hst.room
    simp only [ScopeArena.stack_push, List.length_cons, ScopeArena.maxDepth_push]
    omega

/-- Closing the innermost matched scopes on both sides. -/
theorem sim_exit :
    Sim (fun _ _ => True) (n + 1) m n m exit exit (fun ρ id id' _ => ρ.map id = some id') := by
  intro ρ s w hv _ hst id s' h
  have hd := hst.depth
  have hd' := hst.depth_right
  have hs := hst.stack
  rcases hsk : s.arena.stack with _ | ⟨i, rest⟩
  · simp [hsk] at hd
  rcases hwk : w.arena.stack with _ | ⟨j, rest'⟩
  · simp [hwk] at hd'
  rw [hsk, hwk, List.take_succ_cons, List.take_succ_cons] at hs
  obtain ⟨hij, hrest⟩ := List.forall₂_cons.mp hs
  rw [run_exit, hsk] at h
  cases h
  have hk : KeepsFree ρ ρ s.arena w.arena { s.arena with stack := rest }
      { w.arena with stack := rest' } := .of_scopes rfl rfl
  refine ⟨ρ, j, { w with arena := { w.arena with stack := rest' } }, by rw [run_exit, hwk],
    ⟨.refl ρ _, Nat.le_refl _, hv.pop hsk, ⟨hst.catalog, ScopesRel.of_scopes hst.scopes rfl rfl,
      hst.shaped.pop hwk, hrest, by simpa [hsk] using hd, ?_, ?_, hst.frames, hst.frameDepth,
      hst.outerFramesLeft, hst.outerFramesRight, ?_⟩⟩, hij⟩
  · have h₀ := hst.outerLeft.transfer hk.left
    simpa [hsk] using h₀
  · have h₀ := hst.outerRight.transfer hk.right
    simpa [hwk] using h₀
  · have hroom := hst.room
    simp only [hsk, hwk, List.length_cons] at hroom
    show rest'.length + s.arena.maxDepth ≤ rest.length + w.arena.maxDepth
    omega

theorem sim_pushFrame :
    Sim (fun _ _ => True) n m n (m + 1) pushFrame pushFrame (fun _ _ _ _ => True) := by
  intro ρ s w hv _ hst u s' h
  rw [run_pushFrame] at h
  cases h
  refine ⟨ρ, (), { w with frames := [] :: w.frames }, run_pushFrame w, .refl hv.pushFrame
    ⟨hst.catalog, hst.scopes, hst.shaped, hst.stack, hst.depth, hst.outerLeft,
      hst.outerRight, ?_, by simpa using hst.frameDepth, by simpa using hst.outerFramesLeft,
      by simpa using hst.outerFramesRight, hst.room⟩ (Nat.le_refl _), trivial⟩
  simp only [List.take_succ_cons]
  exact .cons .nil hst.frames

theorem sim_popFrame :
    Sim (fun _ _ => True) n (m + 1) n m popFrame popFrame (fun _ _ _ _ => True) := by
  intro ρ s w hv _ hst u s' h
  rw [run_popFrame] at h
  cases h
  obtain ⟨f, fs, hs⟩ : ∃ f fs, s.frames = f :: fs :=
    List.exists_cons_of_length_pos (by have := hst.frameDepth; omega)
  obtain ⟨f', fs', hw⟩ : ∃ f' fs', w.frames = f' :: fs' :=
    List.exists_cons_of_length_pos (by have := hst.frameDepth_right; omega)
  have hf := hst.frames
  rw [hs, hw, List.take_succ_cons, List.take_succ_cons] at hf
  have hd := hst.frameDepth
  have hl := hst.outerFramesLeft
  have hr := hst.outerFramesRight
  rw [hs, List.length_cons] at hd
  rw [hs, List.drop_succ_cons] at hl
  rw [hw, List.drop_succ_cons] at hr
  refine ⟨ρ, (), { w with frames := w.frames.drop 1 }, run_popFrame w, .refl hv.popFrame
    ⟨hst.catalog, hst.scopes, hst.shaped, hst.stack, hst.depth, hst.outerLeft,
      hst.outerRight, ?_, ?_, ?_, ?_, hst.room⟩ (Nat.le_refl _), trivial⟩
  · simpa [hs, hw] using (List.forall₂_cons.mp hf).2
  · simpa [hs] using hd
  · simpa [hs] using hl
  · simpa [hw] using hr

/-- Adding matched WITH names to the innermost matched frames. -/
theorem sim_addCte (name : String) {id id' : Nat} :
    Sim (fun ρ s => ρ.map id = some id' ∧ s.arena.Done id) n (m + 1) n (m + 1)
      (addCte name id) (addCte name id') (fun _ _ _ _ => True) := by
  intro ρ s w hv hP hst u s' h
  obtain ⟨hv', -, -⟩ := keeps_addCte name id s u s' hv hP.2 h
  obtain ⟨f, fs, hs⟩ : ∃ f fs, s.frames = f :: fs :=
    List.exists_cons_of_length_pos (by have := hst.frameDepth; omega)
  obtain ⟨f', fs', hw⟩ : ∃ f' fs', w.frames = f' :: fs' :=
    List.exists_cons_of_length_pos (by have := hst.frameDepth_right; omega)
  rw [run_addCte, hs] at h
  cases h
  have hf := hst.frames
  rw [hs, hw, List.take_succ_cons, List.take_succ_cons] at hf
  obtain ⟨hff, hfs⟩ := List.forall₂_cons.mp hf
  have hd := hst.frameDepth
  have hl := hst.outerFramesLeft
  have hr := hst.outerFramesRight
  rw [hs, List.length_cons] at hd
  rw [hs, List.drop_succ_cons] at hl
  rw [hw, List.drop_succ_cons] at hr
  refine ⟨ρ, (), { w with frames := ((name, id') :: f') :: fs' }, by rw [run_addCte, hw],
    .refl hv' ⟨hst.catalog, hst.scopes, hst.shaped, hst.stack, hst.depth,
      hst.outerLeft, hst.outerRight, ?_, by simpa using hd, by simpa using hl,
      by simpa using hr, hst.room⟩ (Nat.le_refl _), trivial⟩
  simp only [List.take_succ_cons]
  exact .cons (.cons ⟨rfl, hP.1⟩ hff) hfs

/-- A WITH name is looked up in agreeing frames. -/
theorem FrameRel.lookup {f f' : List (String × Nat)} (h : FrameRel ρ f f') (name : String) :
    Option.Rel (fun k k' => ρ.map k = some k') (f.lookup name) (f'.lookup name) := by
  induction h with
  | nil => exact .none
  | @cons e e' _ _ he _ ih =>
    obtain ⟨k, v⟩ := e
    obtain ⟨k', v'⟩ := e'
    obtain ⟨hk, hv⟩ := he
    dsimp only at hk hv
    subst hk
    simp only [List.lookup_cons]
    split
    · exact .some hv
    · exact ih

theorem Forall₂.findSome?_lookup {fs fs' : List (List (String × Nat))}
    (h : List.Forall₂ (FrameRel ρ) fs fs') (name : String) :
    Option.Rel (fun k k' => ρ.map k = some k') (fs.findSome? fun f => f.lookup name)
      (fs'.findSome? fun f => f.lookup name) := by
  induction h with
  | nil => exact .none
  | @cons f f' _ _ hf _ ih =>
    have hl := hf.lookup name
    rw [List.findSome?_cons, List.findSome?_cons]
    generalize f.lookup name = o at hl ⊢
    generalize f'.lookup name = o' at hl ⊢
    cases hl with
    | none => exact ih
    | some h => exact .some h

/-- A WITH name in reach on one side is in reach on the other, for the
matched scope. -/
theorem Detector.InStep.findSome?_lookup (h : s.InStep ρ n m w) (name : String) :
    Option.Rel (fun k k' => ρ.map k = some k') (s.frames.findSome? fun f => f.lookup name)
      (w.frames.findSome? fun f => f.lookup name) := by
  have hnone : ∀ {fs : List (List (String × Nat))}, (∀ f ∈ fs, f = []) →
      (fs.findSome? fun f => f.lookup name) = none := fun hfs =>
    List.findSome?_eq_none_iff.mpr fun f hf => by rw [hfs f hf]; rfl
  rw [← List.take_append_drop m s.frames, ← List.take_append_drop m w.frames,
    List.findSome?_append, List.findSome?_append, hnone h.outerFramesLeft,
    hnone h.outerFramesRight, Option.or_none, Option.or_none]
  exact Forall₂.findSome?_lookup h.frames name

theorem sim_lookupCte (t : TableName) :
    Sim (fun _ _ => True) n m n m (lookupCte t) (lookupCte t)
      (fun ρ r r' s => Option.Rel (fun k k' => ρ.map k = some k') r r' ∧
        ∀ {k}, r = some k → s.arena.Done k) := by
  intro ρ s w hv _ hst r s' h
  obtain ⟨rfl, hdone⟩ := hv.lookupCte h
  rw [run_lookupCte] at h
  obtain ⟨h, -⟩ := Prod.mk.inj h
  cases h
  refine ⟨ρ, _, w, run_lookupCte t w, .refl hv hst (Nat.le_refl _), ?_, hdone⟩
  split
  · exact .none
  · exact hst.findSome?_lookup t.name

/-- Changing matched scopes, the second change agreeing with the first, where
the first keeps the walk's invariant. -/
theorem sim_modifyScope {id id' : Nat} {f f' : Scope → Scope} {Q : Renaming → Detector → Prop}
    (hf : ∀ {ρ s A' S S'}, Q ρ s → ScopeRel ρ s.arena A' S S' →
      ScopeRel ρ s.arena A' (f S) (f' S'))
    (hparent : ∀ S, (f S).parent = S.parent) (hparent' : ∀ S, (f' S).parent = S.parent)
    (hreads : ∀ {ρ s S k}, Q ρ s → Field.ListReadsScope (f S).fields k →
      Field.ListReadsScope S.fields k ∨ s.arena.Done k)
    (htargets : ∀ {ρ s S b k}, Q ρ s → b ∈ (f S).bindings → b.target = .scope k →
      b ∈ S.bindings ∨ s.arena.Done k) :
    Sim (fun ρ s => ρ.map id = some id' ∧ Q ρ s) n m n m (modifyScope id f)
      (modifyScope id' f') (fun _ _ _ _ => True) := by
  intro ρ s w hv hP hst u s' h
  obtain ⟨hv', -⟩ := hv.modifyScope h (fun _ => hparent _) (fun _ hk => hreads hP.2 hk)
    (fun _ hb hk => htargets hP.2 hb hk)
  obtain ⟨S, S', hS, hS', -⟩ := hst.scopes hP.1
  simp only [run_modifyScope, hS, Option.isNone_some, Bool.false_eq_true, if_false] at h
  cases h
  refine ⟨ρ, (), { w with arena := w.arena.modify id' f' }, ?_, .refl hv'
    (hst.modify hP.1 f f' (fun _ _ hr => hf hP.2 hr) (fun _ => hparent' _)) (by simp), trivial⟩
  simp only [run_modifyScope, hS', Option.isNone_some, Bool.false_eq_true, if_false]

/-- Setting the outputs of matched scopes to agreeing fields whose reads are
done. -/
theorem sim_setFields {id id' : Nat} {fs fs' : List Field} :
    Sim (fun ρ s => ρ.map id = some id' ∧ (List.Forall₂ (FieldRel ρ) fs fs' ∧ s.ReadsDone fs))
      n m n m (modifyScope id fun S => { S with fields := fs })
      (modifyScope id' fun S => { S with fields := fs' }) (fun _ _ _ _ => True) :=
  sim_modifyScope (Q := fun ρ s => List.Forall₂ (FieldRel ρ) fs fs' ∧ s.ReadsDone fs)
    (fun hQ hr => ⟨hQ.1, hr.bindings, hr.usingColumns, hr.parent⟩) (fun _ => rfl) (fun _ => rfl)
    (fun hQ hk => .inr (hQ.2 _ hk)) (fun _ hb _ => .inl hb)

/-- Completing a set operation on both sides: agreeing outputs, and bindings
to the matched operands. -/
theorem sim_setOperands {id id' l l' r r' : Nat} {outs outs' : List Field} :
    Sim (fun ρ s => ρ.map id = some id' ∧ (ρ.map l = some l' ∧ ρ.map r = some r' ∧
        List.Forall₂ (FieldRel ρ) outs outs' ∧ s.ReadsDone outs ∧ s.arena.Done l ∧
        s.arena.Done r)) n m n m
      (modifyScope id fun S => { S with fields := outs, bindings := S.bindings ++
        [{ aliasName := none, target := .scope l }, { aliasName := none, target := .scope r }] })
      (modifyScope id' fun S => { S with fields := outs', bindings := S.bindings ++
        [{ aliasName := none, target := .scope l' }, { aliasName := none, target := .scope r' }] })
      (fun _ _ _ _ => True) := by
  refine sim_modifyScope (fun hQ hr => ⟨hQ.2.2.1, List.rel_append hr.bindings
    (.cons ⟨rfl, hQ.1⟩ (.cons ⟨rfl, hQ.2.1⟩ .nil)), hr.usingColumns, hr.parent⟩)
    (fun _ => rfl) (fun _ => rfl) (fun hQ hk => .inr (hQ.2.2.2.1 _ hk)) ?_
  intro ρ s S b k hQ hb hk
  rcases List.mem_append.mp hb with hb | hb
  · exact .inl hb
  · right
    simp only [List.mem_cons, List.not_mem_nil, or_false] at hb
    rcases hb with rfl | rfl
    · cases hk
      exact hQ.2.2.2.2.1
    · cases hk
      exact hQ.2.2.2.2.2

namespace Bindings

variable {cat : Catalog} {A : ScopeArena} {id : Nat}

theorem finalize_stack : (finalize cat A id).1.stack = A.stack := by
  rw [finalize_arena]
  split <;> rfl

theorem finalize_maxDepth : (finalize cat A id).1.maxDepth = A.maxDepth := by
  rw [finalize_arena]
  split <;> rfl

theorem finalize_get?_of_ne {p : Nat} (h : id ≠ p) : (finalize cat A id).1.get? p = A.get? p := by
  rw [finalize_arena]
  split
  · rfl
  · exact ScopeArena.get?_modify_of_ne _ _ _ h

theorem finalize_shaped (h : A.Shaped) : (finalize cat A id).1.Shaped := by
  rw [finalize_arena]
  split
  · exact h
  · exact h.modify fun _ => rfl

end Bindings

/-- Completing matched scopes. -/
theorem sim_finalize {id id' : Nat} :
    Sim (fun ρ _ => ρ.map id = some id') n m n m (finalize id) (finalize id')
      (fun _ _ _ _ => True) := by
  intro ρ s w hv hP hst u s' h
  obtain ⟨hv', hq', -⟩ := keeps_finalize id s u s' hv trivial h
  rw [run_finalize] at h
  cases h
  have hk : KeepsFree ρ ρ s.arena w.arena (Bindings.finalize s.catalog s.arena id).1
      (Bindings.finalize w.catalog w.arena id').1 :=
    ⟨fun h => h, fun _ hp => ⟨hp, Bindings.finalize_get?_of_ne fun he => by
        simp only [Renaming.FreeLeft, ← he, hP, reduceCtorEq] at hp⟩,
      fun _ hp => ⟨hp, Bindings.finalize_get?_of_ne fun he => hp id (he ▸ hP)⟩⟩
  refine ⟨ρ, (), _, run_finalize id' w, .refl hv'
    (hst.of_arenas rfl rfl rfl rfl Bindings.finalize_stack Bindings.finalize_stack
      Bindings.finalize_maxDepth Bindings.finalize_maxDepth ?_
      (Bindings.finalize_shaped hst.shaped) hk) hq'.1.size, trivial⟩
  rw [hst.catalog]
  exact ScopesRel.finalize s.catalog hst.scopes hv.shaped hst.shaped hP

/-- Binding agreeing targets in the innermost matched scopes. -/
theorem sim_bindTarget (a : Option String) {t t' : BindingTarget} :
    Sim (fun ρ s => TargetRel ρ t t' ∧ ∀ {k}, t = .scope k → s.arena.Done k) (n + 1) m (n + 1) m
      (Detect.bind a t) (Detect.bind a t') (fun _ _ _ _ => True) := by
  intro ρ s w hv hP hst u s' h
  obtain ⟨hv', -⟩ := hv.bind h hP.2
  have hh : Option.Rel (fun i j => ρ.map i = some j) s.arena.current w.arena.current :=
    Forall₂.head?_take hst.stack
  rw [Detect.run_bind] at h
  generalize hc : s.arena.current = c at hh h
  generalize hc' : w.arena.current = c' at hh
  cases hh with
  | none => cases h
  | some hij =>
    cases h
    refine ⟨ρ, (), _, by rw [Detect.run_bind, hc'], .refl hv'
      (hst.modify hij (fun c => { c with bindings := c.bindings ++ [{ aliasName := a, target := t }] })
        (fun c => { c with bindings := c.bindings ++ [{ aliasName := a, target := t' }] })
        (fun _ _ hr => ⟨hr.fields, List.rel_append hr.bindings (.cons ⟨rfl, hP.1⟩ .nil),
          hr.usingColumns, hr.parent⟩) (fun _ => rfl)) (by simp), trivial⟩

/-- Recording the columns of `JOIN ... USING` in the innermost matched scopes. -/
theorem sim_addUsing (columns : List Sql.ObjectName) :
    Sim (fun _ _ => True) (n + 1) m (n + 1) m (addUsing columns) (addUsing columns)
      (fun _ _ _ _ => True) := by
  intro ρ s w hv _ hst u s' h
  obtain ⟨hv', -⟩ := hv.addUsing h
  have hh : Option.Rel (fun i j => ρ.map i = some j) s.arena.current w.arena.current :=
    Forall₂.head?_take hst.stack
  rw [run_addUsing] at h
  generalize hc : s.arena.current = c at hh h
  generalize hc' : w.arena.current = c' at hh
  cases hh with
  | none => cases h
  | some hij =>
    cases h
    refine ⟨ρ, (), _, by rw [run_addUsing, hc'], .refl hv'
      (hst.modify hij
        (fun c => { c with usingColumns := usingColumnsAfter columns c.bindings.length c.usingColumns })
        (fun c => { c with usingColumns := usingColumnsAfter columns c.bindings.length c.usingColumns })
        (fun _ _ hr => ⟨hr.fields, hr.bindings, ?_, hr.parent⟩) (fun _ => rfl)) (by simp), trivial⟩
    dsimp only
    rw [hr.usingColumns, hr.bindings.length_eq]

/-- Expanding a wildcard in the innermost matched scopes gives agreeing
fields. -/
theorem sim_expandWildcard (q : Option TableName) :
    Sim (fun _ _ => True) (n + 1) m (n + 1) m (expandWildcard q) (expandWildcard q)
      (fun ρ fs fs' s => List.Forall₂ (FieldRel ρ) fs fs' ∧ s.ReadsDone fs) := by
  intro ρ s w hv _ hst fs s' h
  obtain ⟨hv', -, hreads⟩ := hv.expandWildcard h
  have hh : Option.Rel (fun i j => ρ.map i = some j) s.arena.current w.arena.current :=
    Forall₂.head?_take hst.stack
  rw [run_expandWildcard] at h
  generalize hc : s.arena.current = c at hh h
  generalize hc' : w.arena.current = c' at hh
  cases hh with
  | none => cases h
  | some hij =>
    rename_i i j
    obtain ⟨S, S', hS, hS', hr⟩ := hst.scopes hij
    simp only [Option.bind_some, hS] at h
    cases h
    have hy := run_expandWildcard q w
    rw [hc', Option.bind_some, hS'] at hy
    refine ⟨ρ, _, _, hy, .refl hv' (hst.congr rfl rfl rfl rfl rfl rfl) (Nat.le_refl _), ?_,
      hreads⟩
    rw [hst.catalog]
    exact (wildcardFields_rel s.catalog hst.scopes hr.bindings q).1

theorem sim_log (e e' : Log.Event) :
    Sim (fun _ _ => True) n m n m (log e) (log e') (fun _ _ _ _ => True) := by
  intro ρ s w hv _ hst u s' h
  obtain ⟨hv', -, -⟩ := keeps_log e s u s' hv trivial h
  rw [run_log] at h
  cases h
  exact ⟨ρ, (), _, run_log e' w, .refl hv' (hst.congr rfl rfl rfl rfl rfl rfl) (Nat.le_refl _),
    trivial⟩

end Primitives

end ColumnLineage
