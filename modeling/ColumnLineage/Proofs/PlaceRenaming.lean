import ColumnLineage.Proofs.WalkFrame
/-
ColumnLineage/Proofs/PlaceRenaming.lean

Placing columns in two arenas whose scopes agree under a renaming. Two
matched scopes agree (`ScopeRel`) when their outputs and bindings agree, they
share their USING columns, and a lookup that leaves them either goes on to
matched parents or finds nothing on either side. The second case is that of a
query walked at the top of one statement and inside a FROM clause or a set
operation of another: its scope has a parent only in the second arena, and
that parent is either not seen or binds nothing and leads nowhere (`Blind`).

On such arenas every step of placing agrees: a binding may hold a column on
one side exactly when its match may on the other (`provides_rel`), a column is
placed in matched scopes (`resolve_rel`), and completing matched scopes leaves
the arenas agreeing (`ScopesRel.finalize`). So do the expansion of a wildcard
and the outputs of a set operation.
-/

namespace ColumnLineage

/-- Scope `p` of the first arena is left out of the matching. -/
def Renaming.FreeLeft (ρ : Renaming) (p : Nat) : Prop := ρ.map p = none

/-- No scope is matched with scope `p` of the second arena. -/
def Renaming.FreeRight (ρ : Renaming) (p : Nat) : Prop := ∀ i, ρ.map i ≠ some p

/-- A chain of enclosing scopes in which no column is placed: each scope on
it satisfies `free`, binds nothing, and, when it sees the scope around it,
passes a lookup on to a chain of the same kind. -/
inductive Blind (A : ScopeArena) (free : Nat → Prop) : Option Nat → Prop
  | none : Blind A free none
  | scope {p : Nat} {S : Scope} : A.get? p = some S → free p → S.bindings = [] →
      (S.kind.seesEnclosing → Blind A free S.parent) → Blind A free (some p)

section Relations

variable (ρ : Renaming)

/-- Two scopes agree under `ρ`: agreeing outputs and bindings, the same USING
columns, and either matched parents seen alike, or parents through which
neither scope can place anything. -/
structure ScopeRel (A A' : ScopeArena) (S S' : Scope) : Prop where
  fields : List.Forall₂ (FieldRel ρ) S.fields S'.fields
  bindings : List.Forall₂ (BindingRel ρ) S.bindings S'.bindings
  usingColumns : S'.usingColumns = S.usingColumns
  parent : (S'.kind.seesEnclosing = S.kind.seesEnclosing ∧
      Option.Rel (fun p p' => ρ.map p = some p') S.parent S'.parent) ∨
    ((S.kind.seesEnclosing → Blind A ρ.FreeLeft S.parent) ∧
      (S'.kind.seesEnclosing → Blind A' ρ.FreeRight S'.parent))

/-- Every pair of matched ids names two scopes, and they agree. -/
def ScopesRel (A A' : ScopeArena) : Prop :=
  ∀ ⦃i j : Nat⦄, ρ.map i = some j →
    ∃ S S', A.get? i = some S ∧ A'.get? j = some S' ∧ ScopeRel ρ A A' S S'

/-- Going from `ρ` and the arenas `A`, `A'` to `ρ₁` and `A₁`, `A₁'`, every
scope left out of the matching stays out of it and stays as it was. -/
structure KeepsFree (ρ₁ : Renaming) (A A' A₁ A₁' : ScopeArena) : Prop where
  grows : ρ.Extends ρ₁
  left : ∀ {p}, p < A.size → ρ.FreeLeft p → ρ₁.FreeLeft p ∧ A₁.get? p = A.get? p
  right : ∀ {p}, p < A'.size → ρ.FreeRight p → ρ₁.FreeRight p ∧ A₁'.get? p = A'.get? p

end Relations

variable {ρ ρ₁ : Renaming} {A A' A₁ A₁' : ScopeArena}

/-! ### Carrying agreement along -/

theorem TargetRel.mono (hρ : ρ.Extends ρ₁) {t t' : BindingTarget} (h : TargetRel ρ t t') :
    TargetRel ρ₁ t t' := by
  cases t <;> cases t' <;> simp only [TargetRel] at h ⊢
  all_goals first | exact h | exact hρ h

theorem BindingRel.mono (hρ : ρ.Extends ρ₁) {b b' : Binding} (h : BindingRel ρ b b') :
    BindingRel ρ₁ b b' :=
  ⟨h.1, h.2.mono hρ⟩

theorem TargetRel.origin {t t' : BindingTarget} (h : TargetRel ρ t t') :
    OriginRel ρ t.origin t'.origin := by
  cases t <;> cases t' <;> simp_all [TargetRel, BindingTarget.origin, OriginRel]

theorem Blind.transfer {free free₁ : Nat → Prop}
    (h : ∀ {p}, p < A.size → free p → free₁ p ∧ A₁.get? p = A.get? p) {c : Option Nat}
    (hc : Blind A free c) : Blind A₁ free₁ c := by
  induction hc with
  | none => exact .none
  | scope hS hp hb _ ih =>
    obtain ⟨hp₁, hA⟩ := h (ScopeArena.lt_size_of_get? hS) hp
    exact .scope (hA.trans hS) hp₁ hb ih

theorem ScopeRel.transfer (hk : KeepsFree ρ ρ₁ A A' A₁ A₁') {S S' : Scope}
    (h : ScopeRel ρ A A' S S') : ScopeRel ρ₁ A₁ A₁' S S' where
  fields := h.fields.imp fun _ _ hf => hf.mono hk.grows
  bindings := h.bindings.imp fun _ _ hb => hb.mono hk.grows
  usingColumns := h.usingColumns
  parent := by
    rcases h.parent with ⟨hs, hp⟩ | ⟨hl, hr⟩
    · refine .inl ⟨hs, ?_⟩
      generalize S.parent = c at hp ⊢
      generalize S'.parent = c' at hp ⊢
      cases hp with
      | none => exact .none
      | some hp => exact .some (hk.grows hp)
    · exact .inr ⟨fun hs => (hl hs).transfer hk.left, fun hs => (hr hs).transfer hk.right⟩

/-- Steps that leave the scopes themselves as they were, changing only the
stack of open ones, keep every scope left out of the matching. -/
theorem KeepsFree.of_scopes (hA : A₁.scopes = A.scopes) (hA' : A₁'.scopes = A'.scopes) :
    KeepsFree ρ ρ A A' A₁ A₁' where
  grows := fun h => h
  left {p} _ hp := ⟨hp, by simp only [ScopeArena.get?, hA]⟩
  right {p} _ hp := ⟨hp, by simp only [ScopeArena.get?, hA']⟩

/-- Changing matched scopes keeps every scope left out of the matching. -/
theorem KeepsFree.modify {i j : Nat} (hij : ρ.map i = some j) (f f' : Scope → Scope) :
    KeepsFree ρ ρ A A' (A.modify i f) (A'.modify j f') where
  grows := fun h => h
  left {p} _ hp := ⟨hp, ScopeArena.get?_modify_of_ne _ _ _ fun h => by
    simp only [Renaming.FreeLeft, ← h, hij, reduceCtorEq] at hp⟩
  right {p} _ hp := ⟨hp, ScopeArena.get?_modify_of_ne _ _ _ fun h => hp i (h ▸ hij)⟩

/-- Changing matched scopes, each to a scope that agrees with the other, keeps
the arenas agreeing. -/
theorem ScopesRel.modify (h : ScopesRel ρ A A') {i j : Nat} (hij : ρ.map i = some j)
    (f f' : Scope → Scope)
    (hf : ∀ {S S'}, A.get? i = some S → A'.get? j = some S' → ScopeRel ρ A A' S S' →
      ScopeRel ρ A A' (f S) (f' S')) :
    ScopesRel ρ (A.modify i f) (A'.modify j f') := by
  have hk : KeepsFree ρ ρ A A' (A.modify i f) (A'.modify j f') := KeepsFree.modify hij f f'
  intro k l hkl
  obtain ⟨S, S', hS, hS', hr⟩ := h hkl
  by_cases hki : i = k
  · subst hki
    obtain rfl : l = j := Option.some.inj (hkl.symm.trans hij)
    exact ⟨f S, f' S', by simp [hS], by simp [hS'], (hf hS hS' hr).transfer hk⟩
  · have hlj : j ≠ l := fun hl => hki (ρ.injective hij (hl ▸ hkl))
    exact ⟨S, S', by rw [ScopeArena.get?_modify_of_ne _ _ _ hki, hS],
      by rw [ScopeArena.get?_modify_of_ne _ _ _ hlj, hS'], hr.transfer hk⟩

theorem Renaming.extend_map_of_ne {i j k : Nat} (hj : ∀ i', ρ.map i' ≠ some j) (hk : k ≠ i) :
    (ρ.extend i j hj).map k = ρ.map k := by
  simp [Renaming.extend, hk]

theorem ScopesRel.of_scopes (h : ScopesRel ρ A A') (hA : A₁.scopes = A.scopes)
    (hA' : A₁'.scopes = A'.scopes) : ScopesRel ρ A₁ A₁' := by
  intro i j hij
  obtain ⟨S, S', hS, hS', hr⟩ := h hij
  exact ⟨S, S', by simp only [ScopeArena.get?, hA] at hS ⊢; exact hS,
    by simp only [ScopeArena.get?, hA'] at hS' ⊢; exact hS', hr.transfer (.of_scopes hA hA')⟩

/-- Opening a scope on each side and matching the two keeps every scope left
out of the matching. -/
theorem KeepsFree.push (S S' : Scope) (hi : ρ.map A.size = none)
    (hj : ∀ i, ρ.map i ≠ some A'.size) :
    KeepsFree ρ (ρ.extend A.size A'.size hj) A A' (A.push S) (A'.push S') where
  grows := Renaming.extend_extends hj hi
  left {p} hp hfree := ⟨by
    simp only [Renaming.FreeLeft, Renaming.extend_map_of_ne hj (Nat.ne_of_lt hp)]
    exact hfree, ScopeArena.get?_push_of_lt hp⟩
  right {p} hp hfree := ⟨fun i h => by
    by_cases hi' : i = A.size
    · subst hi'
      simp only [Renaming.extend_map_self, Option.some.injEq] at h
      omega
    · rw [Renaming.extend_map_of_ne hj hi'] at h
      exact hfree i h, ScopeArena.get?_push_of_lt hp⟩

/-- Opening two agreeing scopes and matching them keeps the arenas agreeing. -/
theorem ScopesRel.push (h : ScopesRel ρ A A') {S S' : Scope} (hi : ρ.map A.size = none)
    (hj : ∀ i, ρ.map i ≠ some A'.size)
    (hnew : ScopeRel (ρ.extend A.size A'.size hj) (A.push S) (A'.push S') S S') :
    ScopesRel (ρ.extend A.size A'.size hj) (A.push S) (A'.push S') := by
  have hk := KeepsFree.push S S' hi hj
  intro k l hkl
  by_cases hki : k = A.size
  · subst hki
    rw [Renaming.extend_map_self] at hkl
    cases hkl
    exact ⟨S, S', ScopeArena.get?_push_self, ScopeArena.get?_push_self, hnew⟩
  · rw [Renaming.extend_map_of_ne hj hki] at hkl
    obtain ⟨S₀, S₀', hS₀, hS₀', hr⟩ := h hkl
    exact ⟨S₀, S₀', by rw [ScopeArena.get?_push_of_lt (ScopeArena.lt_size_of_get? hS₀), hS₀],
      by rw [ScopeArena.get?_push_of_lt (ScopeArena.lt_size_of_get? hS₀'), hS₀'], hr.transfer hk⟩

/-! ### Looking a column up -/

variable (cat : Catalog)

/-- Agreeing lists give agreeing first elements for two tests that answer
alike on agreeing elements. -/
theorem Forall₂.find?_rel {α β : Type} {R : α → β → Prop} {p : α → Bool} {q : β → Bool}
    {l : List α} {l' : List β} (h : List.Forall₂ R l l') (hpq : ∀ {a b}, R a b → q b = p a) :
    Option.Rel R (l.find? p) (l'.find? q) := by
  induction h with
  | nil => exact .none
  | @cons a b _ _ hab _ ih =>
    by_cases hp : p a = true
    · rw [List.find?_cons_of_pos hp, List.find?_cons_of_pos (by rw [hpq hab]; exact hp)]
      exact .some hab
    · rw [List.find?_cons_of_neg hp, List.find?_cons_of_neg (by rw [hpq hab]; exact hp)]
      exact ih

theorem Forall₂.any_eq {α β : Type} {R : α → β → Prop} {p : α → Bool} {q : β → Bool}
    {l : List α} {l' : List β} (h : List.Forall₂ R l l') (hpq : ∀ {a b}, R a b → q b = p a) :
    l'.any q = l.any p := by
  induction h with
  | nil => rfl
  | cons hab _ ih => simp only [List.any_cons, hpq hab, ih]

/-- A binding may hold a column exactly when an agreeing binding may. -/
theorem provides_rel (hA : ScopesRel ρ A A') {b b' : Binding} (hb : BindingRel ρ b b')
    (column : String) :
    Bindings.provides cat A' b' column = Bindings.provides cat A b column := by
  obtain ⟨-, ht⟩ := hb
  rcases b with ⟨al, t⟩
  rcases b' with ⟨al', t'⟩
  cases t <;> cases t' <;> simp only [TargetRel, reduceCtorEq] at ht
  case table.table => cases ht; rfl
  case scope.scope i j =>
    obtain ⟨S, S', hS, hS', hr⟩ := hA ht
    simp only [Bindings.provides, hS, hS',
      Forall₂.any_eq hr.fields (p := (·.name == column)) (q := (·.name == column))
        fun hf => by rw [hf.name_eq],
      Forall₂.any_eq hr.fields (p := Field.isStar) (q := Field.isStar) fun hf => hf.isStar_eq]

theorem findQualified_rel {S S' : Scope}
    (h : List.Forall₂ (BindingRel ρ) S.bindings S'.bindings) (q : TableName) :
    Option.Rel (BindingRel ρ) (Bindings.findQualified S q) (Bindings.findQualified S' q) := by
  unfold Bindings.findQualified
  refine Forall₂.find?_rel h fun {b b'} hb => ?_
  obtain ⟨ha, ht⟩ := hb
  rcases b with ⟨al, t⟩
  rcases b' with ⟨al', t'⟩
  dsimp only at ha ht ⊢
  subst ha
  cases q.database <;> cases t <;> cases t' <;> simp_all [TargetRel]

/-- A scope places a column in agreeing origins when an agreeing scope does,
and leaves it to its parent when the other does. -/
theorem resolveIn_rel (hA : ScopesRel ρ A A') {S S' : Scope}
    (hb : List.Forall₂ (BindingRel ρ) S.bindings S'.bindings) (ref : ColumnRef) :
    Option.Rel (OriginRel ρ) (Bindings.resolveIn cat A S ref)
      (Bindings.resolveIn cat A' S' ref) := by
  unfold Bindings.resolveIn
  rcases ref with ⟨_ | q, column, position, origin⟩
  · dsimp only
    have hf := List.rel_filter (R := BindingRel ρ)
      (p := fun b => Bindings.provides cat A b column != .no)
      (q := fun b => Bindings.provides cat A' b column != .no)
      (fun _ _ hb => by simp only [provides_rel cat hA hb]) hb
    generalize S.bindings.filter (fun b => Bindings.provides cat A b column != .no) = l at hf ⊢
    generalize S'.bindings.filter (fun b => Bindings.provides cat A' b column != .no) = l' at hf ⊢
    rcases hf with _ | ⟨hb₁, _ | ⟨hb₂, _⟩⟩
    · exact .none
    · exact .some hb₁.2.origin
    · exact .some trivial
  · dsimp only
    have hq := findQualified_rel hb q
    generalize Bindings.findQualified S q = o at hq ⊢
    generalize Bindings.findQualified S' q = o' at hq ⊢
    cases hq with
    | none => exact .none
    | some hb => exact .some hb.2.origin

variable {cat} in
theorem resolveIn_eq_none {S : Scope} (hb : S.bindings = []) (ref : ColumnRef) :
    Bindings.resolveIn cat A S ref = none := by
  unfold Bindings.resolveIn Bindings.findQualified
  rw [hb]
  cases ref.qualifier <;> rfl

variable {cat} in
theorem resolve_go_none (ref : ColumnRef) (fuel : Nat) :
    Bindings.resolve.go cat A ref fuel none = .unbound := by
  cases fuel <;> rfl

variable {cat} in
/-- A lookup that reaches a blind chain places nothing. -/
theorem Blind.resolve_go {free : Nat → Prop} {c : Option Nat} (h : Blind A free c)
    (ref : ColumnRef) : ∀ fuel, Bindings.resolve.go cat A ref fuel c = .unbound := by
  induction h with
  | none => exact resolve_go_none ref
  | scope hS _ hb _ ih =>
    intro fuel
    cases fuel with
    | zero => rfl
    | succ fuel =>
      simp only [Bindings.resolve.go, hS, resolveIn_eq_none hb]
      split
      · exact ih ‹_› fuel
      · rfl

/-- The lookup of a column from matched scopes ends in agreeing origins,
whatever fuel each side has, as long as it exceeds the scope's id: parents
have smaller ids on both sides. -/
theorem resolve_go_rel (hA : ScopesRel ρ A A') (hs : A.Shaped) (hs' : A'.Shaped)
    (ref : ColumnRef) :
    ∀ fuel fuel' {i j : Nat}, ρ.map i = some j → i < fuel → j < fuel' →
      OriginRel ρ (Bindings.resolve.go cat A ref fuel (some i))
        (Bindings.resolve.go cat A' ref fuel' (some j))
  | 0, _, _, _, _, hi, _ => absurd hi (Nat.not_lt_zero _)
  | _ + 1, 0, _, _, _, _, hj => absurd hj (Nat.not_lt_zero _)
  | fuel + 1, fuel' + 1, i, j, hij, hi, hj => by
    obtain ⟨S, S', hS, hS', hr⟩ := hA hij
    simp only [Bindings.resolve.go, hS, hS']
    have hin := resolveIn_rel cat hA hr.bindings ref
    generalize Bindings.resolveIn cat A S ref = o at hin ⊢
    generalize Bindings.resolveIn cat A' S' ref = o' at hin ⊢
    cases hin with
    | some ho => exact ho
    | none =>
      dsimp only
      rcases hr.parent with ⟨hk, hp⟩ | ⟨hl, hr'⟩
      · rw [hk]
        split
        · -- both sides look further up, from matched parents
          generalize hc : S.parent = c at hp ⊢
          generalize hc' : S'.parent = c' at hp ⊢
          cases hp with
          | none => rw [resolve_go_none, resolve_go_none]; rfl
          | some hpp =>
            have hpi := hs.parent_lt hS hc
            have hpj := hs'.parent_lt hS' hc'
            exact resolve_go_rel hA hs hs' ref fuel fuel' hpp (by omega) (by omega)
        · rfl
      · -- neither side finds anything above
        have hx : (if S.kind.seesEnclosing then Bindings.resolve.go cat A ref fuel S.parent
            else .unbound) = .unbound := by
          split
          · exact (hl ‹_›).resolve_go ref fuel
          · rfl
        have hy : (if S'.kind.seesEnclosing then Bindings.resolve.go cat A' ref fuel' S'.parent
            else .unbound) = .unbound := by
          split
          · exact (hr' ‹_›).resolve_go ref fuel'
          · rfl
        rw [hx, hy]
        rfl

/-- A column read in matched scopes is placed in agreeing origins. -/
theorem resolve_rel (hA : ScopesRel ρ A A') (hs : A.Shaped) (hs' : A'.Shaped) {id id' : Nat}
    (h : ρ.map id = some id') (ref : ColumnRef) :
    OriginRel ρ (Bindings.resolve cat A id ref) (Bindings.resolve cat A' id' ref) := by
  obtain ⟨S, S', hS, hS', -⟩ := hA h
  exact resolve_go_rel cat hA hs hs' ref _ _ h
    (Nat.lt_succ_of_lt (ScopeArena.lt_size_of_get? hS))
    (Nat.lt_succ_of_lt (ScopeArena.lt_size_of_get? hS'))

/-! ### Placing the columns of a completed scope -/

variable {cat}

theorem OriginRel.pending_iff {o o' : Origin} (h : OriginRel ρ o o') :
    o' = .pending ↔ o = .pending := by
  cases o <;> cases o' <;> simp_all [OriginRel]

/-- A column reference that agrees with one not yet placed is the same. -/
theorem RefRel.eq_of_pending {r r' : ColumnRef} (h : RefRel ρ r r') (hp : r.origin = .pending) :
    r' = r := by
  have ho := h.origin.pending_iff.mpr hp
  rcases r with ⟨q, c, pos, o⟩
  rcases r' with ⟨q', c', pos', o'⟩
  obtain ⟨hq, hc, hpos, -⟩ := h
  simp_all

variable (cat)

/-- The inputs a USING column gets from agreeing sides agree. -/
theorem Forall₂.map_ofColumn (ref : ColumnRef) {bs bs' : List Binding}
    (h : List.Forall₂ (BindingRel ρ) bs bs') :
    List.Forall₂ (FieldRel ρ)
      (bs.map fun b => Field.ofColumn ref.column { ref with origin := b.target.origin })
      (bs'.map fun b => Field.ofColumn ref.column { ref with origin := b.target.origin }) :=
  List.rel_map (fun _ _ hb => ⟨rfl, ⟨rfl, rfl, rfl, hb.2.origin⟩, rfl⟩) h

/-- A column of `JOIN ... USING` read in matched scopes comes from agreeing
sides, or from none on both. -/
theorem usingSides_rel (hA : ScopesRel ρ A A') {id id' : Nat} (hid : ρ.map id = some id')
    {named : Bool} {f f' : Field} (h : FieldAgree ρ named f f') :
    Option.Rel (List.Forall₂ (FieldRel ρ)) (Bindings.usingSides cat A id f).1
      (Bindings.usingSides cat A' id' f').1 := by
  cases f <;> cases f' <;> simp only [FieldAgree, reduceCtorEq] at h
  case column.column n ref p n' ref' p' =>
    obtain ⟨-, hr, -⟩ := h
    by_cases hp : ref.origin = .pending
    · obtain he := hr.eq_of_pending hp
      subst ref'
      obtain ⟨S, S', hS, hS', hsr⟩ := hA hid
      simp only [Bindings.usingSides, hS, hS', hsr.usingColumns]
      split
      · exact .none
      · split
        · exact .none
        · rename_i u _
          have hsides := List.rel_filter (R := BindingRel ρ)
            (p := fun b => Bindings.provides cat A b ref.column != .no)
            (q := fun b => Bindings.provides cat A' b ref.column != .no)
            (fun _ _ hb => by simp only [provides_rel cat hA hb])
            (List.forall₂_take u.bindings hsr.bindings)
          have hfields := Forall₂.map_ofColumn ref hsides
          simp only [hfields.length_eq]
          split
          · exact .some hfields
          · exact .none
    · have hp' : ref'.origin ≠ .pending := fun h' => hp (hr.origin.pending_iff.mp h')
      simp [Bindings.usingSides, hp, hp']
  all_goals simp [Bindings.usingSides]

mutual

/-- Placing the columns of agreeing fields read in matched scopes gives
agreeing fields. -/
theorem placeField_rel (hA : ScopesRel ρ A A') (hs : A.Shaped) (hs' : A'.Shaped)
    {id id' : Nat} (hid : ρ.map id = some id') {named : Bool} :
    ∀ (f : Field) {f' : Field}, FieldAgree ρ named f f' →
      FieldAgree ρ named (Bindings.placeField cat A id f).1 (Bindings.placeField cat A' id' f').1
  | .column n ref p, f', h => by
    have hu := usingSides_rel cat hA hid h
    cases f' <;> simp only [FieldAgree] at h
    rename_i n' ref' p'
    obtain ⟨hn, hr, hpr⟩ := h
    subst n' p'
    simp only [Bindings.placeField]
    generalize Bindings.usingSides cat A id (.column n ref p) = x at hu ⊢
    generalize Bindings.usingSides cat A' id' (.column n ref' p) = y at hu ⊢
    rcases x with ⟨_ | sides, events⟩ <;> rcases y with ⟨_ | sides', events'⟩ <;> cases hu
    · dsimp only
      by_cases hp : ref.origin = .pending
      · obtain he := hr.eq_of_pending hp
        subst ref'
        simp only [hp, beq_self_eq_true, if_true]
        have ho := resolve_rel cat hA hs hs' hid ref
        generalize Bindings.resolve cat A id ref = o at ho ⊢
        generalize Bindings.resolve cat A' id' ref = o' at ho ⊢
        split <;> split <;> exact ⟨rfl, ⟨rfl, rfl, rfl, ho⟩, rfl⟩
      · have hp' : ref'.origin ≠ .pending := fun h' => hp (hr.origin.pending_iff.mp h')
        simp only [beq_iff_eq, hp, hp', if_false]
        exact ⟨rfl, hr, rfl⟩
    · rename_i hu
      exact ⟨rfl, fieldsRel_iff.mpr (hu.imp fun _ _ h => h.input), rfl⟩
  | .derived n ds p, f', h => by
    cases f' <;> simp only [FieldAgree] at h
    obtain ⟨rfl, hd, rfl⟩ := h
    simp only [Bindings.placeField]
    exact ⟨rfl, fieldsRel_iff.mpr (placeFields_rel hA hs hs' hid ds (fieldsRel_iff.mp hd)), rfl⟩
  | .scalar .., f', h => by
    cases f' <;> simp only [FieldAgree] at h
    simp only [Bindings.placeField, FieldAgree]
    exact h
  | .constant .., f', h => by
    subst h
    rfl
  | .wildcard .., f', h => by
    subst h
    rfl

theorem placeFields_rel (hA : ScopesRel ρ A A') (hs : A.Shaped) (hs' : A'.Shaped)
    {id id' : Nat} (hid : ρ.map id = some id') {named : Bool} :
    ∀ (fs : List Field) {fs' : List Field}, List.Forall₂ (FieldAgree ρ named) fs fs' →
      List.Forall₂ (FieldAgree ρ named) (Bindings.placeFields cat A id fs).1
        (Bindings.placeFields cat A' id' fs').1
  | [], _, .nil => .nil
  | f :: fs, _ :: _, .cons h hrest =>
    .cons (placeField_rel hA hs hs' hid f h) (placeFields_rel hA hs hs' hid fs hrest)

end

/-- Completing matched scopes keeps the arenas agreeing. -/
theorem ScopesRel.finalize (hA : ScopesRel ρ A A') (hs : A.Shaped) (hs' : A'.Shaped)
    {id id' : Nat} (hid : ρ.map id = some id') :
    ScopesRel ρ (Bindings.finalize cat A id).1 (Bindings.finalize cat A' id').1 := by
  obtain ⟨S, S', hS, hS', hr⟩ := hA hid
  -- the outputs are placed in the arenas with the scope's own outputs set aside
  have hclear : ScopesRel ρ (A.modify id fun s => { s with fields := [] })
      (A'.modify id' fun s => { s with fields := [] }) :=
    hA.modify hid (fun s => { s with fields := [] }) (fun s => { s with fields := [] })
      fun _ _ h => ⟨.nil, h.bindings, h.usingColumns, h.parent⟩
  have hplaced := placeFields_rel cat hclear (hs.modify fun _ => rfl) (hs'.modify fun _ => rfl)
    hid S.fields hr.fields
  simp only [Bindings.finalize, hS, hS']
  apply hA.modify hid
  intro _ _ _ _ h
  exact ⟨hplaced, h.bindings, h.usingColumns, h.parent⟩

/-! ### Wildcards and set operations -/

/-- Numbering agreeing lists keeps them agreeing, number for number. -/
theorem Forall₂.zipIdx {α β : Type} {R : α → β → Prop} {l : List α} {l' : List β}
    (h : List.Forall₂ R l l') (n : Nat) :
    List.Forall₂ (fun a b => R a.1 b.1 ∧ b.2 = a.2) (l.zipIdx n) (l'.zipIdx n) := by
  induction h generalizing n with
  | nil => exact .nil
  | cons hab _ ih => exact .cons ⟨hab, rfl⟩ (ih (n + 1))

/-- Two expansions of a wildcard in progress agree: agreeing fields, the same
wildcards left unexpanded. -/
def ExpansionRel (ρ : Renaming) (acc acc' : List Field × List String) : Prop :=
  List.Forall₂ (FieldRel ρ) acc.1 acc'.1 ∧ acc'.2 = acc.2

theorem expandBinding_rel (hA : ScopesRel ρ A A') (q : Option TableName)
    {acc acc' : List Field × List String} (hacc : ExpansionRel ρ acc acc') {b b' : Binding}
    (hb : BindingRel ρ b b') :
    ExpansionRel ρ (Detect.expandBinding cat A q acc b) (Detect.expandBinding cat A' q acc' b') := by
  obtain ⟨ha, ht⟩ := hb
  rcases b with ⟨al, t⟩
  rcases b' with ⟨al', t'⟩
  dsimp only at ha ht
  subst ha
  cases t <;> cases t' <;> simp only [TargetRel, reduceCtorEq] at ht
  case table.table t _ =>
    cases ht
    simp only [Detect.expandBinding]
    split
    · refine ⟨List.rel_append hacc.1 (List.forall₂_same.mpr fun f hf => ?_), hacc.2⟩
      obtain ⟨c, -, rfl⟩ := List.mem_map.mp hf
      exact ⟨rfl, ⟨rfl, rfl, rfl, rfl⟩, rfl⟩
    · exact ⟨List.rel_append hacc.1 (.cons rfl .nil), by rw [hacc.2]⟩
  case scope.scope i j =>
    obtain ⟨S, S', hS, hS', hr⟩ := hA ht
    simp only [Detect.expandBinding, hS, hS']
    refine ⟨List.rel_append hacc.1 (List.rel_map (fun a b hab => ?_) (Forall₂.zipIdx hr.fields 0)),
      hacc.2⟩
    obtain ⟨hf, hi⟩ := hab
    rcases a with ⟨f, k⟩
    rcases b with ⟨f', k'⟩
    dsimp only at hf hi ⊢
    subst hi
    exact ⟨hf.name_eq, ⟨rfl, hf.name_eq, rfl, ht⟩, rfl⟩

/-- A wildcard read in agreeing scopes expands to agreeing fields and leaves
the same wildcards unexpanded. -/
theorem wildcardFields_rel (hA : ScopesRel ρ A A') {S S' : Scope}
    (h : List.Forall₂ (BindingRel ρ) S.bindings S'.bindings) (q : Option TableName) :
    ExpansionRel ρ (Detect.wildcardFields cat A S q) (Detect.wildcardFields cat A' S' q) := by
  have hb : List.Forall₂ (BindingRel ρ) (Detect.wildcardBindings S q)
      (Detect.wildcardBindings S' q) := by
    cases q with
    | none => exact h
    | some q =>
      have hq := findQualified_rel h q
      simp only [Detect.wildcardBindings]
      generalize Bindings.findQualified S q = o at hq ⊢
      generalize Bindings.findQualified S' q = o' at hq ⊢
      cases hq with
      | none => exact .nil
      | some hb => exact .cons hb .nil
  have hstart : Detect.wildcardStart q (Detect.wildcardBindings S' q) =
      Detect.wildcardStart q (Detect.wildcardBindings S q) := by
    simp only [Detect.wildcardStart, List.isEmpty_iff_length_eq_zero, hb.length_eq]
  have hstep : ∀ ⦃a a'⦄, ExpansionRel ρ a a' → ∀ ⦃b b'⦄, BindingRel ρ b b' →
      ExpansionRel ρ (Detect.expandBinding cat A q a b) (Detect.expandBinding cat A' q a' b') :=
    fun _ _ hacc _ _ hb => expandBinding_rel cat hA q hacc hb
  unfold Detect.wildcardFields
  rw [hstart]
  refine List.rel_foldl hstep ⟨List.forall₂_same.mpr fun f hf => ?_, rfl⟩ hb
  unfold Detect.wildcardStart at hf
  split at hf
  · obtain rfl := List.mem_singleton.mp hf
    rfl
  · cases hf

/-- The outputs of a set operation over matched operands agree. -/
theorem setOutputs_rel (hA : ScopesRel ρ A A') {l l' r r' : Nat} (hl : ρ.map l = some l')
    (hr : ρ.map r = some r') :
    List.Forall₂ (FieldRel ρ) (Detect.setOutputs A [l, r]) (Detect.setOutputs A' [l', r']) := by
  have hops : List.Forall₂ (fun op op' => ρ.map op = some op') [l, r] [l', r'] :=
    .cons hl (.cons hr .nil)
  obtain ⟨L, L', hL, hL', hLr⟩ := hA hl
  simp only [Detect.setOutputs, List.head?_cons, Option.bind_some, hL, hL']
  refine List.rel_map (fun a b hab => ?_) (Forall₂.zipIdx hLr.fields 0)
  obtain ⟨hf, hi⟩ := hab
  rcases a with ⟨f, k⟩
  rcases b with ⟨f', k'⟩
  dsimp only at hf hi ⊢
  subst k'
  refine ⟨hf.name_eq, fieldsRel_iff.mpr (List.rel_filterMap (fun op op' hop => ?_) hops), rfl⟩
  obtain ⟨O, O', hO, hO', hOr⟩ := hA hop
  simp only [hO, hO', Option.bind_some]
  have hk := Forall₂.getElem? hOr.fields k
  generalize O.fields[k]? = g at hk ⊢
  generalize O'.fields[k]? = g' at hk ⊢
  cases hk with
  | none => exact .none
  | some hg => exact .some ⟨hg.name_eq, ⟨rfl, hg.name_eq, rfl, hop⟩, rfl⟩

end ColumnLineage
