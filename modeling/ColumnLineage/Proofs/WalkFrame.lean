import ColumnLineage.Proofs.DetectSteps
import ColumnLineage.Proofs.ResolveRenaming
/-
ColumnLineage/Proofs/WalkFrame.lean

What the walk over a statement leaves alone. A walk over a query opens its
scopes, fills them and closes them again: the stack of open scopes and the
frames of WITH names are as before, and every scope that was there before is
untouched, except the current one when a FROM clause binds its names
(`Detector.Quiet`).

The walk also keeps the arena closed: every scope that an output reads by
name, that a binding stands for or that a WITH name stands for is done, that
is opened and closed again (`Detector.Closed`). A scope is read only once it
is done, so the scope a query walk answers, still open while its own parts
were read, is read by no output when the walk ends (`query_quiet`). That is
what the memo table of the walk to sources relies on when a query is looked
up from around it.
-/

namespace ColumnLineage

open Run

namespace ScopeArena

/-- The arena is laid out as the walk lays it out: a scope's parent was
opened before it, and the open scopes are distinct scopes of the arena. -/
structure Shaped (a : ScopeArena) : Prop where
  parent_lt : ∀ {i S p}, a.get? i = some S → S.parent = some p → p < i
  stack_lt : ∀ {i}, i ∈ a.stack → i < a.size
  nodup : a.stack.Nodup

/-- Scope `k` is done: it was opened and is closed again. -/
def Done (a : ScopeArena) (k : Nat) : Prop := k < a.size ∧ k ∉ a.stack

/-- Some binding of some scope stands for scope `k`. -/
def Targets (a : ScopeArena) (k : Nat) : Prop :=
  ∃ i S b, a.get? i = some S ∧ b ∈ S.bindings ∧ b.target = .scope k

end ScopeArena

/-- Every scope the arena and the frames point to is done. -/
structure Detector.Closed (d : Detector) : Prop where
  reads : ∀ {k}, d.arena.Reads k → d.arena.Done k
  targets : ∀ {k}, d.arena.Targets k → d.arena.Done k
  ctes : ∀ {f : List (String × Nat)} {name k}, f ∈ d.frames → (name, k) ∈ f → d.arena.Done k

/-- The invariant of the walk: a well laid out, closed arena. -/
structure Detector.Valid (d : Detector) : Prop where
  shaped : d.arena.Shaped
  closed : d.Closed

/-- `d'` follows `d` in a walk that closed every scope it opened: the same
catalog, limit and open scopes, more scopes, the scopes of `d` as they
were, except perhaps scope `c`, and the same target. -/
structure Detector.Grows (c : Option Nat) (d d' : Detector) : Prop where
  catalog : d'.catalog = d.catalog
  maxDepth : d'.arena.maxDepth = d.arena.maxDepth
  stack : d'.arena.stack = d.arena.stack
  size : d.arena.size ≤ d'.arena.size
  scopes : ∀ i < d.arena.size, c ≠ some i → d'.arena.get? i = d.arena.get? i
  target : d'.target = d.target

/-- `d'` follows `d` as `Grows` says, with the same frames of WITH names. -/
def Detector.Quiet (c : Option Nat) (d d' : Detector) : Prop :=
  d.Grows c d' ∧ d'.frames = d.frames

namespace Detector

variable {c : Option Nat} {d d₁ d₂ : Detector}

theorem Grows.refl (c : Option Nat) (d : Detector) : d.Grows c d :=
  ⟨rfl, rfl, rfl, Nat.le_refl _, fun _ _ _ => rfl, rfl⟩

theorem Grows.trans (h₁ : d.Grows c d₁) (h₂ : d₁.Grows c d₂) : d.Grows c d₂ where
  catalog := h₂.catalog.trans h₁.catalog
  maxDepth := h₂.maxDepth.trans h₁.maxDepth
  stack := h₂.stack.trans h₁.stack
  size := Nat.le_trans h₁.size h₂.size
  scopes i hi hc := (h₂.scopes i (Nat.lt_of_lt_of_le hi h₁.size) hc).trans (h₁.scopes i hi hc)
  target := h₂.target.trans h₁.target

theorem Grows.widen (h : d.Grows none d₁) (c : Option Nat) : d.Grows c d₁ :=
  { h with scopes := fun i hi _ => h.scopes i hi (by simp) }

theorem Quiet.refl (c : Option Nat) (d : Detector) : d.Quiet c d := ⟨Grows.refl c d, rfl⟩

theorem Quiet.trans (h₁ : d.Quiet c d₁) (h₂ : d₁.Quiet c d₂) : d.Quiet c d₂ :=
  ⟨h₁.1.trans h₂.1, h₂.2.trans h₁.2⟩

theorem Quiet.widen (h : d.Quiet none d₁) (c : Option Nat) : d.Quiet c d₁ :=
  ⟨h.1.widen c, h.2⟩

/-- A scope done before is done after. -/
theorem Grows.done (h : d.Grows c d₁) {k : Nat} (hk : d.arena.Done k) : d₁.arena.Done k :=
  ⟨Nat.lt_of_lt_of_le hk.1 h.size, h.stack ▸ hk.2⟩

theorem Grows.current (h : d.Grows c d₁) : d₁.arena.current = d.arena.current := by
  simp only [ScopeArena.current, h.stack]

end Detector

/-! ### Opening, changing and closing scopes -/

section Primitives

variable {d : Detector}

namespace ScopeArena

variable {a : ScopeArena}

theorem Shaped.current_lt (h : a.Shaped) {p : Nat} (hp : a.current = some p) : p < a.size :=
  h.stack_lt (List.mem_of_mem_head? hp)

/-- A scope of the arena with one more scope is that scope or was there before. -/
theorem get?_push_eq_some {s : Scope} {i : Nat} {S : Scope} (hS : (a.push s).get? i = some S) :
    (i = a.size ∧ S = s) ∨ a.get? i = some S := by
  rw [get?_push] at hS
  split at hS
  · exact .inl ⟨‹_›, (Option.some.inj hS).symm⟩
  · exact .inr hS

/-- A scope of the changed arena is a scope of the arena before, changed if it
is the one. -/
theorem get?_modify_eq_some {id : Nat} {f : Scope → Scope} {i : Nat} {S' : Scope}
    (hS' : (a.modify id f).get? i = some S') :
    ∃ S, a.get? i = some S ∧ (S' = S ∨ (i = id ∧ S' = f S)) := by
  rw [get?_modify] at hS'
  split at hS'
  · obtain ⟨S, hS, rfl⟩ := Option.map_eq_some_iff.mp hS'
    exact ⟨S, hS, .inr ⟨by omega, rfl⟩⟩
  · exact ⟨S', hS', .inl rfl⟩

theorem Shaped.push (h : a.Shaped) (kind : ScopeKind) (aliasName : Option String) :
    (a.push (a.opened kind aliasName)).Shaped := by
  refine ⟨?_, ?_, ?_⟩
  · intro i S p hS hp
    rcases get?_push_eq_some hS with ⟨rfl, rfl⟩ | hS
    · exact h.current_lt hp
    · exact h.parent_lt hS hp
  · intro i hi
    simp only [stack_push, List.mem_cons] at hi
    rcases hi with rfl | hi
    · simp
    · have := h.stack_lt hi
      simp; omega
  · simp only [stack_push, List.nodup_cons]
    exact ⟨fun hi => Nat.lt_irrefl _ (h.stack_lt hi), h.nodup⟩

theorem Shaped.pop (h : a.Shaped) {id : Nat} {rest : List Nat} (hs : a.stack = id :: rest) :
    ({ a with stack := rest } : ScopeArena).Shaped := by
  have hnodup := h.nodup
  rw [hs] at hnodup
  exact ⟨h.parent_lt, fun hi => h.stack_lt (hs ▸ List.mem_cons_of_mem _ hi),
    (List.nodup_cons.mp hnodup).2⟩

theorem Shaped.modify (h : a.Shaped) {id : Nat} {f : Scope → Scope}
    (hparent : ∀ {S}, a.get? id = some S → (f S).parent = S.parent) : (a.modify id f).Shaped := by
  refine ⟨?_, ?_, ?_⟩
  · intro i S' p hS' hp
    obtain ⟨S, hS, rfl | ⟨rfl, rfl⟩⟩ := get?_modify_eq_some hS'
    · exact h.parent_lt hS hp
    · exact h.parent_lt hS ((hparent hS) ▸ hp)
  · intro i hi
    simpa using h.stack_lt (by simpa using hi)
  · simpa using h.nodup

end ScopeArena

/-- Opening a scope keeps the walk's invariant: the new scope is empty, and
it is the only open scope that is not done. -/
theorem Detector.Valid.push (h : d.Valid) (kind : ScopeKind) (aliasName : Option String) :
    ({ d with arena := d.arena.push (d.arena.opened kind aliasName) } : Detector).Valid := by
  have hsize : ∀ {k}, d.arena.Done k → (d.arena.push (d.arena.opened kind aliasName)).Done k :=
    fun hk => ⟨by have := hk.1; simp only [ScopeArena.size_push]; omega, by
      simp only [ScopeArena.stack_push, List.mem_cons, not_or]
      exact ⟨by have := hk.1; omega, hk.2⟩⟩
  refine ⟨h.shaped.push kind aliasName, ⟨?_, ?_, ?_⟩⟩
  · rintro k ⟨i, S, hS, hk⟩
    rcases ScopeArena.get?_push_eq_some hS with ⟨-, rfl⟩ | hS
    · simp [ScopeArena.opened, Field.ListReadsScope] at hk
    · exact hsize (h.closed.reads ⟨i, S, hS, hk⟩)
  · rintro k ⟨i, S, b, hS, hb, hk⟩
    rcases ScopeArena.get?_push_eq_some hS with ⟨-, rfl⟩ | hS
    · simp [ScopeArena.opened] at hb
    · exact hsize (h.closed.targets ⟨i, S, b, hS, hb, hk⟩)
  · intro f name k hf hk
    exact hsize (h.closed.ctes hf hk)

/-- Closing the current scope keeps the walk's invariant. -/
theorem Detector.Valid.pop (h : d.Valid) {id : Nat} {rest : List Nat}
    (hs : d.arena.stack = id :: rest) :
    ({ d with arena := { d.arena with stack := rest } } : Detector).Valid := by
  have hdone : ∀ {k}, d.arena.Done k → ({ d.arena with stack := rest } : ScopeArena).Done k :=
    fun hk => ⟨hk.1, fun hr => hk.2 (hs ▸ List.mem_cons_of_mem _ hr)⟩
  exact ⟨h.shaped.pop hs, ⟨fun hk => hdone (h.closed.reads hk),
    fun hk => hdone (h.closed.targets hk), fun hf hk => hdone (h.closed.ctes hf hk)⟩⟩

/-- Changing one scope keeps the walk's invariant when the change keeps its
parent and reads by name only what it read before or what is done, and binds
only what it bound before or what is done. -/
theorem Detector.Valid.modify (h : d.Valid) {id : Nat} {f : Scope → Scope}
    (hparent : ∀ {S}, d.arena.get? id = some S → (f S).parent = S.parent)
    (hreads : ∀ {S k}, d.arena.get? id = some S → Field.ListReadsScope (f S).fields k →
      Field.ListReadsScope S.fields k ∨ d.arena.Done k)
    (htargets : ∀ {S b k}, d.arena.get? id = some S → b ∈ (f S).bindings →
      b.target = .scope k → b ∈ S.bindings ∨ d.arena.Done k) :
    ({ d with arena := d.arena.modify id f } : Detector).Valid := by
  have hdone : ∀ {k}, d.arena.Done k → (d.arena.modify id f).Done k :=
    fun hk => ⟨by simpa using hk.1, by simpa using hk.2⟩
  refine ⟨h.shaped.modify hparent, ⟨?_, ?_, ?_⟩⟩
  · rintro k ⟨i, S', hS', hk⟩
    obtain ⟨S, hS, rfl | ⟨rfl, rfl⟩⟩ := ScopeArena.get?_modify_eq_some hS'
    · exact hdone (h.closed.reads ⟨i, S', hS, hk⟩)
    · rcases hreads hS hk with hk | hk
      · exact hdone (h.closed.reads ⟨i, S, hS, hk⟩)
      · exact hdone hk
  · rintro k ⟨i, S', b, hS', hb, hk⟩
    obtain ⟨S, hS, rfl | ⟨rfl, rfl⟩⟩ := ScopeArena.get?_modify_eq_some hS'
    · exact hdone (h.closed.targets ⟨i, S', b, hS, hb, hk⟩)
    · rcases htargets hS hb hk with hb | hk
      · exact hdone (h.closed.targets ⟨i, S, b, hS, hb, hk⟩)
      · exact hdone hk
  · intro f name k hf hk
    exact hdone (h.closed.ctes hf hk)

/-- Changing one scope of an arena leaves the rest of the walk's state as it
was, that scope apart. -/
theorem Detector.grows_modify (d : Detector) (id : Nat) (f : Scope → Scope) :
    d.Grows (some id) { d with arena := d.arena.modify id f } where
  catalog := rfl
  maxDepth := rfl
  stack := rfl
  size := by simp
  scopes i _ hi := ScopeArena.get?_modify_of_ne _ _ _ (by simpa using hi)
  target := rfl

end Primitives

/-! ### Placing column references reads only bound scopes -/

section Placing

variable {cat : Catalog} {A : ScopeArena}

theorem BindingTarget.origin_eq_scope {t : BindingTarget} {k : Nat} :
    t.origin = .scope k ↔ t = .scope k := by
  cases t <;> simp [BindingTarget.origin]

namespace Bindings

/-- A column a scope places in another scope comes through one of its
bindings. -/
theorem resolveIn_scope {S : Scope} {ref : ColumnRef} {k : Nat}
    (h : resolveIn cat A S ref = some (.scope k)) : ∃ b ∈ S.bindings, b.target = .scope k := by
  unfold resolveIn at h
  split at h
  · obtain ⟨b, hb, ho⟩ := Option.map_eq_some_iff.mp h
    exact ⟨b, List.mem_of_find?_eq_some hb, BindingTarget.origin_eq_scope.mp ho⟩
  · split at h
    · cases h
    · rename_i b hb
      have hmem : b ∈ S.bindings.filter _ := hb ▸ List.mem_singleton_self b
      exact ⟨b, List.mem_of_mem_filter hmem,
        BindingTarget.origin_eq_scope.mp (Option.some.inj h)⟩
    · cases h

/-- A column placed in a scope is placed through a binding of the arena. -/
theorem resolve_scope {id : Nat} {ref : ColumnRef} {k : Nat}
    (h : resolve cat A id ref = .scope k) : A.Targets k := by
  unfold resolve at h
  generalize A.size + 1 = fuel at h
  generalize (some id : Option Nat) = start at h
  induction fuel generalizing start with
  | zero => simp [resolve.go] at h
  | succ fuel ih =>
    rcases start with _ | i
    · simp [resolve.go] at h
    · simp only [resolve.go] at h
      split at h
      · cases h
      · rename_i S hS
        split at h
        · rename_i o ho
          subst h
          obtain ⟨b, hb, hbk⟩ := resolveIn_scope ho
          exact ⟨i, S, b, hS, hb, hbk⟩
        · split at h
          · exact ih _ h
          · cases h

/-- The inputs `JOIN ... USING` gives a column read its scopes through the
bindings of the scope. -/
theorem usingSides_reads {id : Nat} {f : Field} {sides : List Field}
    (h : (usingSides cat A id f).1 = some sides) {k : Nat}
    (hk : Field.ListReadsScope sides k) : A.Targets k := by
  obtain ⟨g, hg, hgk⟩ := Field.listReadsScope_iff.mp hk
  unfold usingSides at h
  split at h
  · split at h
    · cases h
    · split at h
      · cases h
      · rename_i S hS
        split at h
        · cases h
        · dsimp only at h
          split at h
          · obtain rfl := Option.some.inj h
            obtain ⟨b, hb, rfl⟩ := List.mem_map.mp hg
            have hb' := List.mem_of_mem_filter hb
            refine ⟨id, S, b, hS, List.mem_of_mem_take hb', ?_⟩
            simpa [Field.ofColumn, Field.ReadsScope, BindingTarget.origin_eq_scope] using hgk
          · cases h
  · cases h

mutual

/-- Placing a field's columns makes it read by name only what it read
before, or scopes that bindings of the arena stand for. -/
theorem placeField_reads (id : Nat) (k : Nat) :
    ∀ f, (placeField cat A id f).1.ReadsScope k → f.ReadsScope k ∨ A.Targets k
  | .column n ref p, hk => by
    simp only [placeField] at hk
    split at hk
    · rename_i sides _ hs
      exact .inr (usingSides_reads (by rw [hs]) hk)
    · split at hk
      · split at hk <;>
        · simp only [Field.ReadsScope] at hk
          exact .inr (resolve_scope hk)
      · exact .inl hk
  | .derived n deps p, hk => by
    simp only [placeField] at hk
    exact placeFields_reads id k deps hk
  | .scalar .., hk => by simp [placeField, Field.ReadsScope] at hk
  | .constant .., hk => by simp [placeField, Field.ReadsScope] at hk
  | .wildcard .., hk => by simp [placeField, Field.ReadsScope] at hk

theorem placeFields_reads (id : Nat) (k : Nat) :
    ∀ fs, Field.ListReadsScope (placeFields cat A id fs).1 k →
      Field.ListReadsScope fs k ∨ A.Targets k
  | [], hk => by simp [placeFields, Field.ListReadsScope] at hk
  | f :: fs, hk => by
    simp only [placeFields, Field.ListReadsScope] at hk ⊢
    rcases hk with hk | hk
    · rcases placeField_reads id k f hk with hk | hk
      · exact .inl (.inl hk)
      · exact .inr hk
    · rcases placeFields_reads id k fs hk with hk | hk
      · exact .inl (.inr hk)
      · exact .inr hk

end

/-- What completing a scope does to the arena: the scope's outputs are placed,
read against the arena with those outputs set aside. -/
theorem finalize_arena (id : Nat) : (finalize cat A id).1 = match A.get? id with
    | none => A
    | some S => A.modify id fun s => { s with
        fields := (placeFields cat (A.modify id fun s => { s with fields := [] }) id S.fields).1
        fromTable := match S.bindings with
          | [{ target := .table t, .. }] => some t
          | _ => none } := by
  -- the placed scope: both sides build the same record, by unfolding alone
  unfold finalize
  cases A.get? id <;> rfl

end Bindings

theorem ScopeArena.Targets.of_modify {A : ScopeArena} {id : Nat} {f : Scope → Scope} {k : Nat}
    (h : (A.modify id f).Targets k) (hf : ∀ S, (f S).bindings = S.bindings) : A.Targets k := by
  obtain ⟨i, S', b, hS', hb, hk⟩ := h
  rw [ScopeArena.get?_modify] at hS'
  split at hS'
  · obtain ⟨S, hS, rfl⟩ := Option.map_eq_some_iff.mp hS'
    exact ⟨i, S, b, hS, hf S ▸ hb, hk⟩
  · exact ⟨i, S', b, hS', hb, hk⟩

/-- Completing a scope keeps the walk's invariant and changes that scope only. -/
theorem Detector.Valid.finalize {d : Detector} (h : d.Valid) (id : Nat) :
    ({ d with arena := (Bindings.finalize d.catalog d.arena id).1 } : Detector).Valid ∧
      d.Quiet (some id) { d with arena := (Bindings.finalize d.catalog d.arena id).1 } := by
  rw [Bindings.finalize_arena]
  split
  · exact ⟨h, Quiet.refl _ _⟩
  · rename_i S hS
    refine ⟨h.modify (fun _ => rfl) ?_ (fun _ hb _ => .inl hb),
      d.grows_modify id _, rfl⟩
    intro S' k hS' hk
    obtain rfl : S' = S := Option.some.inj (hS'.symm.trans hS)
    rcases Bindings.placeFields_reads id k _ hk with hk | hk
    · exact .inl hk
    · exact .inr (h.closed.targets (hk.of_modify fun _ => rfl))

end Placing

/-! ### What the steps of the walk keep -/

section Steps

variable {d d' : Detector}

/-- Every scope the fields read by name is done. -/
def Detector.ReadsDone (fs : List Field) (d : Detector) : Prop :=
  ∀ k, Field.ListReadsScope fs k → d.arena.Done k

/-- What a walk over a query answers: a done scope that no output reads by
name. -/
def Detector.Answered (r : Nat) (d : Detector) : Prop := d.arena.Done r ∧ ¬ d.arena.Reads r

theorem Detector.ReadsDone.nil (d : Detector) : d.ReadsDone [] := by
  intro k hk
  simp [Field.ListReadsScope] at hk

theorem Detector.ReadsDone.append {fs gs : List Field} (hf : d.ReadsDone fs)
    (hg : d.ReadsDone gs) : d.ReadsDone (fs ++ gs) := by
  intro k hk
  obtain ⟨f, hf', hk⟩ := Field.listReadsScope_iff.mp hk
  rcases List.mem_append.mp hf' with h | h
  · exact hf k (Field.listReadsScope_iff.mpr ⟨f, h, hk⟩)
  · exact hg k (Field.listReadsScope_iff.mpr ⟨f, h, hk⟩)

theorem Detector.ReadsDone.grows {c : Option Nat} {fs : List Field} (h : d.ReadsDone fs)
    (hq : d.Grows c d') : d'.ReadsDone fs :=
  fun k hk => hq.done (h k hk)

/-- Adding an input that reads nothing by name keeps the inputs' reads done. -/
theorem Detector.ReadsDone.addInput {acc : List Field} {f : Field} (h : d.ReadsDone acc)
    (hf : ∀ k, ¬ f.ReadsScope k) : d.ReadsDone (addInput f acc) := by
  unfold ColumnLineage.addInput
  split
  · exact h
  · refine h.append fun k hk => ?_
    simp only [Field.ListReadsScope, or_false] at hk
    exact absurd hk (hf _)

theorem Detector.Valid.modifyScope {id : Nat} {f : Scope → Scope} {u : Unit} (hv : d.Valid)
    (h : (Detect.modifyScope id f).run.run d = (.ok u, d'))
    (hparent : ∀ {S}, d.arena.get? id = some S → (f S).parent = S.parent)
    (hreads : ∀ {S k}, d.arena.get? id = some S → Field.ListReadsScope (f S).fields k →
      Field.ListReadsScope S.fields k ∨ d.arena.Done k)
    (htargets : ∀ {S b k}, d.arena.get? id = some S → b ∈ (f S).bindings →
      b.target = .scope k → b ∈ S.bindings ∨ d.arena.Done k) :
    d'.Valid ∧ d.Quiet (some id) d' := by
  rw [Detect.run_modifyScope] at h
  split at h
  · cases h
  · cases h
    exact ⟨hv.modify hparent hreads htargets, d.grows_modify id f, rfl⟩

/-- Binding a name of the FROM clause to a done scope or a table keeps the
invariant and changes the current scope only. -/
theorem Detector.Valid.bind {aliasName : Option String} {target : BindingTarget} {u : Unit}
    (hv : d.Valid) (h : (Detect.bind aliasName target).run.run d = (.ok u, d'))
    (htarget : ∀ {k}, target = .scope k → d.arena.Done k) :
    d'.Valid ∧ d.Quiet d.arena.current d' := by
  rw [Detect.run_bind] at h
  split at h
  · rename_i c hc
    cases h
    refine ⟨hv.modify (fun _ => rfl) (fun _ hk => .inl hk) ?_, hc ▸ d.grows_modify c _, rfl⟩
    intro S b k _ hb hk
    rcases List.mem_append.mp hb with hb | hb
    · exact .inl hb
    · simp only [List.mem_singleton] at hb
      subst hb
      exact .inr (htarget hk)
  · cases h

theorem Detector.Valid.addUsing {columns : List Sql.ObjectName} {u : Unit} (hv : d.Valid)
    (h : (Detect.addUsing columns).run.run d = (.ok u, d')) :
    d'.Valid ∧ d.Quiet d.arena.current d' := by
  rw [Detect.run_addUsing] at h
  split at h
  · rename_i c hc
    cases h
    exact ⟨hv.modify (fun _ => rfl) (fun _ hk => .inl hk) (fun _ hb _ => .inl hb),
      hc ▸ d.grows_modify c _, rfl⟩
  · cases h

/-- A WITH name in reach stands for a done scope. -/
theorem Detector.Valid.lookupCte {t : TableName} {r : Option Nat} (hv : d.Valid)
    (h : (Detect.lookupCte t).run.run d = (.ok r, d')) :
    d' = d ∧ ∀ {k}, r = some k → d.arena.Done k := by
  rw [Detect.run_lookupCte] at h
  obtain ⟨h, rfl⟩ := Prod.mk.inj h
  cases h
  refine ⟨rfl, fun {k} hk => ?_⟩
  split at hk
  · cases hk
  · obtain ⟨_, f, _, hframes, hf, -⟩ := List.findSome?_eq_some_iff.mp hk
    obtain ⟨l₁, l₂, rfl, -⟩ := List.lookup_eq_some_iff.mp hf
    have hmem : l₁ ++ (t.name, k) :: l₂ ∈ d.frames := by simp [hframes]
    exact hv.closed.ctes hmem (List.mem_append_right _ List.mem_cons_self)

/-- The columns one binding adds to a wildcard read by name only the scope
the binding stands for. -/
theorem expandBinding_reads {cat : Catalog} {A : ScopeArena} {q : Option TableName}
    {acc : List Field × List String} {b : Binding} {k : Nat}
    (hk : Field.ListReadsScope (Detect.expandBinding cat A q acc b).1 k) :
    Field.ListReadsScope acc.1 k ∨ b.target = .scope k := by
  unfold Detect.expandBinding at hk
  obtain ⟨f, hf, hfk⟩ := Field.listReadsScope_iff.mp hk
  have hacc : f ∈ acc.1 → Field.ListReadsScope acc.1 k ∨ b.target = .scope k :=
    fun h => .inl (Field.listReadsScope_iff.mpr ⟨f, h, hfk⟩)
  split at hf
  · rename_i child hb
    split at hf
    · exact hacc hf
    · rcases List.mem_append.mp hf with h | h
      · exact hacc h
      · obtain ⟨_, -, rfl⟩ := List.mem_map.mp h
        simp only [Field.ReadsScope, Origin.scope.injEq] at hfk
        exact .inr (hfk ▸ hb)
  · split at hf
    · rcases List.mem_append.mp hf with h | h
      · exact hacc h
      · obtain ⟨_, -, rfl⟩ := List.mem_map.mp h
        simp [Field.ReadsScope] at hfk
    · rcases List.mem_append.mp hf with h | h
      · exact hacc h
      · simp only [List.mem_singleton] at h
        subst h
        simp [Field.ReadsScope] at hfk

theorem foldl_expandBinding_reads {cat : Catalog} {A : ScopeArena} {q : Option TableName} {k : Nat} :
    ∀ (bs : List Binding) (acc : List Field × List String),
      Field.ListReadsScope (bs.foldl (Detect.expandBinding cat A q) acc).1 k →
        Field.ListReadsScope acc.1 k ∨ ∃ b ∈ bs, b.target = .scope k
  | [], _, hk => .inl hk
  | b :: bs, acc, hk => by
    rcases foldl_expandBinding_reads bs _ hk with hk | ⟨b', hb', hk⟩
    · rcases expandBinding_reads hk with hk | hk
      · exact .inl hk
      · exact .inr ⟨b, List.mem_cons_self, hk⟩
    · exact .inr ⟨b', List.mem_cons_of_mem _ hb', hk⟩

/-- Expanding a wildcard changes only the warnings and the events, and the
columns it gives read by name only scopes that bindings stand for. -/
theorem Detector.Valid.expandWildcard {q : Option TableName} {fs : List Field} (hv : d.Valid)
    (h : (Detect.expandWildcard q).run.run d = (.ok fs, d')) :
    d'.Valid ∧ d.Quiet none d' ∧ d'.ReadsDone fs := by
  rw [Detect.run_expandWildcard] at h
  split at h
  · cases h
  · rename_i S hS
    cases h
    refine ⟨⟨hv.shaped, hv.closed.reads, hv.closed.targets, hv.closed.ctes⟩,
      ⟨⟨rfl, rfl, rfl, Nat.le_refl _, fun _ _ _ => rfl, rfl⟩, rfl⟩, ?_⟩
    intro k hk
    obtain ⟨c, -, hc⟩ := Option.bind_eq_some_iff.mp hS
    rcases foldl_expandBinding_reads _ _ hk with hk | ⟨b, hb, hbk⟩
    · unfold Detect.wildcardStart at hk
      split at hk <;> simp [Field.ListReadsScope, Field.ReadsScope] at hk
    · refine hv.closed.targets ⟨c, S, b, hc, ?_, hbk⟩
      unfold Detect.wildcardBindings at hb
      split at hb
      · obtain ⟨b', hb', rfl⟩ : ∃ b', Bindings.findQualified S _ = some b' ∧ b' = b := by
          simpa using hb
        exact List.mem_of_find?_eq_some hb'
      · exact hb

/-- The outputs of a set operation read by name only its operands. -/
theorem setOutputs_reads {A : ScopeArena} {operands : List Nat} {k : Nat}
    (hk : Field.ListReadsScope (Detect.setOutputs A operands) k) : k ∈ operands := by
  unfold Detect.setOutputs at hk
  split at hk
  · simp [Field.ListReadsScope] at hk
  · obtain ⟨f, hf, hfk⟩ := Field.listReadsScope_iff.mp hk
    obtain ⟨_, -, rfl⟩ := List.mem_map.mp hf
    obtain ⟨g, hg, hgk⟩ := Field.listReadsScope_iff.mp hfk
    obtain ⟨op, hop, hg⟩ := List.mem_filterMap.mp hg
    obtain ⟨S, -, hS⟩ := Option.bind_eq_some_iff.mp hg
    obtain ⟨g', -, rfl⟩ := Option.map_eq_some_iff.mp hS
    simp only [Field.ofColumn, Field.ReadsScope, Origin.scope.injEq] at hgk
    exact hgk ▸ hop

end Steps

end ColumnLineage
