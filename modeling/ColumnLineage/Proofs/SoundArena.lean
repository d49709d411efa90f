import ColumnLineage.Proofs.Mentions
import ColumnLineage.Proofs.ClosedWalk
import ColumnLineage.Proofs.ScopeStack
/-
ColumnLineage/Proofs/SoundArena.lean

What every reference in the arena is, while a statement is walked. The
outputs of a scope are computed from leaves: columns, scalar subqueries,
literals and wildcards left unexpanded (`Field.leaves`). For a statement that
writes the names `M`, every leaf is grounded (`Detector.Grounded`):

* a column not placed yet is read as written, at no place;
* a column read from a table names a table the statement writes, under a
  column it writes or one the catalog lists for that table;
* a column read from a scope points to a done scope, under a name the
  statement writes or at a place of that scope's outputs that has its name;
* an ambiguous or unbound column keeps a qualifier the statement writes;
* a scalar subquery is a done scope, a wildcard a table the statement writes.

The invariant (`Detector.Sound`) adds that every scope sits at its own id,
that every table a FROM clause binds is written, that the outputs of a done
scope wait for no placing, that the scopes nest (`ScopeArena.Nested`), and
that the done scopes can be listed in the order they were closed so that each
points only to scopes listed before it (`ScopeArena.ClosingOrder`). The order
is not kept by the walk: the proof builds it, one scope at each close, and
it is the order `ScopeArena.ClosesBefore` reads off the arena, innermost
scopes first.

Every step of the walk keeps the invariant; the steps are proved here, the
walk in `Proofs/SoundWalk`. Opening a scope and binding names change only
open scopes, so what is done stays as it was (`Detector.KeepsDone`); closing
a scope needs its outputs placed, which completing it does.
-/

namespace ColumnLineage

open Run Detect

/-! ### The leaves of a field -/

mutual

/-- The fields a field is computed from, down to those computed from no other
field. -/
def Field.leaves : Field → List Field
  | .derived _ ds _ => Field.listLeaves ds
  | f => [f]

/-- The leaves of each of the fields in turn. -/
def Field.listLeaves : List Field → List Field
  | [] => []
  | f :: fs => f.leaves ++ Field.listLeaves fs

end

namespace Field

variable {n : String} {ref : ColumnRef} {p : Transformation}

@[simp] theorem listLeaves_nil : listLeaves [] = [] := by simp [listLeaves]

@[simp] theorem listLeaves_cons (f : Field) (fs : List Field) :
    listLeaves (f :: fs) = f.leaves ++ listLeaves fs := by simp [listLeaves]

@[simp] theorem leaves_column : (Field.column n ref p).leaves = [.column n ref p] := by
  simp [leaves]

@[simp] theorem leaves_derived (ds : List Field) : (Field.derived n ds p).leaves = listLeaves ds := by
  simp [leaves]

@[simp] theorem leaves_scalar (k : Nat) : (Field.scalar n k p).leaves = [.scalar n k p] := by
  simp [leaves]

@[simp] theorem leaves_constant : (Field.constant n p).leaves = [.constant n p] := by
  simp [leaves]

@[simp] theorem leaves_wildcard (t : Option TableName) :
    (Field.wildcard n t p).leaves = [.wildcard n t p] := by
  simp [leaves]

@[simp] theorem listLeaves_append (fs gs : List Field) :
    listLeaves (fs ++ gs) = listLeaves fs ++ listLeaves gs := by
  induction fs with
  | nil => rfl
  | cons f fs ih => simp [ih]

theorem mem_listLeaves {fs : List Field} {g : Field} :
    g ∈ listLeaves fs ↔ ∃ f ∈ fs, g ∈ f.leaves := by
  induction fs with
  | nil => simp
  | cons f fs ih => simp [ih]

/-- A leaf refers to scope `k`: it reads an output of `k` by name, or it is
the value of `k` as a scalar subquery. -/
def Refers : Field → Nat → Prop
  | .column _ ref _, k => ref.origin = .scope k
  | .scalar _ c _, k => c = k
  | _, _ => False

/-- A leaf waits to be placed: a column whose origin is not known yet. -/
def IsPending : Field → Prop
  | .column _ ref _ => ref.origin = .pending
  | _ => False

end Field

/-- Scope `S` holds a reference to scope `k`: a name of its FROM clause stands
for `k`, or a leaf of one of its outputs refers to `k`. -/
def Scope.Holds (S : Scope) (k : Nat) : Prop :=
  (∃ b ∈ S.bindings, b.target = .scope k) ∨ ∃ g ∈ Field.listLeaves S.fields, g.Refers k

/-! ### Grounded leaves -/

section Grounded

variable (M : List Mention) (d : Detector)

/-- What a column reference may be in `d`, for a statement that writes `M`. -/
def Detector.RefGrounded (ref : ColumnRef) : Prop :=
  match ref.origin with
  | .pending => ref.position = none ∧ ∀ m ∈ ref.written, m ∈ M
  | .table t => .table t ∈ M ∧
      (.column ref.column ∈ M ∨ ∃ cols, d.catalog.columns? t = some cols ∧ ref.column ∈ cols)
  | .scope c => d.arena.Done c ∧
      match ref.position with
      | none => .column ref.column ∈ M
      | some p => ∃ C g, d.arena.get? c = some C ∧ C.fields[p]? = some g ∧ g.name = ref.column
  | .ambiguous _ | .unbound => ∀ q, ref.qualifier = some q → .qualifier q ∈ M

/-- What a leaf may be in `d`, for a statement that writes `M`. -/
def Detector.Grounded : Field → Prop
  | .column _ ref _ => d.RefGrounded M ref
  | .scalar _ k _ => d.arena.Done k
  | .wildcard _ (some t) _ => .table t ∈ M
  | _ => True

/-- Every leaf of the fields is grounded. -/
def Detector.AllGrounded (fs : List Field) : Prop :=
  ∀ g ∈ Field.listLeaves fs, d.Grounded M g

end Grounded

/-- `d'` keeps what is finished in `d`: the same catalog, and every done
scope done still, unchanged. -/
def Detector.KeepsDone (d d' : Detector) : Prop :=
  d'.catalog = d.catalog ∧ ∀ {k}, d.arena.Done k → d'.arena.Done k ∧ d'.arena.get? k = d.arena.get? k

namespace Detector

variable {M : List Mention} {d d' d'' : Detector}

theorem KeepsDone.refl (d : Detector) : d.KeepsDone d := ⟨rfl, fun hk => ⟨hk, rfl⟩⟩

theorem KeepsDone.trans (h : d.KeepsDone d') (h' : d'.KeepsDone d'') : d.KeepsDone d'' :=
  ⟨h'.1.trans h.1, fun hk => ⟨(h'.2 (h.2 hk).1).1, (h'.2 (h.2 hk).1).2.trans (h.2 hk).2⟩⟩

/-- A step that leaves every scope as it was, but perhaps an open one, keeps
what is done. -/
theorem Grows.keepsDone {c : Option Nat} (h : d.Grows c d')
    (hc : ∀ {k}, c = some k → k ∈ d.arena.stack) : d.KeepsDone d' :=
  ⟨h.catalog, fun hk => ⟨h.done hk, h.scopes _ hk.1 fun hck => hk.2 (hc hck)⟩⟩

theorem Quiet.keepsDone (h : d.Quiet none d') : d.KeepsDone d' :=
  h.1.keepsDone fun hc => by cases hc

theorem Here.keepsDone (h : d.Here d') : d.KeepsDone d' :=
  Grows.keepsDone h.1 fun hc => List.mem_of_mem_head? hc

theorem RefGrounded.keep {ref : ColumnRef} (h : d.RefGrounded M ref) (hk : d.KeepsDone d') :
    d'.RefGrounded M ref := by
  unfold RefGrounded at h ⊢
  rcases ho : ref.origin with _ | t | c | labels | _ <;> simp only [ho] at h ⊢
  · exact h
  · rw [hk.1]
    exact h
  · refine ⟨(hk.2 h.1).1, ?_⟩
    rcases hp : ref.position with _ | p <;> simp only [hp] at h ⊢
    · exact h.2
    · rw [(hk.2 h.1).2]
      exact h.2
  · exact h
  · exact h

theorem Grounded.keep {g : Field} (h : d.Grounded M g) (hk : d.KeepsDone d') : d'.Grounded M g := by
  match g with
  | .column _ ref _ => exact RefGrounded.keep h hk
  | .scalar _ c _ => exact (hk.2 h).1
  | .wildcard _ (some _) _ | .wildcard _ none _ | .derived .. | .constant .. => exact h

theorem AllGrounded.keep {fs : List Field} (h : d.AllGrounded M fs) (hk : d.KeepsDone d') :
    d'.AllGrounded M fs :=
  fun g hg => (h g hg).keep hk

theorem AllGrounded.nil (d : Detector) : d.AllGrounded M [] := by
  simp [AllGrounded]

theorem AllGrounded.append {fs gs : List Field} (hf : d.AllGrounded M fs) (hg : d.AllGrounded M gs) :
    d.AllGrounded M (fs ++ gs) := by
  intro g hmem
  rw [Field.listLeaves_append, List.mem_append] at hmem
  rcases hmem with h | h
  · exact hf g h
  · exact hg g h

theorem AllGrounded.addInput {acc : List Field} {f : Field} (hacc : d.AllGrounded M acc)
    (hf : d.AllGrounded M [f]) : d.AllGrounded M (addInput f acc) := by
  unfold ColumnLineage.addInput
  split
  · exact hacc
  · exact hacc.append hf

theorem AllGrounded.exprField {inputs : List Field} (h : d.AllGrounded M inputs) (name : String)
    (e : Sql.Expr) : d.AllGrounded M [exprField name e inputs] := by
  -- a constant when nothing feeds it, else computed from its inputs, whatever its process
  have hany : ∀ P, d.AllGrounded M
      [if inputs.isEmpty then Field.constant name P else Field.derived name inputs P] := by
    intro P g hg
    by_cases hi : inputs.isEmpty
    · simp only [hi, if_true, Field.listLeaves_cons, Field.leaves_constant, Field.listLeaves_nil,
        List.append_nil, List.mem_singleton] at hg
      subst hg
      trivial
    · simp only [hi, Bool.false_eq_true, if_false, Field.listLeaves_cons, Field.leaves_derived,
        Field.listLeaves_nil, List.append_nil] at hg
      exact h g hg
  exact hany _

end Detector

/-! ### The invariant -/

/-- The done scopes of an arena, each once, in the order the walk closed
them, which is the order `ClosesBefore` says; every reference a done scope
holds points to a scope listed before it. -/
structure ScopeArena.ClosingOrder (A : ScopeArena) (order : List Nat) : Prop where
  nodup : order.Nodup
  mem : ∀ k, k ∈ order ↔ A.Done k
  before : ∀ {i S k}, A.get? i = some S → A.Done i → S.Holds k → order.idxOf k < order.idxOf i
  closes : ∀ {k i}, A.Done k → A.Done i → (order.idxOf k < order.idxOf i ↔ A.ClosesBefore k i)

/-- The invariant of the walk over a statement that writes `M`. -/
structure Detector.Sound (M : List Mention) (d : Detector) : Prop where
  ids : ∀ {i S}, d.arena.get? i = some S → S.id = i
  grounded : ∀ {i S}, d.arena.get? i = some S → d.AllGrounded M S.fields
  tables : ∀ {i S b t}, d.arena.get? i = some S → b ∈ S.bindings → b.target = .table t →
    Mention.table t ∈ M
  placed : ∀ {i S}, d.arena.get? i = some S → d.arena.Done i →
    ∀ g ∈ Field.listLeaves S.fields, ¬ g.IsPending
  nested : d.arena.Nested
  order : ∃ order, d.arena.ClosingOrder order

namespace ScopeArena

variable {a : ScopeArena} {k : Nat}

theorem done_push_iff {s : Scope} : (a.push s).Done k ↔ a.Done k := by
  simp only [Done, size_push, stack_push, List.mem_cons, not_or]
  constructor
  · rintro ⟨hk, hne, hs⟩
    exact ⟨by omega, hs⟩
  · rintro ⟨hk, hs⟩
    exact ⟨by omega, by omega, hs⟩

theorem done_modify_iff {id : Nat} {f : Scope → Scope} : (a.modify id f).Done k ↔ a.Done k := by
  simp [Done]

/-- Closing the current scope makes it done, and nothing else. -/
theorem done_pop_iff (h : a.Shaped) {id : Nat} {rest : List Nat} (hs : a.stack = id :: rest) :
    ({ a with stack := rest } : ScopeArena).Done k ↔ a.Done k ∨ k = id := by
  have hid : id < a.size := h.stack_lt (hs ▸ List.mem_cons_self)
  have hnd := h.nodup
  rw [hs, List.nodup_cons] at hnd
  simp only [Done, size, hs, List.mem_cons, not_or] at hid ⊢
  constructor
  · rintro ⟨hk, hr⟩
    by_cases hki : k = id
    · exact .inr hki
    · exact .inl ⟨hk, hki, hr⟩
  · rintro (⟨hk, -, hr⟩ | rfl)
    · exact ⟨hk, hr⟩
    · exact ⟨hid, hnd.1⟩

end ScopeArena

namespace Detector

variable {M : List Mention} {d : Detector}

theorem keepsDone_push (s : Scope) : d.KeepsDone { d with arena := d.arena.push s } :=
  ⟨rfl, fun hk => ⟨ScopeArena.done_push_iff.mpr hk, ScopeArena.get?_push_of_lt hk.1⟩⟩

theorem keepsDone_modify {id : Nat} (hid : id ∈ d.arena.stack) (f : Scope → Scope) :
    d.KeepsDone { d with arena := d.arena.modify id f } :=
  ⟨rfl, fun hk => ⟨ScopeArena.done_modify_iff.mpr hk,
    ScopeArena.get?_modify_of_ne _ _ _ fun he => hk.2 (he ▸ hid)⟩⟩

theorem keepsDone_pop {id : Nat} {rest : List Nat} (hs : d.arena.stack = id :: rest) :
    d.KeepsDone { d with arena := { d.arena with stack := rest } } :=
  ⟨rfl, fun hk => ⟨⟨hk.1, fun hr => hk.2 (hs ▸ List.mem_cons_of_mem _ hr)⟩, rfl⟩⟩

/-- A reference held by a scope points to a done scope. -/
theorem Sound.holds_done (h : d.Sound M) (hv : d.Valid) {i k : Nat} {S : Scope}
    (hS : d.arena.get? i = some S) (hk : S.Holds k) : d.arena.Done k := by
  rcases hk with ⟨b, hb, hbk⟩ | ⟨g, hg, hgk⟩
  · exact hv.closed.targets ⟨i, S, b, hS, hb, hbk⟩
  · have hgr := h.grounded hS g hg
    match g with
    | .column _ ref _ =>
      simp only [Field.Refers] at hgk
      simp only [Grounded, RefGrounded, hgk] at hgr
      exact hgr.1
    | .scalar _ c _ =>
      simp only [Field.Refers] at hgk
      subst hgk
      exact hgr

/-- A detector with no scope is sound. -/
theorem sound_of_size (hd : d.arena.size = 0) (hs : d.arena.stack = []) : d.Sound M := by
  have hnone : ∀ {i}, d.arena.get? i = none := ScopeArena.get?_eq_none (by omega)
  have hdone : ∀ {k}, ¬ d.arena.Done k := fun hk => by have := hk.1; omega
  refine ⟨fun hS => by simp [hnone] at hS, fun hS => by simp [hnone] at hS,
    fun hS => by simp [hnone] at hS, fun hS => by simp [hnone] at hS,
    .of_stack_nil (fun hS => by simp [hnone] at hS) hs, [], List.nodup_nil, fun k => ?_,
    fun hS => by simp [hnone] at hS, fun hk => absurd hk hdone⟩
  simp only [List.not_mem_nil, false_iff]
  exact hdone

/-- The invariant reads only the arena and the catalog. -/
theorem Sound.of_arena {d' : Detector} (h : d.Sound M) (ha : d'.arena = d.arena)
    (hc : d'.catalog = d.catalog) : d'.Sound M := by
  have hk : d.KeepsDone d' := ⟨hc, fun hk => ⟨ha ▸ hk, by rw [ha]⟩⟩
  obtain ⟨order, hord⟩ := h.order
  exact ⟨fun hS => h.ids (ha ▸ hS), fun hS => (h.grounded (ha ▸ hS)).keep hk,
    fun hS => h.tables (ha ▸ hS), fun hS hd => h.placed (ha ▸ hS) (ha ▸ hd), ha ▸ h.nested,
    order, ha ▸ hord⟩

/-- Opening a scope keeps the invariant: the new scope is empty and open. -/
theorem Sound.push (h : d.Sound M) (kind : ScopeKind) (aliasName : Option String) :
    ({ d with arena := d.arena.push (d.arena.opened kind aliasName) } : Detector).Sound M := by
  have hk := keepsDone_push (d := d) (d.arena.opened kind aliasName)
  obtain ⟨order, ho⟩ := h.order
  refine ⟨?_, ?_, ?_, ?_, h.nested.push kind aliasName, order, ho.nodup,
    fun k => (ho.mem k).trans ScopeArena.done_push_iff.symm, ?_, ?_⟩
  · intro i S hS
    rcases ScopeArena.get?_push_eq_some hS with ⟨rfl, rfl⟩ | hS
    · rfl
    · exact h.ids hS
  · intro i S hS
    rcases ScopeArena.get?_push_eq_some hS with ⟨-, rfl⟩ | hS
    · exact AllGrounded.nil _
    · exact (h.grounded hS).keep hk
  · intro i S b t hS hb
    rcases ScopeArena.get?_push_eq_some hS with ⟨-, rfl⟩ | hS
    · simp [ScopeArena.opened] at hb
    · exact h.tables hS hb
  · intro i S hS hd
    exact h.placed (by rwa [← (hk.2 (ScopeArena.done_push_iff.mp hd)).2])
      (ScopeArena.done_push_iff.mp hd)
  · intro i S k hS hd
    have hd := ScopeArena.done_push_iff.mp hd
    exact ho.before (by rwa [← (hk.2 hd).2]) hd
  · intro k i hk hi
    have hk := ScopeArena.done_push_iff.mp hk
    have hi := ScopeArena.done_push_iff.mp hi
    rw [ScopeArena.closesBefore_push h.nested.parentsBefore h.nested.linked kind aliasName
      hk.1 hi.1]
    exact ho.closes hk hi

/-- Changing an open scope keeps the invariant, when the scope stays at its id
under its parent, its new outputs are grounded and its new bindings bind
written tables. -/
theorem Sound.modify (h : d.Sound M) {id : Nat} (hid : id ∈ d.arena.stack) {f : Scope → Scope}
    (hself : ∀ S, (f S).id = S.id) (hparent : ∀ S, (f S).parent = S.parent)
    (hfields : ∀ {S}, d.arena.get? id = some S → d.AllGrounded M (f S).fields)
    (htables : ∀ {S b t}, d.arena.get? id = some S → b ∈ (f S).bindings → b.target = .table t →
      b ∈ S.bindings ∨ Mention.table t ∈ M) :
    ({ d with arena := d.arena.modify id f } : Detector).Sound M := by
  have hk := keepsDone_modify (d := d) hid f
  have hopen : ∀ {i}, d.arena.Done i → d.arena.get? i = (d.arena.modify id f).get? i :=
    fun hd => (hk.2 hd).2.symm
  obtain ⟨order, ho⟩ := h.order
  refine ⟨?_, ?_, ?_, ?_, h.nested.modify hparent, order, ho.nodup,
    fun k => (ho.mem k).trans ScopeArena.done_modify_iff.symm, ?_, ?_⟩
  · intro i S' hS'
    obtain ⟨S, hS, rfl | ⟨rfl, rfl⟩⟩ := ScopeArena.get?_modify_eq_some hS'
    · exact h.ids hS
    · rw [hself]
      exact h.ids hS
  · intro i S' hS'
    obtain ⟨S, hS, rfl | ⟨rfl, rfl⟩⟩ := ScopeArena.get?_modify_eq_some hS'
    · exact (h.grounded hS).keep hk
    · exact (hfields hS).keep hk
  · intro i S' b t hS' hb ht
    obtain ⟨S, hS, rfl | ⟨rfl, rfl⟩⟩ := ScopeArena.get?_modify_eq_some hS'
    · exact h.tables hS hb ht
    · rcases htables hS hb ht with hb | ht
      · exact h.tables hS hb ht
      · exact ht
  · intro i S' hS' hd
    have hd := ScopeArena.done_modify_iff.mp hd
    rw [← hopen hd] at hS'
    exact h.placed hS' hd
  · intro i S' k hS' hd
    have hd := ScopeArena.done_modify_iff.mp hd
    rw [← hopen hd] at hS'
    exact ho.before hS' hd
  · intro k i hk hi
    rw [ScopeArena.closesBefore_modify hparent]
    exact ho.closes (ScopeArena.done_modify_iff.mp hk) (ScopeArena.done_modify_iff.mp hi)

/-- Closing the current scope keeps the invariant once its outputs wait for no
placing: it goes last in the closing order, after every scope it points to,
and it closes after every scope done before. -/
theorem Sound.pop (h : d.Sound M) (hv : d.Valid) {id : Nat} {rest : List Nat}
    (hs : d.arena.stack = id :: rest)
    (hplaced : ∀ {S}, d.arena.get? id = some S → ∀ g ∈ Field.listLeaves S.fields, ¬ g.IsPending) :
    ({ d with arena := { d.arena with stack := rest } } : Detector).Sound M := by
  have hk := keepsDone_pop (d := d) hs
  have hdone := fun {k} => ScopeArena.done_pop_iff (k := k) hv.shaped hs
  obtain ⟨order, ho⟩ := h.order
  have hnot : id ∉ order := fun hm => ((ho.mem id).mp hm).2 (hs ▸ List.mem_cons_self)
  -- the scopes done before keep their places, and the closed scope comes last
  have hkeep : ∀ {k}, d.arena.Done k → (order ++ [id]).idxOf k = order.idxOf k :=
    fun hk => List.idxOf_append_of_mem ((ho.mem _).mpr hk)
  have hlast : (order ++ [id]).idxOf id = order.length := by
    rw [List.idxOf_append_of_notMem hnot, List.idxOf_cons_self, Nat.add_zero]
  have hbelow : ∀ {k}, d.arena.Done k → order.idxOf k < order.length :=
    fun hk => List.idxOf_lt_length_of_mem ((ho.mem _).mpr hk)
  refine ⟨h.ids, fun hS => (h.grounded hS).keep hk, h.tables, ?_, h.nested.pop hs,
    order ++ [id], ?_, ?_, ?_, ?_⟩
  · intro i S hS hd
    rcases hdone.mp hd with hd | rfl
    · exact h.placed hS hd
    · exact hplaced hS
  · refine List.nodup_append.mpr ⟨ho.nodup, by simp, fun a ha b hb hab => hnot ?_⟩
    rw [List.mem_singleton] at hb
    rwa [← hb, ← hab]
  · intro k
    rw [List.mem_append, List.mem_singleton, ho.mem k, hdone]
  · intro i S k hS hd hhold
    have hkd := h.holds_done hv hS hhold
    rw [hkeep hkd]
    rcases hdone.mp hd with hd | rfl
    · rw [hkeep hd]
      exact ho.before hS hd hhold
    · rw [hlast]
      exact hbelow hkd
  · intro k i hk hi
    rw [ScopeArena.closesBefore_withStack]
    rcases hdone.mp hk with hk | rfl <;> rcases hdone.mp hi with hi | rfl
    · rw [hkeep hk, hkeep hi]
      exact ho.closes hk hi
    · rw [hkeep hk, hlast]
      exact iff_of_true (hbelow hk) (h.nested.done_closesBefore_top hs hk)
    · rw [hkeep hi, hlast]
      exact iff_of_false (Nat.not_lt.mpr (Nat.le_of_lt (hbelow hi)))
        (h.nested.not_top_closesBefore_done hs hi)
    · exact iff_of_false (Nat.lt_irrefl _) (ScopeArena.closesBefore_irrefl h.nested.parentsBefore _)

end Detector

/-! ### Placing the columns of a completed scope -/

section Placing

variable {cat : Catalog} {A : ScopeArena}

/-- Where placing may point a column: nowhere, to an ambiguity, or where some
binding of the arena stands. -/
def ScopeArena.Bound (A : ScopeArena) (o : Origin) : Prop :=
  o = .unbound ∨ (∃ labels, o = .ambiguous labels) ∨
    ∃ i S b, A.get? i = some S ∧ b ∈ S.bindings ∧ o = b.target.origin

theorem ScopeArena.Bound.ne_pending {o : Origin} (h : A.Bound o) : o ≠ .pending := by
  rcases h with rfl | ⟨_, rfl⟩ | ⟨_, _, b, -, -, rfl⟩
  · nofun
  · nofun
  · cases b.target <;> nofun

theorem ScopeArena.Bound.of_modify {id : Nat} {f : Scope → Scope} {o : Origin}
    (h : (A.modify id f).Bound o) (hf : ∀ S, (f S).bindings = S.bindings) : A.Bound o := by
  rcases h with h | h | ⟨i, S', b, hS', hb, rfl⟩
  · exact .inl h
  · exact .inr (.inl h)
  · obtain ⟨S, hS, rfl | ⟨rfl, rfl⟩⟩ := ScopeArena.get?_modify_eq_some hS'
    · exact .inr (.inr ⟨i, S', b, hS, hb, rfl⟩)
    · exact .inr (.inr ⟨_, S, b, hS, hf S ▸ hb, rfl⟩)

namespace Bindings

theorem resolveIn_bound {S : Scope} {ref : ColumnRef} {o : Origin} {i : Nat}
    (hS : A.get? i = some S) (h : resolveIn cat A S ref = some o) : A.Bound o := by
  unfold resolveIn at h
  split at h
  · obtain ⟨b, hb, rfl⟩ := Option.map_eq_some_iff.mp h
    exact .inr (.inr ⟨i, S, b, hS, List.mem_of_find?_eq_some hb, rfl⟩)
  · split at h
    · cases h
    · rename_i b hb
      have hmem : b ∈ S.bindings.filter _ := hb ▸ List.mem_singleton_self b
      exact .inr (.inr ⟨i, S, b, hS, List.mem_of_mem_filter hmem, (Option.some.inj h).symm⟩)
    · exact .inr (.inl ⟨_, (Option.some.inj h).symm⟩)

/-- A column is placed where a binding of the arena stands, or nowhere, or in
an ambiguity. -/
theorem resolve_bound (id : Nat) (ref : ColumnRef) : A.Bound (resolve cat A id ref) := by
  unfold resolve
  generalize A.size + 1 = fuel
  generalize (some id : Option Nat) = start
  induction fuel generalizing start with
  | zero => exact .inl rfl
  | succ fuel ih =>
    rcases start with _ | i
    · exact .inl rfl
    · simp only [resolve.go]
      split
      · exact .inl rfl
      · rename_i S hS
        split
        · rename_i o ho
          exact resolveIn_bound hS ho
        · split
          · exact ih _
          · exact .inl rfl

/-- The inputs `JOIN ... USING` gives a column waiting to be placed: the
column, read where bindings of its scope stand. -/
theorem usingSides_some {id : Nat} {f : Field} {sides : List Field}
    (h : (usingSides cat A id f).1 = some sides) :
    ∃ n ref p, f = .column n ref p ∧ ref.origin = .pending ∧
      ∀ g ∈ sides, ∃ o, A.Bound o ∧ g = Field.ofColumn ref.column { ref with origin := o } := by
  unfold usingSides at h
  split at h
  · rename_i n ref p
    split at h
    · cases h
    · rename_i hcond
      split at h
      · cases h
      · rename_i S hS
        split at h
        · cases h
        · dsimp only at h
          split at h
          · obtain rfl := Option.some.inj h
            refine ⟨n, ref, p, rfl, ?_, ?_⟩
            · exact (by simpa using hcond : ref.origin = .pending ∧ _).1
            · intro g hg
              obtain ⟨b, hb, rfl⟩ := List.mem_map.mp hg
              exact ⟨_, .inr (.inr ⟨id, S, b, hS,
                List.mem_of_mem_take (List.mem_of_mem_filter hb), rfl⟩), rfl⟩
          · cases h
  · cases h

end Bindings

/-- A leaf of a placed field: a leaf that waited for nothing, kept as it was,
or one that waited, now pointing where placing points it, under the same
column and qualifier at the same place. -/
def Placement (A : ScopeArena) (g₀ g : Field) : Prop :=
  (g = g₀ ∧ ¬ g₀.IsPending) ∨
    ∃ n ref p n' p' o, g₀ = .column n ref p ∧ ref.origin = .pending ∧ A.Bound o ∧
      g = .column n' { ref with origin := o } p'

namespace Bindings

mutual

theorem placeField_leaves (id : Nat) :
    ∀ f {g}, g ∈ (placeField cat A id f).1.leaves → ∃ g₀ ∈ f.leaves, Placement A g₀ g
  | .column n ref p, g, hg => by
    simp only [placeField] at hg
    split at hg
    · -- a column of `JOIN ... USING`: one input per joined side
      rename_i sides _ hs
      obtain ⟨n', ref', p', hf, hpend, hsides⟩ := usingSides_some (by rw [hs])
      cases hf
      simp only [Field.leaves_derived] at hg
      obtain ⟨f', hf', hgf⟩ := Field.mem_listLeaves.mp hg
      obtain ⟨o, ho, rfl⟩ := hsides f' hf'
      simp only [Field.ofColumn, Field.leaves_column, List.mem_singleton] at hgf
      exact ⟨_, List.mem_singleton_self _, .inr ⟨_, _, _, _, _, o, rfl, hpend, ho, hgf⟩⟩
    · split at hg
      · rename_i hpend
        split at hg <;>
        · simp only [Field.leaves_column, List.mem_singleton] at hg
          exact ⟨_, List.mem_singleton_self _, .inr ⟨_, _, _, _, _, _, rfl, by simpa using hpend,
            resolve_bound id ref, hg⟩⟩
      · rename_i hpend
        simp only [Field.leaves_column, List.mem_singleton] at hg
        exact ⟨_, List.mem_singleton_self _, .inl ⟨hg, by simpa [Field.IsPending] using hpend⟩⟩
  | .derived n deps p, g, hg => by
    simp only [placeField, Field.leaves_derived] at hg ⊢
    exact placeFields_leaves id deps hg
  | .scalar n k p, g, hg => by
    simp only [placeField, Field.leaves_scalar, List.mem_singleton] at hg
    exact ⟨_, List.mem_singleton_self _, .inl ⟨hg, nofun⟩⟩
  | .constant n p, g, hg => by
    simp only [placeField, Field.leaves_constant, List.mem_singleton] at hg
    exact ⟨_, List.mem_singleton_self _, .inl ⟨hg, nofun⟩⟩
  | .wildcard n t p, g, hg => by
    simp only [placeField, Field.leaves_wildcard, List.mem_singleton] at hg
    exact ⟨_, List.mem_singleton_self _, .inl ⟨hg, nofun⟩⟩

theorem placeFields_leaves (id : Nat) :
    ∀ fs {g}, g ∈ Field.listLeaves (placeFields cat A id fs).1 →
      ∃ g₀ ∈ Field.listLeaves fs, Placement A g₀ g
  | [], g, hg => by simp [placeFields] at hg
  | f :: fs, g, hg => by
    simp only [placeFields, Field.listLeaves_cons, List.mem_append] at hg ⊢
    rcases hg with hg | hg
    · obtain ⟨g₀, hg₀, hpl⟩ := placeField_leaves id f hg
      exact ⟨g₀, .inl hg₀, hpl⟩
    · obtain ⟨g₀, hg₀, hpl⟩ := placeFields_leaves id fs hg
      exact ⟨g₀, .inr hg₀, hpl⟩

end

end Bindings

end Placing

namespace Detector

variable {M : List Mention} {d : Detector}

/-- A column waiting to be placed, placed where a binding of the arena stands,
stays grounded: the binding's table is written, its scope done, and the
column and qualifier are the written ones. -/
theorem RefGrounded.place (h : d.Sound M) (hv : d.Valid) {ref : ColumnRef} {o : Origin}
    (hr : d.RefGrounded M ref) (hpend : ref.origin = .pending) (ho : d.arena.Bound o) :
    d.RefGrounded M { ref with origin := o } := by
  simp only [RefGrounded, hpend] at hr
  obtain ⟨hpos, hwritten⟩ := hr
  have hcol : Mention.column ref.column ∈ M := hwritten _ List.mem_cons_self
  have hqual : ∀ q, ref.qualifier = some q → Mention.qualifier q ∈ M := fun q hq =>
    hwritten _ (List.mem_cons_of_mem _ (by simp [hq]))
  rcases ho with rfl | ⟨labels, rfl⟩ | ⟨i, S, b, hS, hb, rfl⟩
  · exact hqual
  · exact hqual
  · rcases ht : b.target with t | k <;> simp only [RefGrounded, BindingTarget.origin]
    · exact ⟨h.tables hS hb ht, .inl hcol⟩
    · exact ⟨hv.closed.targets ⟨i, S, b, hS, hb, ht⟩, by simpa [hpos] using hcol⟩

/-- Completing an open scope keeps the invariant, and leaves its outputs
waiting for no placing. -/
theorem Sound.finalize (h : d.Sound M) (hv : d.Valid) {id : Nat} (hid : id ∈ d.arena.stack) :
    ({ d with arena := (Bindings.finalize d.catalog d.arena id).1 } : Detector).Sound M ∧
      ∀ {S}, (Bindings.finalize d.catalog d.arena id).1.get? id = some S →
        ∀ g ∈ Field.listLeaves S.fields, ¬ g.IsPending := by
  rw [Bindings.finalize_arena]
  split
  · rename_i hnone
    exact ⟨h.of_arena rfl rfl, fun hS => by simp [hnone] at hS⟩
  · rename_i S₀ hS₀
    -- every placed leaf comes from a grounded leaf of the scope's outputs
    have hplaced : ∀ g ∈ Field.listLeaves (Bindings.placeFields d.catalog
        (d.arena.modify id fun s => { s with fields := [] }) id S₀.fields).1,
        d.Grounded M g ∧ ¬ g.IsPending := by
      intro g hg
      obtain ⟨g₀, hg₀, hpl⟩ := Bindings.placeFields_leaves id S₀.fields hg
      rcases hpl with ⟨rfl, hnp⟩ | ⟨n, ref, p, n', p', o, rfl, hpend, ho, rfl⟩
      · exact ⟨h.grounded hS₀ _ hg₀, hnp⟩
      · have ho' := ho.of_modify fun _ => rfl
        exact ⟨RefGrounded.place h hv (h.grounded hS₀ _ hg₀) hpend ho',
          by simpa [Field.IsPending] using ho'.ne_pending⟩
    refine ⟨h.modify hid (fun _ => rfl) (fun _ => rfl) (fun _ g hg => (hplaced g hg).1)
      (fun _ hb _ => .inl hb), fun hS g hg => ?_⟩
    rw [ScopeArena.get?_modify_self, hS₀] at hS
    obtain rfl := Option.some.inj hS
    exact (hplaced g hg).2

/-! ### Expanding a wildcard and the outputs of a set operation -/

/-- The columns a wildcard of scope `S` expands to are grounded: each is read
from a done scope at a place of its outputs, from a written table under a
column the catalog lists, or left unexpanded for a written table. -/
theorem Sound.wildcardFields (h : d.Sound M) (hv : d.Valid) {i : Nat} {S : Scope}
    (hS : d.arena.get? i = some S) (q : Option TableName) :
    d.AllGrounded M (Detect.wildcardFields d.catalog d.arena S q).1 := by
  have hstep : ∀ b ∈ S.bindings, ∀ acc : List Field × List String, d.AllGrounded M acc.1 →
      d.AllGrounded M (Detect.expandBinding d.catalog d.arena q acc b).1 := by
    intro b hb acc hacc
    unfold Detect.expandBinding
    split
    · rename_i child ht
      split
      · exact hacc
      · rename_i cs hcs
        refine hacc.append fun g hg => ?_
        obtain ⟨f, hf, hgf⟩ := Field.mem_listLeaves.mp hg
        obtain ⟨⟨f', k⟩, hfk, rfl⟩ := List.mem_map.mp hf
        simp only [Field.leaves_column, List.mem_singleton] at hgf
        subst hgf
        exact ⟨hv.closed.targets ⟨i, S, b, hS, hb, ht⟩, cs, f', hcs,
          List.mem_zipIdx_iff_getElem?.mp hfk, rfl⟩
    · rename_i t ht
      have htable := h.tables hS hb ht
      split
      · rename_i cols hcols
        refine hacc.append fun g hg => ?_
        obtain ⟨f, hf, hgf⟩ := Field.mem_listLeaves.mp hg
        obtain ⟨c, hc, rfl⟩ := List.mem_map.mp hf
        simp only [Field.leaves_column, List.mem_singleton] at hgf
        subst hgf
        exact ⟨htable, .inr ⟨cols, hcols, hc⟩⟩
      · refine hacc.append fun g hg => ?_
        simp only [Field.listLeaves_cons, Field.leaves_wildcard, Field.listLeaves_nil,
          List.append_nil, List.mem_singleton] at hg
        subst hg
        exact htable
  have hbindings : ∀ b ∈ Detect.wildcardBindings S q, b ∈ S.bindings := by
    intro b hb
    unfold Detect.wildcardBindings at hb
    split at hb
    · obtain ⟨b', hb', rfl⟩ : ∃ b', Bindings.findQualified S _ = some b' ∧ b' = b := by
        simpa using hb
      exact List.mem_of_find?_eq_some hb'
    · exact hb
  unfold Detect.wildcardFields
  -- the fold adds the columns of one binding at a time
  generalize Detect.wildcardBindings S q = bs at hbindings ⊢
  have hstart : d.AllGrounded M (Detect.wildcardStart q bs).1 := by
    unfold Detect.wildcardStart
    split
    · intro g hg
      simp only [Field.listLeaves_cons, Field.leaves_wildcard, Field.listLeaves_nil,
        List.append_nil, List.mem_singleton] at hg
      subst hg
      trivial
    · exact AllGrounded.nil _
  generalize Detect.wildcardStart q bs = acc at hstart ⊢
  induction bs generalizing acc with
  | nil => exact hstart
  | cons b bs ih =>
    exact ih (fun b' hb' => hbindings b' (List.mem_cons_of_mem _ hb')) _
      (hstep b (hbindings b List.mem_cons_self) acc hstart)

/-- A leaf of the outputs of a set operation reads an operand at the place of
its output. -/
theorem setOutputs_leaf {A : ScopeArena} {operands : List Nat} {g : Field}
    (hg : g ∈ Field.listLeaves (Detect.setOutputs A operands)) :
    ∃ op ∈ operands, ∃ S f k, A.get? op = some S ∧ S.fields[k]? = some f ∧
      g = Field.ofColumn f.name
        { qualifier := none, column := f.name, position := some k, origin := .scope op } := by
  unfold Detect.setOutputs at hg
  split at hg
  · simp at hg
  · obtain ⟨f, hf, hgf⟩ := Field.mem_listLeaves.mp hg
    obtain ⟨⟨f₀, k⟩, -, rfl⟩ := List.mem_map.mp hf
    simp only [Field.leaves_derived] at hgf
    obtain ⟨g', hg', hgg'⟩ := Field.mem_listLeaves.mp hgf
    obtain ⟨op, hop, hg'⟩ := List.mem_filterMap.mp hg'
    obtain ⟨S, hS, hS'⟩ := Option.bind_eq_some_iff.mp hg'
    obtain ⟨f', hf', rfl⟩ := Option.map_eq_some_iff.mp hS'
    simp only [Field.ofColumn, Field.leaves_column, List.mem_singleton] at hgg'
    exact ⟨op, hop, S, f', k, hS, hf', hgg'⟩

/-- The outputs of a set operation over done operands are grounded and wait
for no placing. -/
theorem allGrounded_setOutputs {operands : List Nat} (hops : ∀ op ∈ operands, d.arena.Done op) :
    d.AllGrounded M (Detect.setOutputs d.arena operands) ∧
      ∀ g ∈ Field.listLeaves (Detect.setOutputs d.arena operands), ¬ g.IsPending := by
  refine ⟨fun g hg => ?_, fun g hg => ?_⟩ <;>
    obtain ⟨op, hop, S, f, k, hS, hf, rfl⟩ := setOutputs_leaf hg
  · exact ⟨hops op hop, S, f, hS, hf, rfl⟩
  · simp [Field.ofColumn, Field.IsPending]

end Detector

/-! ### Columns as written -/

/-- A column named by an expression is read as written: not placed, at no
place. -/
theorem columnRef_written {e : Sql.Expr} {ref : ColumnRef} (h : columnRef e = some ref)
    (env : List String) :
    ref.origin = .pending ∧ ref.position = none ∧ ref.written ⊆ Mentions.expr env e := by
  fun_induction columnRef e with
  | case1 i =>
    cases h
    exact ⟨rfl, rfl, List.Subset.refl _⟩
  | case2 parts => simp at h
  | case3 parts c rest hrev =>
    cases h
    refine ⟨rfl, rfl, ?_⟩
    have hc : columnRef (.compound parts) =
        some { qualifier := TableName.ofParts rest.reverse, column := c.value } := by
      simp only [columnRef, hrev]
    rw [Mentions.expr_compound hc]
    exact List.Subset.refl _
  | case4 e ih => exact ih h
  | case5 => simp at h

theorem Detector.allGrounded_written {M : List Mention} (d : Detector) {e : Sql.Expr}
    {ref : ColumnRef} {env : List String} (h : columnRef e = some ref)
    (hM : Mentions.expr env e ⊆ M) : d.AllGrounded M [Field.ofColumn ref.column ref] := by
  obtain ⟨ho, hp, hw⟩ := columnRef_written h env
  intro g hg
  simp only [Field.ofColumn, Field.listLeaves_cons, Field.leaves_column, Field.listLeaves_nil,
    List.append_nil, List.mem_singleton] at hg
  subst hg
  simp only [Detector.Grounded, Detector.RefGrounded, ho]
  exact ⟨hp, fun m hm => hM (hw hm)⟩

/-! ### The WITH names in reach -/

/-- Every WITH name of `env` is defined in some frame of the detector. -/
def Detector.Covers (env : List String) (d : Detector) : Prop :=
  ∀ n ∈ env, ∃ f ∈ d.frames, ∃ k, (n, k) ∈ f

namespace Detector

variable {env : List String} {d d' : Detector}

theorem Covers.of_frames (h : d.Covers env) (hf : d'.frames = d.frames) : d'.Covers env := by
  intro n hn
  rw [hf]
  exact h n hn

theorem Covers.pushFrame (h : d.Covers env) :
    ({ d with frames := [] :: d.frames } : Detector).Covers env := by
  intro n hn
  obtain ⟨f, hf, k, hk⟩ := h n hn
  exact ⟨f, List.mem_cons_of_mem _ hf, k, hk⟩

theorem Covers.addCte (h : d.Covers env) (hne : d.frames ≠ []) (name : String) (id : Nat) :
    (({ d with frames := match d.frames with
        | [] => []
        | f :: fs => ((name, id) :: f) :: fs } : Detector)).Covers (env ++ [name]) := by
  obtain ⟨f₀, fs, hfs⟩ := List.exists_cons_of_ne_nil hne
  intro n hn
  simp only [hfs]
  rcases List.mem_append.mp hn with hn | hn
  · obtain ⟨f, hf, k, hk⟩ := h n hn
    rw [hfs] at hf
    rcases List.mem_cons.mp hf with rfl | hf
    · exact ⟨_, List.mem_cons_self, k, List.mem_cons_of_mem _ hk⟩
    · exact ⟨f, List.mem_cons_of_mem _ hf, k, hk⟩
  · rw [List.mem_singleton] at hn
    subst hn
    exact ⟨_, List.mem_cons_self, id, List.mem_cons_self⟩

/-- A table reference that no WITH name in reach stands for names a table the
statement writes. -/
theorem Covers.table (h : d.Covers env) {t : TableName}
    (hl : (lookupCte t).run.run d = (.ok none, d')) : Mentions.table env t = [.table t] := by
  rw [run_lookupCte] at hl
  have hnone := Except.ok.inj (Prod.mk.inj hl).1
  unfold Mentions.table
  by_cases hdb : t.database.isSome
  · simp [Option.isNone_iff_eq_none, Option.isSome_iff_ne_none.mp hdb]
  · simp only [hdb, Bool.false_eq_true, if_false, List.findSome?_eq_none_iff] at hnone
    have hname : t.name ∉ env := by
      intro hn
      obtain ⟨f, hf, k, hk⟩ := h _ hn
      have := List.lookup_eq_none_iff.mp (hnone f hf) _ hk
      simp at this
    simp [hname]

end Detector

end ColumnLineage
