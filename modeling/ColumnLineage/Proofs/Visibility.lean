import ColumnLineage.Proofs.UsingFanIn
import ColumnLineage.Proofs.SoundWalk
/-
ColumnLineage/Proofs/Visibility.lean

Where an unqualified column is placed. A column read in a scope without a
qualifier is looked for along the visibility chain of that scope: the scope
itself, then, as long as the scope reached is a scalar subquery, a subquery
of a condition or an operand of a set operation, its parent. A binding is a
candidate for the column when it may supply it: a table the catalog lists the
column for or does not know, or a scope that outputs the column or a wildcard
left unexpanded (`Binding.maySupply`).

`Places` says declaratively where the column goes: to the one candidate of
the first scope on the chain that has candidates, to an ambiguity between all
of that scope's candidates, labelled in the order of its FROM clause, or
nowhere when no scope on the chain has one. On every arena the walk keeps
(`ScopeArena.Linked`), `Bindings.resolve` places the column exactly there
(`resolve_eq_iff_places`), although it walks the chain with a bound on its
steps: a parent is always opened before its child, so the chain is shorter
than the arena.

Main statement (`placeField_unqualified`): placing such a column gives it
that origin, raises one warning of an ambiguous column exactly when the
origin is an ambiguity, and the walk to sources then gives the column the
one ambiguous source, whatever it read before; a qualified column is never
ambiguous.
-/

namespace ColumnLineage

/-- What placing a column relies on in an arena: every scope's parent was
opened before it, and every scope a binding stands for is in the arena. -/
structure ScopeArena.Linked (A : ScopeArena) : Prop where
  parent_lt : ∀ {i S p}, A.get? i = some S → S.parent = some p → p < i
  target_lt : ∀ {i S b k}, A.get? i = some S → b ∈ S.bindings → b.target = .scope k → k < A.size

/-- Every arena of the walk is linked. -/
theorem Detector.Valid.linked {d : Detector} (hv : d.Valid) : d.arena.Linked where
  parent_lt := hv.shaped.parent_lt
  target_lt hS hb hk := (hv.closed.targets ⟨_, _, _, hS, hb, hk⟩).1

/-- Changing a scope without touching its parent or its bindings keeps the
arena linked: what completing a scope does to the arena it places in. -/
theorem ScopeArena.Linked.modify {A : ScopeArena} (h : A.Linked) {id : Nat} {f : Scope → Scope}
    (hparent : ∀ S, (f S).parent = S.parent) (hbind : ∀ S, (f S).bindings = S.bindings) :
    (A.modify id f).Linked where
  parent_lt {i S p} hS hp := by
    obtain ⟨S₀, hS₀, hS'⟩ := ScopeArena.get?_modify_eq_some hS
    rcases hS' with rfl | ⟨-, rfl⟩
    · exact h.parent_lt hS₀ hp
    · exact h.parent_lt hS₀ (by rwa [hparent] at hp)
  target_lt {i S b k} hS hb hk := by
    rw [ScopeArena.size_modify]
    obtain ⟨S₀, hS₀, hS'⟩ := ScopeArena.get?_modify_eq_some hS
    rcases hS' with rfl | ⟨-, rfl⟩
    · exact h.target_lt hS₀ hb hk
    · exact h.target_lt hS₀ (by rwa [hbind] at hb) hk

/-- Completing a scope places its outputs in the arena with those outputs set
aside; on every arena of the walk, that arena is linked. -/
theorem Detector.Valid.placing_linked {d : Detector} (hv : d.Valid) (id : Nat) :
    (d.arena.modify id fun s => { s with fields := [] }).Linked :=
  hv.linked.modify (fun _ => rfl) (fun _ => rfl)

/-- Whether binding `b` may supply column `c`: a table the catalog lists `c`
for or does not know, or a scope that outputs `c` or a wildcard left
unexpanded. -/
def Binding.maySupply (cat : Catalog) (A : ScopeArena) (c : String) (b : Binding) : Bool :=
  match b.target with
  | .table t => (cat.columns? t).all (·.contains c)
  | .scope k => (A.get? k).any fun S => S.fields.any (·.name == c) || S.fields.any Field.isStar

namespace Bindings

variable {cat : Catalog} {A : ScopeArena}

/-- The candidates of scope `S` for column `c`: its bindings that may supply
`c`, in the order of its FROM clause. -/
def candidates (cat : Catalog) (A : ScopeArena) (c : String) (S : Scope) : List Binding :=
  S.bindings.filter (Binding.maySupply cat A c)

/-- A binding says "no" to a column exactly when it may not supply it, as
long as the scope it stands for is in the arena. -/
theorem provides_ne_no {b : Binding} {c : String}
    (hk : ∀ k, b.target = .scope k → k < A.size) :
    (provides cat A b c != .no) = b.maySupply cat A c := by
  unfold provides Binding.maySupply
  rcases ht : b.target with t | k
  · -- a table: the catalog's answer, when it knows the table
    simp only [Catalog.hasColumn]
    rcases cat.columns? t with _ | cols
    · rfl
    · simp only [Option.map_some, Option.all_some]
      cases cols.contains c <;> rfl
  · -- a scope: its outputs, by name or through a wildcard
    obtain ⟨S, hS⟩ := ScopeArena.exists_get?_of_lt (hk k ht)
    simp only [hS, Option.any_some]
    cases S.fields.any (·.name == c) <;> cases S.fields.any Field.isStar <;> rfl

/-- On a linked arena, the bindings of a scope that may hold a column are its
candidates. -/
theorem filter_provides {i : Nat} {S : Scope} (hA : A.Linked) (hS : A.get? i = some S)
    (c : String) :
    S.bindings.filter (fun b => provides cat A b c != .no) = candidates cat A c S :=
  List.filter_congr fun _ hb => provides_ne_no fun _ hk => hA.target_lt hS hb hk

/-- Where an unqualified column `c` read in scope `i` goes: to the one
candidate of the first scope up the visibility chain that has candidates, to
an ambiguity between all of them when it has several, and nowhere when no
scope on the chain has a candidate. -/
inductive Places (cat : Catalog) (A : ScopeArena) (c : String) : Nat → Origin → Prop
  /-- the scope is not in the arena -/
  | missing {i} : A.get? i = none → Places cat A c i .unbound
  | one {i S b} : A.get? i = some S → candidates cat A c S = [b] →
      Places cat A c i b.target.origin
  | many {i S b₁ b₂ bs} : A.get? i = some S → candidates cat A c S = b₁ :: b₂ :: bs →
      Places cat A c i (.ambiguous ((b₁ :: b₂ :: bs).map Binding.label))
  /-- no candidate, and the chain ends here -/
  | stop {i S} : A.get? i = some S → candidates cat A c S = [] →
      S.kind.seesEnclosing = false ∨ S.parent = none → Places cat A c i .unbound
  /-- no candidate: look in the parent -/
  | up {i S p o} : A.get? i = some S → candidates cat A c S = [] →
      S.kind.seesEnclosing = true → S.parent = some p → Places cat A c p o → Places cat A c i o

/-- Within one scope, an unqualified column goes to its only candidate, to an
ambiguity between several, or, with none, further up. -/
theorem resolveIn_unqualified (hA : A.Linked) {i : Nat} {S : Scope} (hS : A.get? i = some S)
    {ref : ColumnRef} (hq : ref.qualifier = none) :
    resolveIn cat A S ref = match candidates cat A ref.column S with
      | [] => none
      | [b] => some b.target.origin
      | many => some (.ambiguous (many.map Binding.label)) := by
  -- split on the candidates, so that both matches reduce, however they were compiled
  rcases hc : candidates cat A ref.column S with _ | ⟨b, _ | ⟨b₂, bs⟩⟩ <;>
    simp only [resolveIn, hq, filter_provides hA hS, hc]

/-- The walk up the chain ends where `Places` says, given more steps than the
id it starts from: each step goes to a parent, which has a smaller id. -/
theorem resolve_go_of_places (hA : A.Linked) {ref : ColumnRef} (hq : ref.qualifier = none)
    {i : Nat} {o : Origin} (h : Places cat A ref.column i o) :
    ∀ fuel, i < fuel → resolve.go cat A ref fuel (some i) = o := by
  induction h with
  | missing hS =>
    intro fuel hfuel
    obtain ⟨fuel, rfl⟩ : ∃ f, fuel = f + 1 := ⟨fuel - 1, by omega⟩
    simp [resolve.go, hS]
  | one hS hc =>
    intro fuel hfuel
    obtain ⟨fuel, rfl⟩ : ∃ f, fuel = f + 1 := ⟨fuel - 1, by omega⟩
    simp [resolve.go, hS, resolveIn_unqualified hA hS hq, hc]
  | many hS hc =>
    intro fuel hfuel
    obtain ⟨fuel, rfl⟩ : ∃ f, fuel = f + 1 := ⟨fuel - 1, by omega⟩
    simp [resolve.go, hS, resolveIn_unqualified hA hS hq, hc]
  | stop hS hc hend =>
    intro fuel hfuel
    obtain ⟨fuel, rfl⟩ : ∃ f, fuel = f + 1 := ⟨fuel - 1, by omega⟩
    simp only [resolve.go, hS, resolveIn_unqualified hA hS hq, hc]
    rcases hend with hk | hp
    · simp [hk]
    · rw [hp]
      cases fuel <;> simp [resolve.go]
  | up hS hc hk hp _ ih =>
    intro fuel hfuel
    obtain ⟨fuel, rfl⟩ : ∃ f, fuel = f + 1 := ⟨fuel - 1, by omega⟩
    -- the parent has a smaller id, so one step fewer still suffices
    have hlt := hA.parent_lt hS hp
    simp only [resolve.go, hS, resolveIn_unqualified hA hS hq, hc, hk, if_true, hp]
    exact ih fuel (by omega)

/-- On a linked arena every scope places every unqualified column somewhere:
the chain up from a scope is finite, since parents have smaller ids. -/
theorem exists_places (hA : A.Linked) (c : String) (i : Nat) : ∃ o, Places cat A c i o := by
  induction i using Nat.strongRecOn with
  | _ i ih =>
    rcases hS : A.get? i with _ | S
    · exact ⟨_, .missing hS⟩
    rcases hc : candidates cat A c S with _ | ⟨b₁, _ | ⟨b₂, bs⟩⟩
    · -- no candidate: go up when the scope sees its parent, else stop
      rcases hp : S.parent with _ | p
      · exact ⟨_, .stop hS hc (.inr hp)⟩
      cases hk : S.kind.seesEnclosing
      · exact ⟨_, .stop hS hc (.inl hk)⟩
      · obtain ⟨o, ho⟩ := ih p (hA.parent_lt hS hp)
        exact ⟨o, .up hS hc hk hp ho⟩
    · exact ⟨_, .one hS hc⟩
    · exact ⟨_, .many hS hc⟩

/-- A scope not in the arena places a column nowhere. -/
theorem Places.eq_unbound_of_none {c : String} {i : Nat} {o : Origin} (hS : A.get? i = none)
    (h : Places cat A c i o) : o = .unbound := by
  cases h with
  | missing => rfl
  | one hS' | many hS' | stop hS' | up hS' => simp [hS] at hS'

/-- **Unqualified columns are placed by the visibility chain.** On every
linked arena, an unqualified column read in scope `id` is placed at `o`
exactly when `Places` puts it there. -/
theorem resolve_eq_iff_places (hA : A.Linked) (id : Nat) {ref : ColumnRef}
    (hq : ref.qualifier = none) (o : Origin) :
    resolve cat A id ref = o ↔ Places cat A ref.column id o := by
  have hsound : ∀ {o'}, Places cat A ref.column id o' → resolve cat A id ref = o' := by
    intro o' h
    rcases hS : A.get? id with _ | S
    · -- outside the arena nothing is found, and `Places` agrees
      rw [h.eq_unbound_of_none hS]
      simp [resolve, resolve.go, hS]
    · exact resolve_go_of_places hA hq h _ (by have := ScopeArena.lt_size_of_get? hS; omega)
  constructor
  · rintro rfl
    obtain ⟨o', h'⟩ : ∃ o', Places cat A ref.column id o' := exists_places hA ref.column id
    rwa [hsound h']
  · exact hsound

/-! ### Placing a column -/

/-- The warnings raised on placing a column `c` at origin `o`: one for an
ambiguity, none otherwise. -/
def ambiguityWarnings (c : String) : Origin → List LineageError
  | .ambiguous labels => [.ambiguous c labels]
  | _ => []

mutual

/-- The warnings raised on placing a field are those of its leaves, in turn. -/
theorem warnings_placeField (cat : Catalog) (A : ScopeArena) (id : Nat) :
    ∀ f, (placeField cat A id f).2.1 = f.leaves.flatMap fun g => (placeField cat A id g).2.1
  | .column n ref p => by simp
  | .derived n deps p => by
    simp only [placeField, Field.leaves_derived]
    exact warnings_placeFields cat A id deps
  | .scalar n k p => by simp [placeField]
  | .constant n p => by simp [placeField]
  | .wildcard n t p => by simp [placeField]

theorem warnings_placeFields (cat : Catalog) (A : ScopeArena) (id : Nat) :
    ∀ fs, (placeFields cat A id fs).2.1 =
      (Field.listLeaves fs).flatMap fun g => (placeField cat A id g).2.1
  | [] => by simp [placeFields]
  | f :: fs => by
    simp only [placeFields, Field.listLeaves_cons, List.flatMap_append,
      warnings_placeField cat A id f, warnings_placeFields cat A id fs]

end

/-- A column not placed yet and not fanned in by `JOIN ... USING` gets the
origin `resolve` finds, with a warning exactly for an ambiguity. -/
theorem placeField_pending {id : Nat} {n : String} {ref : ColumnRef} {p : Transformation}
    (hpend : ref.origin = .pending) (hfan : (usingSides cat A id (.column n ref p)).1 = none) :
    (placeField cat A id (.column n ref p)).1 =
        .column n { ref with origin := resolve cat A id ref } p ∧
      (placeField cat A id (.column n ref p)).2.1 =
        ambiguityWarnings ref.column (resolve cat A id ref) := by
  rcases hu : usingSides cat A id (.column n ref p) with ⟨_ | sides, events⟩
  · simp only [placeField, hu, hpend, BEq.rfl, if_true]
    split <;> simp_all [ambiguityWarnings]
  · simp [hu] at hfan

end Bindings

/-- A column placed in an ambiguity has one source, the ambiguous column
under its qualifier, whatever the depth and the state of the walk, which it
leaves as it was. -/
theorem Resolve.field_ambiguous (A : ScopeArena) (m depth : Nat) (n : String) (ref : ColumnRef)
    (labels : List String) (p : Transformation) (st : ResolverState) :
    (Resolve.field A m depth (.column n { ref with origin := .ambiguous labels } p)).run.run st =
      (.ok [{ table := ref.qualifier, field := ref.column, kind := .ambiguous }], st) := by
  simp only [Resolve.field]
  rfl

namespace Bindings

variable {cat : Catalog} {A : ScopeArena}

/-- **Unqualified columns are never guessed.** On a linked arena (every arena
the walk keeps), placing the outputs of scope `id` places their column
references one by one, with their warnings. An unqualified reference to `c`
not placed yet and not fanned in by `JOIN ... USING` goes where `Places` says:
to the one candidate of the first scope on its visibility chain that has
candidates, to an ambiguity between all of that scope's candidates, in the
order of its FROM clause, or nowhere. It raises exactly one warning, of an
ambiguous `c` with those labels, when it is ambiguous, and none otherwise;
then the walk to sources gives it the one source `c` of no table, marked
ambiguous, and no other. A qualified reference is never ambiguous. -/
theorem placeField_unqualified (hA : A.Linked) (id : Nat) (fs : List Field) {n : String}
    {ref : ColumnRef} {p : Transformation} (hq : ref.qualifier = none)
    (hpend : ref.origin = .pending) (hfan : (usingSides cat A id (.column n ref p)).1 = none) :
    (Field.listLeaves (placeFields cat A id fs).1 =
        (Field.listLeaves fs).flatMap (fun g => (placeField cat A id g).1.leaves) ∧
      (placeFields cat A id fs).2.1 =
        (Field.listLeaves fs).flatMap (fun g => (placeField cat A id g).2.1)) ∧
    (∀ o, resolve cat A id ref = o ↔ Places cat A ref.column id o) ∧
    (placeField cat A id (.column n ref p)).1 =
      .column n { ref with origin := resolve cat A id ref } p ∧
    (placeField cat A id (.column n ref p)).2.1 =
      ambiguityWarnings ref.column (resolve cat A id ref) ∧
    (∀ labels, resolve cat A id ref = .ambiguous labels → ∀ m depth st,
      (Resolve.field A m depth (placeField cat A id (.column n ref p)).1).run.run st =
        (.ok [{ table := none, field := ref.column, kind := .ambiguous }], st)) ∧
    (∀ (ref' : ColumnRef) q labels, ref'.qualifier = some q →
      resolve cat A id ref' ≠ .ambiguous labels) := by
  obtain ⟨hplaced, hwarn⟩ := placeField_pending hpend hfan
  refine ⟨⟨listLeaves_placeFields cat A id fs, warnings_placeFields cat A id fs⟩,
    resolve_eq_iff_places hA id hq, hplaced, hwarn, ?_,
    fun ref' q labels hq' => resolve_ne_ambiguous hq' labels⟩
  intro labels hamb m depth st
  rw [hplaced, hamb, Resolve.field_ambiguous, hq]

/-- `SELECT (SELECT x) FROM a, b`. -/
def scalarOverJoin : Sql.Statement :=
  let inner : Sql.Query := .mk none []
    (.select (.mk "" [.expr (.identifier { value := "x" }) none] "" [] "" none "" none "")) ""
  .query (.mk none [] (.select (.mk "" [.expr (.subquery inner) none] ""
    [.mk (.table [{ value := "a" }] "" none "") [], .mk (.table [{ value := "b" }] "" none "") []]
    "" none "" none "")) "")

/-- The arena the walk of `scalarOverJoin` ends with, with no catalog, where
the outputs of the subquery (scope 1) are set aside as completing it does:
scope 0 binds `a` and `b`, and scope 1, inside it, binds nothing. -/
def scalarOverJoinArena : ScopeArena :=
  ((Detector.new {} 64).detect scalarOverJoin).2.arena.modify 1 fun s => { s with fields := [] }

/-- In the subquery of `scalarOverJoin`, placed as the walk places it, `x`
has no candidate and the subquery sees the scope around it, where both `a`
and `b` may hold `x`: the reference is ambiguous between `a` and `b`, with one
warning. -/
theorem scalarOverJoin_ambiguous :
    scalarOverJoinArena.Linked ∧
      Places {} scalarOverJoinArena "x" 1 (.ambiguous ["a", "b"]) ∧
      (placeField {} scalarOverJoinArena 1
          (.column "x" { qualifier := none, column := "x" } .direct)).2.1 =
        [.ambiguous "x" ["a", "b"]] := by
  -- the walk succeeds, so its detector is valid and the arena it places in is linked
  have hd : (Detector.new {} 64).detect scalarOverJoin =
      (.ok (), ((Detector.new {} 64).detect scalarOverJoin).2) := rfl
  have hA : scalarOverJoinArena.Linked := (detect_sound hd).1.placing_linked 1
  have hres : resolve {} scalarOverJoinArena 1 { qualifier := none, column := "x" } =
      .ambiguous ["a", "b"] := by decide +kernel
  obtain ⟨-, hiff, -, hwarn, -⟩ := @placeField_unqualified {} scalarOverJoinArena hA 1 [] "x"
    { qualifier := none, column := "x" } .direct rfl rfl (by decide +kernel)
  exact ⟨hA, (hiff _).mp hres, by rw [hwarn, hres]; rfl⟩

end Bindings

end ColumnLineage
