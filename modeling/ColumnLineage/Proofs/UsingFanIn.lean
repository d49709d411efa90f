import ColumnLineage.Proofs.SoundArena
import ColumnLineage.Proofs.Reports
/-
ColumnLineage/Proofs/UsingFanIn.lean

Columns of `JOIN ... USING`. A scope records, for each column a USING list
names, how many of its bindings the latest such list shares. A column so
named is read from every one of those bindings that may hold it
(`Bindings.usingSidesFor`): a table the catalog lists it for or does not know,
or a scope that outputs it or a wildcard that may stand for it.

When a scope is completed its outputs are placed leaf by leaf
(`listLeaves_placeFields`). Where at least two sides may hold a column named
by USING, every unqualified reference to it becomes one column per side, in
the order of the bindings, read where the side stands, and no warning of an
ambiguous column is raised for it (`placeFields_using_fanIn`). The walk's
USING step leaves the record of each column its list names shared by every
binding made so far (`addUsing_record`), so the sides are those of these
bindings that may hold the column (`addUsing_fanIn`).

The fan-in is made when the scope's own outputs are placed, and only there. A
scalar subquery of the select list is a scope of its own, with no USING record
of its own; a column it reads through the scope around it is placed by the
ordinary rule, over every binding of that scope, and comes out ambiguous, with
a warning (`scalarReadsUsing_ambiguous`).
-/

namespace ColumnLineage

namespace Bindings

/-- The sides of `JOIN ... USING` that hold column `c` in scope `s`: of the
bindings the USING record `u` shares, those that may provide `c`. -/
def usingSidesFor (cat : Catalog) (A : ScopeArena) (s : Scope) (u : UsingColumn) (c : String) :
    List Binding :=
  (s.bindings.take u.bindings).filter fun b => provides cat A b c != .no

variable {cat : Catalog} {A : ScopeArena} {id : Nat}

/-! ### The record of the latest USING list -/

theorem usingColumnsAfter_cons (name : Sql.ObjectName) (rest : List Sql.ObjectName) (shared : Nat)
    (us : List UsingColumn) :
    Detect.usingColumnsAfter (name :: rest) shared us =
      Detect.usingColumnsAfter rest shared (Detect.usingColumnsAfter [name] shared us) := rfl

/-- One column of a USING list: its record replaces any earlier one of the same
name, and the records of other columns stay. -/
theorem find?_usingColumnsAfter_single (name : Sql.ObjectName) (shared : Nat)
    (us : List UsingColumn) (c : String) :
    (Detect.usingColumnsAfter [name] shared us).find? (·.column == c) =
      if name.getLast?.map (·.value) = some c then some { column := c, bindings := shared }
      else us.find? (·.column == c) := by
  simp only [Detect.usingColumnsAfter, List.foldl_cons, List.foldl_nil]
  cases hlast : name.getLast? with
  | none => simp
  | some ident =>
    simp only [Option.map_some, Option.some.injEq, List.find?_append]
    by_cases hc : ident.value = c
    · -- the earlier records of `c` are filtered out, and the new one is found
      subst hc
      have hnone : (us.filter (·.column != ident.value)).find? (·.column == ident.value) = none := by
        simp [List.find?_filter]
      rw [hnone]
      simp
    · -- filtering out the records of another column leaves those of `c`
      have hsame : (us.filter (·.column != ident.value)).find? (·.column == c) =
          us.find? (·.column == c) := by
        simp only [List.find?_filter]
        congr 1
        funext x
        by_cases hx : x.column = c <;> simp [hx, Ne.symm hc]
      rw [hsame]
      simp [hc]

/-- After `JOIN ... USING columns`, the record of a column the list names is
the one just made, shared by the bindings made so far; the records of other
columns are as they were. So the record a scope keeps for a column is that of
the latest USING list naming it. -/
theorem find?_usingColumnsAfter (columns : List Sql.ObjectName) (shared : Nat) (c : String) :
    ∀ us : List UsingColumn, (Detect.usingColumnsAfter columns shared us).find? (·.column == c) =
      if columns.any (fun name => name.getLast?.map (·.value) == some c) then
        some { column := c, bindings := shared }
      else us.find? (·.column == c) := by
  induction columns with
  | nil => intro us; rfl
  | cons name rest ih =>
    intro us
    rw [usingColumnsAfter_cons, ih, find?_usingColumnsAfter_single]
    by_cases hrest : rest.any (fun name => name.getLast?.map (·.value) == some c) <;>
      by_cases hname : name.getLast?.map (·.value) = some c <;> simp [hrest, hname]

/-- The USING step of the walk keeps the bindings of the current scope and
leaves, for every column its list names, a record shared by the bindings made
so far; the records of other columns stay. -/
theorem addUsing_record {d d' : Detector} {columns : List Sql.ObjectName} {s : Scope}
    (h : (Detect.addUsing columns).run.run d = (.ok (), d')) (hcur : d.arena.current = some id)
    (hs : d.arena.get? id = some s) :
    ∃ s', d'.arena.get? id = some s' ∧ s'.bindings = s.bindings ∧ ∀ c,
      s'.usingColumns.find? (·.column == c) =
        if columns.any (fun name => name.getLast?.map (·.value) == some c) then
          some { column := c, bindings := s.bindings.length }
        else s.usingColumns.find? (·.column == c) := by
  rw [Detect.run_addUsing, hcur] at h
  cases h
  refine ⟨{ s with usingColumns := Detect.usingColumnsAfter columns s.bindings.length s.usingColumns },
    ?_, rfl, fun c => find?_usingColumnsAfter columns _ c _⟩
  rw [ScopeArena.get?_modify_self, hs]
  rfl

/-! ### Placing leaf by leaf -/

mutual

/-- Placing a field places its leaves one by one. -/
theorem leaves_placeField (cat : Catalog) (A : ScopeArena) (id : Nat) :
    ∀ f, (placeField cat A id f).1.leaves = f.leaves.flatMap fun g => (placeField cat A id g).1.leaves
  | .column n ref p => by simp
  | .derived n deps p => by
    simp only [placeField, Field.leaves_derived]
    exact listLeaves_placeFields cat A id deps
  | .scalar n k p => by simp [placeField]
  | .constant n p => by simp [placeField]
  | .wildcard n t p => by simp [placeField]

theorem listLeaves_placeFields (cat : Catalog) (A : ScopeArena) (id : Nat) :
    ∀ fs, Field.listLeaves (placeFields cat A id fs).1 =
      (Field.listLeaves fs).flatMap fun g => (placeField cat A id g).1.leaves
  | [] => by simp [placeFields]
  | f :: fs => by
    simp only [placeFields, Field.listLeaves_cons, List.flatMap_append,
      leaves_placeField cat A id f, listLeaves_placeFields cat A id fs]

end

/-- Columns are their own leaves. -/
theorem listLeaves_map_ofColumn {α : Type} (name : String) (ref : α → ColumnRef) (xs : List α) :
    Field.listLeaves (xs.map fun x => Field.ofColumn name (ref x)) =
      xs.map fun x => Field.ofColumn name (ref x) := by
  induction xs with
  | nil => rfl
  | cons x xs ih =>
    rw [List.map_cons, Field.listLeaves_cons, ih]
    rfl

/-! ### References to a column of `JOIN ... USING` -/

section Using

variable {s : Scope} {u : UsingColumn} {c : String}

/-- A reference to `c`, unqualified and not placed yet, in a scope whose USING
record for `c` has at least two sides: one input per side, read where the side
stands. -/
theorem usingSides_usingColumn (hs : A.get? id = some s)
    (hu : s.usingColumns.find? (·.column == c) = some u)
    (hP : 2 ≤ (usingSidesFor cat A s u c).length) {n : String} {ref : ColumnRef}
    {p : Transformation} (hc : ref.column = c) (hq : ref.qualifier = none)
    (ho : ref.origin = .pending) :
    usingSides cat A id (.column n ref p) =
      (some ((usingSidesFor cat A s u c).map fun b =>
          Field.ofColumn c { ref with origin := b.target.origin }),
        [usingEvent id c (usingSidesFor cat A s u c).length]) := by
  subst hc
  have hlen : 1 < ((s.bindings.take u.bindings).filter fun b =>
      provides cat A b ref.column != .no).length := hP
  simp only [usingSides, ho, hq, hs, hu, bne_self_eq_false, Option.isSome_none, Bool.or_false,
    Bool.false_eq_true, ↓reduceIte, gt_iff_lt, hlen, List.length_map, usingSidesFor]

theorem placeField_usingColumn (hs : A.get? id = some s)
    (hu : s.usingColumns.find? (·.column == c) = some u)
    (hP : 2 ≤ (usingSidesFor cat A s u c).length) {n : String} {ref : ColumnRef}
    {p : Transformation} (hc : ref.column = c) (hq : ref.qualifier = none)
    (ho : ref.origin = .pending) :
    placeField cat A id (.column n ref p) =
      (.derived n ((usingSidesFor cat A s u c).map fun b =>
          Field.ofColumn c { ref with origin := b.target.origin }) p,
        [], [usingEvent id c (usingSidesFor cat A s u c).length]) := by
  simp only [placeField, usingSides_usingColumn hs hu hP hc hq ho]

end Using

/-- A qualified column is never placed in an ambiguity: its qualifier names one
binding. -/
theorem resolve_ne_ambiguous {ref : ColumnRef} {q : TableName} (hq : ref.qualifier = some q)
    (labels : List String) : resolve cat A id ref ≠ .ambiguous labels := by
  unfold resolve
  generalize A.size + 1 = fuel
  generalize (some id : Option Nat) = start
  induction fuel generalizing start with
  | zero => exact Origin.noConfusion
  | succ fuel ih =>
    rcases start with _ | i
    · exact Origin.noConfusion
    · simp only [resolve.go]
      split
      · exact Origin.noConfusion
      · split
        · rename_i o ho
          -- the origin of the binding the qualifier names
          simp only [resolveIn, hq] at ho
          obtain ⟨b, -, rfl⟩ := Option.map_eq_some_iff.mp ho
          rcases b with ⟨_, _ | _⟩ <;> exact Origin.noConfusion
        · split
          · exact ih _
          · exact Origin.noConfusion

section Warnings

variable {s : Scope} {u : UsingColumn} {c : String}

mutual

/-- Placing a field of a scope where at least two sides hold `c` raises no
warning of an ambiguous `c`. -/
theorem ambiguous_not_mem_placeField (hs : A.get? id = some s)
    (hu : s.usingColumns.find? (·.column == c) = some u)
    (hP : 2 ≤ (usingSidesFor cat A s u c).length) (labels : List String) :
    ∀ f, LineageError.ambiguous c labels ∉ (placeField cat A id f).2.1
  | .column n ref p => by
    intro hmem
    simp only [placeField] at hmem
    split at hmem
    · simp at hmem
    · rename_i events hnone
      split at hmem
      · rename_i hpend
        split at hmem
        · rename_i labels' hamb
          simp only [List.mem_singleton, LineageError.ambiguous.injEq] at hmem
          obtain ⟨rfl, -⟩ := hmem
          -- unqualified, the column would have been fanned in; qualified, it is never ambiguous
          cases hq : ref.qualifier with
          | none =>
            rw [usingSides_usingColumn hs hu hP rfl hq (by simpa using hpend)] at hnone
            cases hnone
          | some q => exact resolve_ne_ambiguous hq labels' hamb
        · simp at hmem
      · simp at hmem
  | .derived n deps p => by
    simp only [placeField]
    exact ambiguous_not_mem_placeFields hs hu hP labels deps
  | .scalar n k p => by simp [placeField]
  | .constant n p => by simp [placeField]
  | .wildcard n t p => by simp [placeField]

theorem ambiguous_not_mem_placeFields (hs : A.get? id = some s)
    (hu : s.usingColumns.find? (·.column == c) = some u)
    (hP : 2 ≤ (usingSidesFor cat A s u c).length) (labels : List String) :
    ∀ fs, LineageError.ambiguous c labels ∉ (placeFields cat A id fs).2.1
  | [] => by simp [placeFields]
  | f :: fs => by
    simp only [placeFields, List.mem_append, not_or]
    exact ⟨ambiguous_not_mem_placeField hs hu hP labels f,
      ambiguous_not_mem_placeFields hs hu hP labels fs⟩

end

end Warnings

/-- **USING fan-in within the scope.** Let scope `id` record `JOIN ... USING`
for column `c`, shared by its first `u.bindings` bindings, of which at least
two may provide `c`. Placing fields read in that scope (its outputs: bare,
aliased or inside an expression) places them leaf by leaf; every unqualified
reference to `c` not placed yet becomes one column per such binding, in order,
read where the binding stands, and none from a binding made later; and no
warning of an ambiguous `c` is raised. -/
theorem placeFields_using_fanIn {s : Scope} {u : UsingColumn} {c : String}
    (hs : A.get? id = some s) (hu : s.usingColumns.find? (·.column == c) = some u)
    (hP : 2 ≤ (usingSidesFor cat A s u c).length) (fs : List Field) :
    Field.listLeaves (placeFields cat A id fs).1 =
        (Field.listLeaves fs).flatMap (fun g => (placeField cat A id g).1.leaves) ∧
      (∀ n ref p, ref.column = c → ref.qualifier = none → ref.origin = .pending →
        (placeField cat A id (.column n ref p)).1.leaves =
          (usingSidesFor cat A s u c).map fun b =>
            Field.ofColumn c { ref with origin := b.target.origin }) ∧
      ∀ labels, LineageError.ambiguous c labels ∉ (placeFields cat A id fs).2.1 := by
  refine ⟨listLeaves_placeFields cat A id fs, fun n ref p hc hq ho => ?_,
    fun labels => ambiguous_not_mem_placeFields hs hu hP labels fs⟩
  -- the derived field has the sides' columns for leaves
  rw [placeField_usingColumn hs hu hP hc hq ho, Field.leaves_derived, listLeaves_map_ofColumn]

/-- **The fan-in a USING list sets up.** Walking `JOIN ... USING columns` in
the current scope leaves, for a column `c` the list names, a record under which
placing fields read in that scope, when at least two of the bindings made so
far may provide `c`, turns every unqualified reference to `c` not placed yet
into one column per such binding, in order, and raises no warning of an
ambiguous `c`. Joins walked after the list add bindings that are not among the
sides, and a later list naming `c` replaces the record. -/
theorem addUsing_fanIn {d d' : Detector} {columns : List Sql.ObjectName} {s : Scope} {c : String}
    (h : (Detect.addUsing columns).run.run d = (.ok (), d')) (hcur : d.arena.current = some id)
    (hs : d.arena.get? id = some s)
    (hc : columns.any (fun name => name.getLast?.map (·.value) == some c) = true)
    (hP : 2 ≤ (s.bindings.filter fun b => provides cat d'.arena b c != .no).length) :
    (∀ n ref p, ref.column = c → ref.qualifier = none → ref.origin = .pending →
      (placeField cat d'.arena id (.column n ref p)).1.leaves =
        (s.bindings.filter fun b => provides cat d'.arena b c != .no).map fun b =>
          Field.ofColumn c { ref with origin := b.target.origin }) ∧
      ∀ labels fs, LineageError.ambiguous c labels ∉ (placeFields cat d'.arena id fs).2.1 := by
  obtain ⟨s', hs', hb, hrec⟩ := addUsing_record h hcur hs
  have hu : s'.usingColumns.find? (·.column == c) =
      some { column := c, bindings := s.bindings.length } := by
    rw [hrec c, if_pos hc]
  -- the record is shared by every binding made so far
  have hsides : usingSidesFor cat d'.arena s' { column := c, bindings := s.bindings.length } c =
      s.bindings.filter fun b => provides cat d'.arena b c != .no := by
    rw [usingSidesFor, hb, List.take_length]
  rw [← hsides] at hP ⊢
  refine ⟨fun n ref p hcol hq ho => ?_, fun labels fs => ambiguous_not_mem_placeFields hs' hu hP labels fs⟩
  rw [placeField_usingColumn hs' hu hP hcol hq ho, Field.leaves_derived, listLeaves_map_ofColumn]

/-- The FROM clause `a JOIN b USING (id)`. -/
def joinedUsingFrom : Sql.TableWithJoins :=
  .mk (.table [{ value := "a" }] "" none "")
    [.mk false .inner (.table [{ value := "b" }] "" none "") none (.using [[{ value := "id" }]])]

/-- The arena of `SELECT id FROM a JOIN b USING (id)`, with no catalog, once
its FROM clause is walked: the one its outputs are placed in. -/
def joinedUsingArena : ScopeArena :=
  ((do
      let _ ← Detect.enter .query none
      Detect.fromClause [joinedUsingFrom] : Detect Unit).run.run (Detector.new {} 64)).2.arena

/-- The scope of `joinedUsingArena`: it binds `a` and `b`, and its USING
record for `id` is shared by both. -/
def joinedUsingScope : Scope where
  id := 0
  parent := none
  kind := .query
  aliasName := none
  bindings := [{ aliasName := some "a", target := .table { database := none, name := "a" } },
    { aliasName := some "b", target := .table { database := none, name := "b" } }]
  usingColumns := [{ column := "id", bindings := 2 }]

/-- In `SELECT id FROM a JOIN b USING (id)`, with no catalog, the output `id`
is read from `a.id` and from `b.id`. -/
theorem joinedUsing_fansIn :
    joinedUsingArena.get? 0 = some joinedUsingScope ∧
      joinedUsingScope.usingColumns.find? (·.column == "id") =
        some { column := "id", bindings := 2 } ∧
      2 ≤ (usingSidesFor {} joinedUsingArena joinedUsingScope
        { column := "id", bindings := 2 } "id").length ∧
      (placeField {} joinedUsingArena 0
          (.column "id" { qualifier := none, column := "id" } .direct)).1.leaves =
        [Field.ofColumn "id"
            { qualifier := none, column := "id", origin := .table { database := none, name := "a" } },
          Field.ofColumn "id"
            { qualifier := none, column := "id", origin := .table { database := none, name := "b" } }] := by
  have hs : joinedUsingArena.get? 0 = some joinedUsingScope := rfl
  have hu : joinedUsingScope.usingColumns.find? (·.column == "id") =
      some { column := "id", bindings := 2 } := by decide
  have hP : 2 ≤ (usingSidesFor {} joinedUsingArena joinedUsingScope
      { column := "id", bindings := 2 } "id").length := by decide +kernel
  exact ⟨hs, hu, hP, (placeFields_using_fanIn hs hu hP []).2.1 "id" _ .direct rfl rfl rfl⟩

end Bindings

/-! ### A scalar subquery reading a column of `JOIN ... USING` -/

/-- `SELECT (SELECT id) AS s FROM a JOIN b USING (id)`. -/
def scalarReadsUsing : Sql.Statement :=
  let inner : Sql.Query := .mk none []
    (.select (.mk "" [.expr (.identifier { value := "id" }) none] "" [] "" none "" none "")) ""
  let joinB : Sql.Join := .mk false .inner (.table [{ value := "b" }] "" none "") none
    (.using [[{ value := "id" }]])
  .query (.mk none [] (.select (.mk "" [.expr (.subquery inner) (some { value := "s" })] ""
    [.mk (.table [{ value := "a" }] "" none "") [joinB]] "" none "" none "")) "")

/-- The scalar subquery of `scalarReadsUsing` reads `id` through the scope
around it, where `JOIN ... USING` names it and, with no catalog, both `a` and
`b` may hold it. Yet `s` comes from one ambiguous `id`, not from `a.id` and
`b.id`, and the analysis warns that `id` is ambiguous. -/
theorem scalarReadsUsing_ambiguous :
    (analyzeStatement {} 64 0 scalarReadsUsing).lineage =
        [{ target := { table := none, field := "s" },
           sources := [{ table := none, field := "id", kind := .ambiguous }],
           transformation := .subquery }] ∧
      LineageError.ambiguous "id" ["a", "b"] ∈ (analyzeStatement {} 64 0 scalarReadsUsing).warnings := by
  have hrun : Resolve.Bounded.lineageOf 8 {} 64 scalarReadsUsing =
      some ([{ target := { table := none, field := "s" },
               sources := [{ table := none, field := "id", kind := .ambiguous }],
               transformation := .subquery }], none) := by decide +kernel
  have hwarn : ((Detector.new {} 64).detect scalarReadsUsing).2.warnings =
      [.ambiguous "id" ["a", "b"]] := by decide +kernel
  refine ⟨(Resolve.Bounded.lineageOf_eq hrun 0).1, ?_⟩
  apply (warnings_of_detect {} 64 0 scalarReadsUsing).subset
  rw [hwarn]
  exact List.mem_singleton_self _

end ColumnLineage
