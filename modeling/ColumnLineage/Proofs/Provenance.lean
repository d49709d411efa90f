import ColumnLineage.Proofs.SoundWalk
import ColumnLineage.Proofs.Derivation
import ColumnLineage.Proofs.Reports
/-
ColumnLineage/Proofs/Provenance.lean

What the sources of a statement's lineage can be. The lineage follows the
outputs of the outermost scope through the arena the walk built, so every
source it reports derives, in that arena, for one of those outputs
(`analyzeStatement_derives`); what the arena holds is sound for the names the
statement writes (`detect_sound`). Putting the two together by induction over
`Derives`:

* lineage never invents a name (`lineage_names_only_written`): a source's
  table is a table the statement reads by name, not a WITH name, and its
  column is a column the statement writes or the catalog lists for that table;
  what stays unresolved or ambiguous carries no table or a qualifier the
  statement writes;
* no column waits to be placed once the walk is done, so a source stays
  unresolved only for a column bound to nothing or for a name that a scope a
  column reads does not output (`walk_places_every_column`).
-/

namespace ColumnLineage

open Resolve

/-! ### The lineage follows the arena -/

/-- Every entry of a statement's lineage has sources that derive, in the
arena the walk built, for one output of the outermost scope. -/
theorem analyzeStatement_derives {catalog : Catalog} {maxDepth index : Nat} {st : Sql.Statement}
    {e : TargetLineage} (he : e ∈ (analyzeStatement catalog maxDepth index st).lineage) :
    ∃ d, (Detector.new catalog maxDepth).detect st = (.ok (), d) ∧
      ∃ r root, d.root = some r ∧ d.arena.get? r = some root ∧
        ∃ f ∈ root.fields, ∀ s ∈ e.sources, Derives d.arena (.field f) s := by
  unfold analyzeStatement at he
  rcases hdet : (Detector.new catalog maxDepth).detect st with ⟨_ | ⟨⟩, d⟩ <;>
    rw [hdet] at he <;> dsimp only at he
  · cases he
  refine ⟨d, rfl, ?_⟩
  rcases hr : d.root with _ | r
  · simp [hr] at he
  rcases hS : d.arena.get? r with _ | root
  · simp [hr, hS] at he
  simp only [hr, hS, Option.bind_some] at he
  generalize hnames : targetNames root.fields d.target = names at he
  rcases hrun : (resolveOutputs d.arena maxDepth _ (root.fields.zip names.1)).run.run {} with
    ⟨_ | out, σ'⟩ <;> rw [hrun] at he <;> dsimp only at he
  · cases he
  obtain ⟨o, ho, hos⟩ := resolveOutputs_derive _ _ _ _ _ (fun _ he => by cases he) hrun e he
  exact ⟨r, root, rfl, hS, o.1, (List.of_mem_zip ho).1, hos⟩

/-! ### Lineage never invents a name -/

/-- A source names only what a statement that writes `M` writes and what the
catalog lists: a column's table is a table read by name, and its column is
written or listed for that table; a wildcard's table is read by name; what
stays unresolved or ambiguous has no table or a written qualifier. -/
def Source.Named (M : List Mention) (catalog : Catalog) (s : Source) : Prop :=
  match s.kind, s.table with
  | .column, some t =>
    .table t ∈ M ∧ (.column s.field ∈ M ∨ ∃ cols, catalog.columns? t = some cols ∧ s.field ∈ cols)
  | .unresolvedWildcard, some t => .table t ∈ M
  | .unresolved, some q | .ambiguous, some q => .qualifier q ∈ M
  | _, _ => True

/-- A source of no table names nothing. -/
theorem Source.named_of_table_none {M : List Mention} {catalog : Catalog} {s : Source}
    (h : s.table = none) : s.Named M catalog := by
  rcases s with ⟨_ | _, _, _ | _ | _ | _ | _⟩ <;> simp_all [Source.Named]

/-- An unresolved or ambiguous source names what it names when its table, if
any, is a written qualifier. -/
theorem Source.named_of_qualifier {M : List Mention} {catalog : Catalog} {s : Source}
    (hk : s.kind = .unresolved ∨ s.kind = .ambiguous)
    (hq : ∀ q, s.table = some q → .qualifier q ∈ M) : s.Named M catalog := by
  rcases s with ⟨_ | q, field, kind⟩
  · exact Source.named_of_table_none rfl
  · rcases hk with hk | hk <;> simp only at hk <;> subst hk <;> exact hq q rfl

/-- What the walk may be asked in a sound arena, for a statement that writes
`M`: a field with every leaf grounded; a name looked up with no place is a
written column, and one looked up at a place is the name of the field there. -/
def Detector.Asks (M : List Mention) (d : Detector) : Ask → Prop
  | .field f => d.AllGrounded M [f]
  | .named _ name none => .column name ∈ M
  | .named c name (some p) =>
    ∃ C g, d.arena.get? c = some C ∧ C.fields[p]? = some g ∧ g.name = name

namespace Detector

variable {M : List Mention} {d : Detector}

theorem AllGrounded.of_mem {fs : List Field} {g : Field} (h : d.AllGrounded M fs) (hg : g ∈ fs) :
    d.AllGrounded M [g] := fun x hx =>
  h x (Field.mem_listLeaves.mpr ⟨g, hg, by simpa using hx⟩)

theorem AllGrounded.column {n : String} {ref : ColumnRef} {p : Transformation}
    (h : d.AllGrounded M [.column n ref p]) : d.RefGrounded M ref :=
  h (.column n ref p) (by simp)

theorem AllGrounded.star {star : Field} (h : d.AllGrounded M [star]) (hstar : star.isStar = true) :
    d.Grounded M star :=
  h star (by cases star <;> simp_all [Field.isStar])

/-- A name that designates no field is looked up with no place, so it is a
written column. -/
theorem Asks.written {id : Nat} {name : String} {position : Option Nat} {S : Scope}
    (hask : d.Asks M (.named id name position)) (hS : d.arena.get? id = some S)
    (hc : (chooseField S.fields name position).1 = none) : .column name ∈ M := by
  cases position with
  | none => exact hask
  | some p =>
    obtain ⟨C, g, hC, hg, hname⟩ := hask
    rw [hS] at hC
    cases hC
    rw [chooseField_at hg hname] at hc
    cases hc

/-- What a written name has through a grounded wildcard names only what is
written. -/
theorem starSource_named {star : Field} {name : String} (hg : d.Grounded M star)
    (hname : .column name ∈ M) : ∀ s ∈ starSource star name, s.Named M d.catalog := by
  intro s hs
  unfold starSource at hs
  split at hs
  · -- a wildcard over a table: that table's column of the name
    rw [List.mem_singleton.mp hs]
    exact ⟨hg, .inl hname⟩
  · -- a column placed in a table: that table's column of the name
    rw [List.mem_singleton.mp hs]
    simp only [Grounded, RefGrounded] at hg
    exact ⟨hg.1, .inl hname⟩
  · rw [List.mem_singleton.mp hs]
    exact Source.named_of_table_none rfl

/-- **Derived sources name what is written.** In a sound arena, every source
derived for a grounded ask names only what the statement writes and the
catalog lists. -/
theorem Sound.derives_named (h : d.Sound M) {ask : Ask} {s : Source}
    (hD : Derives d.arena ask s) (hask : d.Asks M ask) : s.Named M d.catalog := by
  induction hD with
  | @table n ref p t ho =>
    have hr : d.RefGrounded M ref := AllGrounded.column hask
    simp only [RefGrounded, ho] at hr
    exact hr
  | @scope n ref p c s ho _ ih =>
    -- the reference names the scope's output as the asked name says
    have hr : d.RefGrounded M ref := AllGrounded.column hask
    simp only [RefGrounded, ho] at hr
    apply ih
    cases hp : ref.position with
    | none => simpa [Asks, hp] using hr.2
    | some p => simpa [Asks, hp] using hr.2
  | @ambiguous n ref p _ ho | @unbound n ref p ho =>
    have hr : d.RefGrounded M ref := AllGrounded.column hask
    simp only [RefGrounded, ho] at hr
    exact Source.named_of_qualifier (by simp) hr
  | @pending n ref p ho =>
    -- a column not placed yet writes its qualifier
    have hr : d.RefGrounded M ref := AllGrounded.column hask
    simp only [RefGrounded, ho] at hr
    exact Source.named_of_qualifier (by simp) fun q hq =>
      hr.2 (.qualifier q) (by simp only at hq; simp [ColumnRef.written, hq])
  | derived hg _ ih =>
    exact ih (AllGrounded.of_mem (fun x hx => hask x (by simpa using hx)) hg)
  | scalar hS hg _ ih => exact ih ((h.grounded hS).of_mem hg)
  | constant => trivial
  | @wildcard n t p =>
    cases t with
    | none => trivial
    | some t => exact hask (.wildcard n (some t) p) (by simp)
  | chosen hS hc _ ih => exact ih ((h.grounded hS).of_mem (chooseField_mem hc))
  | link hS hc _ _ _ ih => exact ih (hask.written hS hc)
  | @star id name position S star s hS hc hstars _ hs =>
    -- the one wildcard of the scope is one of its grounded outputs
    have hmem : star ∈ S.fields.filter Field.isStar := by
      rw [hstars]
      exact List.mem_singleton_self star
    obtain ⟨hout, hstar⟩ := List.mem_filter.mp hmem
    exact starSource_named (((h.grounded hS).of_mem hout).star hstar) (hask.written hS hc) _ hs
  | missing | several => exact Source.named_of_table_none rfl

end Detector

/-- **Lineage never invents a name.** For every statement, catalog, limit and
index, every source of the statement's lineage names only what the statement
writes and what the catalog lists: a column's table is a table the statement
reads by name, not a WITH name, and its column is written in the statement or
listed by the catalog for that table; a wildcard's table is read by name; an
unresolved or ambiguous source has no table or a qualifier the statement
writes. -/
theorem lineage_names_only_written (catalog : Catalog) (maxDepth index : Nat)
    (st : Sql.Statement) :
    ∀ e ∈ (analyzeStatement catalog maxDepth index st).lineage, ∀ s ∈ e.sources,
      s.Named st.mentions catalog := by
  intro e he s hs
  obtain ⟨d, hdet, r, root, -, hroot, f, hf, hsrc⟩ := analyzeStatement_derives he
  obtain ⟨-, hcat, -, hsound⟩ := detect_sound hdet
  -- the lineage starts from an output of the outermost scope, which is grounded
  have hask : d.Asks st.mentions (.field f) := (hsound.grounded hroot).of_mem hf
  rw [← hcat]
  exact hsound.derives_named (hsrc s hs) hask

/-- `SELECT a FROM t`. -/
def selectFromTable : Sql.Statement :=
  .query (.mk none [] (.select (.mk "" [.expr (.identifier { value := "a" }) none] ""
    [.mk (.table [{ value := "t" }] "" none "") []] "" none "" none "")) "")

/-- The column `a` of `SELECT a FROM t` comes from the table `t` the statement
reads, by the name it writes. -/
theorem selectFromTable_named :
    ({ target := { table := none, field := "a" },
        sources := [{ table := some { database := none, name := "t" }, field := "a" }],
        transformation := .direct } : TargetLineage) ∈
        (analyzeStatement {} 3 0 selectFromTable).lineage ∧
      ({ table := some { database := none, name := "t" }, field := "a" } : Source) ∈
        [({ table := some { database := none, name := "t" }, field := "a" } : Source)] ∧
      Source.Named selectFromTable.mentions {}
        { table := some { database := none, name := "t" }, field := "a" } := by
  -- the report, computed by the bounded walk
  have hL : (analyzeStatement {} 3 0 selectFromTable).lineage =
      [{  target := { table := none, field := "a" }
          sources := [{ table := some { database := none, name := "t" }, field := "a" }]
          transformation := .direct }] := by
    have hrun : Resolve.Bounded.lineageOf 4 {} 3 selectFromTable =
        some ([{  target := { table := none, field := "a" }
                  sources := [{ table := some { database := none, name := "t" }, field := "a" }]
                  transformation := .direct }], none) := by
      decide +kernel
    exact (Resolve.Bounded.lineageOf_eq hrun 0).1
  refine ⟨?he, List.mem_singleton_self _,
    lineage_names_only_written {} 3 0 selectFromTable _ ?he _ (List.mem_singleton_self _)⟩
  rw [hL]
  exact List.mem_singleton_self _

/-! ### Nothing waits to be placed -/

/-- Why a source stays unresolved in `arena`: it is, as written, a column of
some scope's outputs that nothing in reach binds; or it is a name with no
table that a scope read by name does not output, where a column of some
scope's outputs reads that scope by the name or through a wildcard. -/
def ScopeArena.LeftUnresolved (A : ScopeArena) (s : Source) : Prop :=
  (∃ i S n ref p, A.get? i = some S ∧ Field.column n ref p ∈ Field.listLeaves S.fields ∧
      ref.origin = .unbound ∧
      s = { table := ref.qualifier, field := ref.column, kind := .unresolved }) ∨
    ∃ i S n ref p c C, A.get? i = some S ∧ Field.column n ref p ∈ Field.listLeaves S.fields ∧
      ref.origin = .scope c ∧ (ref.column = s.field ∨ Field.isStarName ref.column = true) ∧
      A.get? c = some C ∧ s.table = none ∧ ∀ g ∈ C.fields, g.name ≠ s.field

/-- An ask the lineage makes of `A`: a field read from the outputs of a scope,
or a name looked up in a scope that a column of some scope's outputs reads by
that name or through a wildcard. -/
def ScopeArena.Within (A : ScopeArena) : Ask → Prop
  | .field f => ∃ i S, A.get? i = some S ∧ ∀ g ∈ f.leaves, g ∈ Field.listLeaves S.fields
  | .named c name _ => ∃ i S n ref p, A.get? i = some S ∧
      Field.column n ref p ∈ Field.listLeaves S.fields ∧ ref.origin = .scope c ∧
      (ref.column = name ∨ Field.isStarName ref.column = true)

/-- What a name has through a wildcard is unresolved only as the bare name. -/
theorem starSource_unresolved {star : Field} {name : String} {s : Source}
    (hs : s ∈ starSource star name) (hk : s.kind = .unresolved) :
    s.table = none ∧ s.field = name := by
  unfold starSource at hs
  split at hs <;> rw [List.mem_singleton.mp hs] at hk ⊢
  · cases hk
  · cases hk
  · exact ⟨rfl, rfl⟩

/-- **Unresolved sources have a reason.** In an arena where no leaf waits to
be placed, a source derived unresolved for a field read from a scope is a
column bound to nothing, or a name that a scope read by a column does not
output. The induction carries, for every name looked up, the column that
reads its scope. -/
theorem derives_leftUnresolved {A : ScopeArena}
    (hplaced : ∀ i S, A.get? i = some S → ∀ g ∈ Field.listLeaves S.fields, ¬ g.IsPending)
    {ask : Ask} {s : Source} (hD : Derives A ask s) (hw : A.Within ask)
    (hk : s.kind = .unresolved) : A.LeftUnresolved s := by
  induction hD with
  | table _ | ambiguous _ | constant | wildcard | several _ _ _ => cases hk
  | @scope n ref p c s ho _ ih =>
    -- the column reads scope `c` by its own name
    obtain ⟨i, S, hS, hleaves⟩ := hw
    exact ih ⟨i, S, n, ref, p, hS, hleaves _ (by simp), ho, .inl rfl⟩ hk
  | @link id name position S n ref p child s hS _ hstars ho _ ih =>
    -- the one wildcard of the scope reads the child
    have hmem : Field.column n ref p ∈ S.fields.filter Field.isStar := by
      rw [hstars]
      exact List.mem_singleton_self _
    obtain ⟨hout, hstar⟩ := List.mem_filter.mp hmem
    exact ih ⟨id, S, n, ref, p, hS, Field.mem_listLeaves.mpr ⟨_, hout, by simp⟩, ho,
      .inr hstar⟩ hk
  | @unbound n ref p ho =>
    obtain ⟨i, S, hS, hleaves⟩ := hw
    exact .inl ⟨i, S, n, ref, p, hS, hleaves _ (by simp), ho, rfl⟩
  | @pending n ref p ho =>
    -- a pending column of a scope's outputs is what the arena rules out
    obtain ⟨i, S, hS, hleaves⟩ := hw
    exact absurd ho (hplaced i S hS (.column n ref p) (hleaves _ (by simp)))
  | derived hg _ ih =>
    obtain ⟨i, S, hS, hleaves⟩ := hw
    exact ih ⟨i, S, hS, fun x hx => hleaves x (Field.mem_listLeaves.mpr ⟨_, hg, hx⟩)⟩ hk
  | scalar hS hg _ ih =>
    exact ih ⟨_, _, hS, fun x hx => Field.mem_listLeaves.mpr ⟨_, hg, hx⟩⟩ hk
  | chosen hS hc _ ih =>
    exact ih ⟨_, _, hS, fun x hx => Field.mem_listLeaves.mpr ⟨_, chooseField_mem hc, hx⟩⟩ hk
  | star hS hc _ _ hs =>
    obtain ⟨i, S', n, ref, p, hS', hleaf, ho, hname⟩ := hw
    obtain ⟨htable, hfield⟩ := starSource_unresolved hs hk
    exact .inr ⟨i, S', n, ref, p, _, _, hS', hleaf, ho, hfield ▸ hname, hS, htable,
      fun g hg => hfield ▸ chooseField_none hc g hg⟩
  | missing hS hc _ =>
    obtain ⟨i, S', n, ref, p, hS', hleaf, ho, hname⟩ := hw
    exact .inr ⟨i, S', n, ref, p, _, _, hS', hleaf, ho, hname, hS, rfl, chooseField_none hc⟩

/-- **No column waits to be placed.** After a walk over a statement that
succeeds, no leaf of any scope's outputs, at any depth of computed fields, is
a column still pending. So every unresolved source of the statement's
lineage is a column that nothing in reach binds, or a name that a scope read
by a column, by that name or through a wildcard, does not output. -/
theorem walk_places_every_column {catalog : Catalog} {maxDepth : Nat} {st : Sql.Statement}
    {d : Detector} (h : (Detector.new catalog maxDepth).detect st = (.ok (), d)) :
    (∀ i S, d.arena.get? i = some S → ∀ g ∈ Field.listLeaves S.fields, ¬ g.IsPending) ∧
      ∀ index, ∀ e ∈ (analyzeStatement catalog maxDepth index st).lineage, ∀ s ∈ e.sources,
        s.kind = .unresolved → d.arena.LeftUnresolved s := by
  obtain ⟨-, -, hstack, hsound⟩ := detect_sound h
  -- with no scope left open, every scope of the arena is done
  have hplaced : ∀ i S, d.arena.get? i = some S → ∀ g ∈ Field.listLeaves S.fields,
      ¬ g.IsPending := fun i S hS =>
    hsound.placed hS ⟨ScopeArena.lt_size_of_get? hS, by simp [hstack]⟩
  refine ⟨hplaced, fun index e he s hs hk => ?_⟩
  obtain ⟨d', hdet, r, root, -, hroot, f, hf, hsrc⟩ := analyzeStatement_derives he
  -- the lineage reads the arena of this same walk
  obtain ⟨-, rfl⟩ := Prod.mk.inj (h.symm.trans hdet)
  exact derives_leftUnresolved hplaced (hsrc s hs)
    ⟨r, root, hroot, fun g hg => Field.mem_listLeaves.mpr ⟨f, hf, hg⟩⟩ hk

/-- `SELECT b FROM (SELECT a FROM t) AS s`: the derived table outputs `a`
only, so `b` is a name it does not output. -/
def missingFromDerived : Sql.Statement :=
  let item (n : String) : Sql.SelectItem := .expr (.identifier { value := n }) none
  let select (n : String) (relation : Sql.TableFactor) : Sql.Query :=
    .mk none [] (.select (.mk "" [item n] "" [.mk relation []] "" none "" none "")) ""
  .query (select "b" (.derived false (select "a" (.table [{ value := "t" }] "" none ""))
    (some { name := { value := "s" } })))

/-- The walk over `missingFromDerived` succeeds. -/
theorem missingFromDerived_walks :
    (Detector.new {} 3).detect missingFromDerived =
      (.ok (), ((Detector.new {} 3).detect missingFromDerived).2) :=
  Prod.ext (by decide +kernel) rfl

theorem missingFromDerived_placed :
    (Detector.new {} 3).detect missingFromDerived =
        (.ok (), ((Detector.new {} 3).detect missingFromDerived).2) ∧
      (∀ i S, ((Detector.new {} 3).detect missingFromDerived).2.arena.get? i = some S →
        ∀ g ∈ Field.listLeaves S.fields, ¬ g.IsPending) ∧
      ∀ index, ∀ e ∈ (analyzeStatement {} 3 index missingFromDerived).lineage,
        ∀ s ∈ e.sources, s.kind = .unresolved →
          ((Detector.new {} 3).detect missingFromDerived).2.arena.LeftUnresolved s :=
  ⟨missingFromDerived_walks, walk_places_every_column missingFromDerived_walks⟩

end ColumnLineage
