import Mathlib.Data.List.Basic
import Mathlib.Data.List.Induction
import ColumnLineage.Lineage.Catalog
/-
ColumnLineage/Proofs/CatalogHistory.lean

The catalog as the history of its registrations. Tables are registered one
after another, and a table registered again replaces what was known of it;
the catalog then holds, for each table registered, in the order the tables
were first registered, the schema it was registered with last
(`ofSchemas_schemas`). Every question put to the catalog is answered from
that history alone (`catalog_answers_from_history`): a table is found by its
exact name, as last registered; a name without a database that was never
registered as such finds the one table of that name, when exactly one table
of that name was registered; and the known tables are the registered ones,
each once.
-/

namespace ColumnLineage

/-! ### First occurrences

A list with its repeats dropped, each element kept where it first occurs
(`List.eraseDups`). The tables of a catalog are kept so, and so are the nodes
of a lineage graph. -/

section FirstOccurrences

variable {α : Type} [BEq α] [LawfulBEq α]

theorem eraseDups_concat (l : List α) (a : α) :
    (l ++ [a]).eraseDups = if a ∈ l then l.eraseDups else l.eraseDups ++ [a] := by
  by_cases h : a ∈ l
  · rw [if_pos h]
    simp [List.eraseDups_append, List.removeAll, h]
  · rw [if_neg h]
    simp [List.eraseDups_append, List.removeAll, h, List.eraseDups_cons]

theorem nodup_eraseDups (l : List α) : l.eraseDups.Nodup := by
  induction l using List.reverseRecOn with
  | nil => simp
  | append_singleton l a ih =>
    rw [eraseDups_concat]
    split
    · exact ih
    · rename_i fresh
      refine List.nodup_append.2 ⟨ih, by simp, ?_⟩
      intro b hb c hc same
      simp only [List.mem_singleton] at hc
      exact fresh (List.mem_eraseDups.1 (hc ▸ same ▸ hb))

end FirstOccurrences

namespace Catalog

/-- The schema last registered for exactly the table `t`. -/
def lastRegistration (regs : List Schema) (t : TableName) : Option Schema :=
  (regs.filter (·.table == t)).getLast?

/-- The tables registered, each once, in the order they were first registered. -/
def registeredTables (regs : List Schema) : List TableName :=
  (regs.map (·.table)).eraseDups

/-- What a history of registrations says of a table reference: the schema
last registered for exactly that table; else, for a name without a database,
the schema last registered for the only table of that name, when exactly one
table of that name was registered; else nothing. -/
def registeredSchema (regs : List Schema) (t : TableName) : Option Schema :=
  match lastRegistration regs t with
  | some s => some s
  | none =>
    match t.database, (registeredTables regs).filter (·.name == t.name) with
    | none, [k] => lastRegistration regs k
    | _, _ => none

/-! ### The history -/

section History

variable {regs : List Schema} {s : Schema} {t : TableName}

theorem lastRegistration_append_single (regs : List Schema) (s : Schema) (t : TableName) :
    lastRegistration (regs ++ [s]) t =
      if s.table = t then some s else lastRegistration regs t := by
  by_cases h : s.table = t <;> simp [lastRegistration, List.filter_append, h]

theorem table_of_lastRegistration (h : lastRegistration regs t = some s) : s.table = t := by
  have hmem : s ∈ regs.filter (·.table == t) := List.mem_of_getLast? h
  simpa using (List.mem_filter.1 hmem).2

theorem lastRegistration_eq_none_iff :
    lastRegistration regs t = none ↔ t ∉ registeredTables regs := by
  simp [lastRegistration, registeredTables]

theorem exists_lastRegistration (h : t ∈ registeredTables regs) :
    ∃ s, lastRegistration regs t = some s := by
  cases hl : lastRegistration regs t with
  | none => exact absurd h (lastRegistration_eq_none_iff.1 hl)
  | some s => exact ⟨s, rfl⟩

theorem registeredTables_append_single (regs : List Schema) (s : Schema) :
    registeredTables (regs ++ [s]) =
      if s.table ∈ registeredTables regs then registeredTables regs
      else registeredTables regs ++ [s.table] := by
  simp only [registeredTables, List.map_append, List.map_cons, List.map_nil, eraseDups_concat,
    List.mem_eraseDups]

theorem mem_registeredTables : t ∈ registeredTables regs ↔ ∃ s ∈ regs, s.table = t := by
  simp [registeredTables]

/-- The schemas a catalog holds when it is the catalog of `regs`: one per
table registered, in the order of first registration, each as last
registered. -/
def held (regs : List Schema) : List Schema :=
  (registeredTables regs).filterMap (lastRegistration regs)

/-- A schema is held exactly when it is the last registration of its own table. -/
theorem mem_held : s ∈ held regs ↔ lastRegistration regs s.table = some s := by
  constructor
  · intro h
    obtain ⟨k, -, hk⟩ := List.mem_filterMap.1 h
    rwa [table_of_lastRegistration hk]
  · intro h
    have hmem : s.table ∈ registeredTables regs := by
      by_contra absent
      rw [lastRegistration_eq_none_iff.2 absent] at h
      cases h
    exact List.mem_filterMap.2 ⟨s.table, hmem, h⟩

theorem map_table_held (regs : List Schema) :
    (held regs).map (·.table) = registeredTables regs := by
  rw [held, List.map_filterMap]
  calc (registeredTables regs).filterMap (fun k => (lastRegistration regs k).map (·.table))
      = (registeredTables regs).filterMap some := by
        apply List.filterMap_congr
        intro k hk
        obtain ⟨s, hs⟩ := exists_lastRegistration hk
        simp [hs, table_of_lastRegistration hs]
    _ = registeredTables regs := List.filterMap_some

theorem find?_held (regs : List Schema) (t : TableName) :
    (held regs).find? (·.table == t) = lastRegistration regs t := by
  cases hfind : (held regs).find? (·.table == t) with
  | some s =>
    have ht : s.table = t := by simpa using List.find?_some hfind
    rw [← ht]
    exact (mem_held.1 (List.mem_of_find?_eq_some hfind)).symm
  | none =>
    -- a last registration of `t` would be held, and found
    cases hl : lastRegistration regs t with
    | none => rfl
    | some s =>
      have hs : s ∈ held regs := mem_held.2 (by rwa [table_of_lastRegistration hl])
      have := List.find?_eq_none.1 hfind s hs
      simp [table_of_lastRegistration hl] at this

/-! ### A registration, and a history of them -/

/-- Registering `s` in the catalog of `regs` gives the catalog of `regs ++ [s]`:
a table registered before keeps its place and takes the new schema, a new one
comes last. -/
theorem register_held {c : Catalog} (hc : c.schemas = held regs) (s : Schema) :
    (c.register s).schemas = held (regs ++ [s]) := by
  have hany : c.schemas.any (·.table == s.table) = true ↔ s.table ∈ registeredTables regs := by
    rw [hc, ← map_table_held]
    simp
  rw [held, registeredTables_append_single]
  by_cases hs : s.table ∈ registeredTables regs
  · -- replaced in place
    rw [register, if_pos (hany.2 hs), if_pos hs, hc, held, List.map_filterMap]
    apply List.filterMap_congr
    intro k hk
    obtain ⟨old, hold⟩ := exists_lastRegistration hk
    rw [lastRegistration_append_single, hold, ← table_of_lastRegistration hold]
    by_cases same : old.table = s.table
    · simp [same]
    · simp [same, Ne.symm same]
  · -- added at the end
    have hkeep : ∀ k ∈ registeredTables regs,
        lastRegistration (regs ++ [s]) k = lastRegistration regs k := by
      intro k hk
      have : s.table ≠ k := fun h => hs (h ▸ hk)
      rw [lastRegistration_append_single, if_neg this]
    rw [register, if_neg (mt hany.1 hs), if_neg hs, hc, held, List.filterMap_append,
      List.filterMap_congr hkeep]
    simp [lastRegistration_append_single]

theorem foldl_register_held (regs more : List Schema) {c : Catalog} (hc : c.schemas = held regs) :
    (more.foldl register c).schemas = held (regs ++ more) := by
  induction more generalizing regs c with
  | nil => simpa using hc
  | cons s more ih =>
    rw [List.foldl_cons, ih (regs ++ [s]) (register_held hc s)]
    simp

/-- The catalog of a history of registrations holds, for each table
registered, in the order of first registration, its last schema. -/
theorem ofSchemas_schemas (regs : List Schema) : (ofSchemas regs).schemas = held regs := by
  simpa [ofSchemas] using foldl_register_held [] regs (c := {}) rfl

theorem tables_ofSchemas (regs : List Schema) : (ofSchemas regs).tables = registeredTables regs := by
  rw [tables, ofSchemas_schemas, map_table_held]

theorem schema?_ofSchemas (regs : List Schema) (t : TableName) :
    (ofSchemas regs).schema? t = registeredSchema regs t := by
  have hfilter : (registeredTables regs).filter (·.name == t.name) =
      ((held regs).filter (·.table.name == t.name)).map (·.table) := by
    rw [← map_table_held, List.filter_map]
    rfl
  rw [schema?, registeredSchema, ofSchemas_schemas, find?_held, hfilter]
  cases lastRegistration regs t with
  | some s => rfl
  | none =>
    dsimp only
    cases t.database with
    | some _ => rfl
    | none =>
      rw [Option.isSome_none, if_neg Bool.false_ne_true]
      -- the one table of that name is the table of the one schema of that name
      have hheld : ∀ s ∈ (held regs).filter (·.table.name == t.name), s ∈ held regs :=
        fun s hs => (List.mem_filter.1 hs).1
      generalize (held regs).filter (·.table.name == t.name) = l at hheld ⊢
      match l with
      | [] => rfl
      | [s] => exact (mem_held.1 (hheld s (List.mem_singleton_self s))).symm
      | _ :: _ :: _ => rfl

/-- Every question put to a catalog built by registrations is answered from
their history: the schema of a table reference, its columns and whether it
has a column all follow `registeredSchema`, and the known tables are the
tables registered, each once. -/
theorem catalog_answers_from_history (regs : List Schema) (t : TableName) (column : String) :
    (ofSchemas regs).schema? t = registeredSchema regs t ∧
    (ofSchemas regs).columns? t = (registeredSchema regs t).map (·.columns) ∧
    (ofSchemas regs).hasColumn t column =
      (registeredSchema regs t).map (fun s => decide (column ∈ s.columns)) ∧
    (ofSchemas regs).tables.Nodup ∧
    ∀ k, k ∈ (ofSchemas regs).tables ↔ ∃ s ∈ regs, s.table = k := by
  refine ⟨schema?_ofSchemas regs t, ?_, ?_, ?_, ?_⟩
  · rw [columns?, schema?_ofSchemas]
  · rw [hasColumn, columns?, schema?_ofSchemas, Option.map_map]
    congr 1
    funext s
    simp
  · rw [tables_ofSchemas]
    exact nodup_eraseDups _
  · intro k
    rw [tables_ofSchemas, mem_registeredTables]

/- Two databases hold an `orders` table, so `orders` alone names neither; a
table registered again answers with its last columns. -/
example :
    let regs : List Schema :=
      [⟨⟨some "app", "users"⟩, ["id", "name"]⟩, ⟨⟨some "app", "orders"⟩, ["id"]⟩,
        ⟨⟨some "archive", "orders"⟩, ["id"]⟩, ⟨⟨some "app", "users"⟩, ["id"]⟩]
    (ofSchemas regs).schema? ⟨none, "orders"⟩ = none ∧
      (ofSchemas regs).hasColumn ⟨none, "users"⟩ "name" = some false := by
  decide

end History

end Catalog

end ColumnLineage
