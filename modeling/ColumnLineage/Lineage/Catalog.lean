import ColumnLineage.Lineage.Model
/-
ColumnLineage/Lineage/Catalog.lean

What is known of the tables a statement reads: for some tables, the names of
their columns in order. Lineage works without it; with it, wildcards expand
into columns and an unqualified column of a join is placed in the one table
that has it.

A table is found by its exact name. A name without a database also finds the
one table of that name when exactly one is known; a name with a database
finds only itself.
-/

namespace ColumnLineage

/-- The columns of a known table, in the order they were declared. -/
structure Schema where
  table : TableName
  columns : List String
  deriving DecidableEq, Repr, Inhabited

/-- The known tables, each at most once. -/
structure Catalog where
  schemas : List Schema := []
  deriving Repr, Inhabited

namespace Catalog

/-- Adds a table, replacing what was known of a table of the same name. -/
def register (c : Catalog) (s : Schema) : Catalog :=
  if c.schemas.any (·.table == s.table) then
    { schemas := c.schemas.map fun old => if old.table == s.table then s else old }
  else { schemas := c.schemas ++ [s] }

/-- The catalog of the given tables, registered in order. -/
def ofSchemas (ss : List Schema) : Catalog := ss.foldl register {}

/-- Whether no table is known. -/
def isEmpty (c : Catalog) : Bool := c.schemas.isEmpty

/-- The known tables. -/
def tables (c : Catalog) : List TableName := c.schemas.map (·.table)

/-- The schema of a table: the one of its exact name, or, for a name without
a database, the only table of that name. -/
def schema? (c : Catalog) (t : TableName) : Option Schema :=
  match c.schemas.find? (·.table == t) with
  | some s => some s
  | none =>
    if t.database.isSome then none
    else
      match c.schemas.filter (·.table.name == t.name) with
      | [s] => some s
      | _ => none

/-- The columns of a table, when it is known. -/
def columns? (c : Catalog) (t : TableName) : Option (List String) :=
  (c.schema? t).map (·.columns)

/-- Whether a known table has a column; `none` when the table is unknown. -/
def hasColumn (c : Catalog) (t : TableName) (column : String) : Option Bool :=
  (c.columns? t).map (·.contains column)

end Catalog

end ColumnLineage
