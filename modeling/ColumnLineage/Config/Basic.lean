import ColumnLineage.Lineage.Analyze
import ColumnLineage.Sql.Read
/-
ColumnLineage/Config/Basic.lean

The settings of an analysis: the dialect the SQL is read in, the nesting
limit, and the tables whose columns are known. Extracting lineage reads the
SQL in the configured dialect and analyses every statement read.
-/

namespace ColumnLineage

/-- The layout of one known table. -/
structure TableConfig where
  database : Option String := none
  name : String
  columns : List String := []
  deriving DecidableEq, Repr, Inhabited

/-- The settings of an analysis. -/
structure Config where
  dialect : String := "generic"
  maxDepth : Nat := defaultMaxDepth
  tables : List TableConfig := []
  deriving DecidableEq, Repr, Inhabited

/-- Why lineage could not be extracted at all. -/
inductive RunError where
  | unknownDialect (name : String)
  | parse (e : Sql.ParseError)
  deriving DecidableEq, Repr

/-- The message of a failure to extract lineage. -/
def RunError.message : RunError → String
  | .unknownDialect n => "Unknown SQL dialect: " ++ n
  | .parse e => "Error parsing SQL: " ++ e.message

namespace Config

/-- The catalog of the configured tables, registered in order. -/
def catalog (c : Config) : Catalog :=
  Catalog.ofSchemas (c.tables.map fun t =>
    { table := { database := t.database, name := t.name }, columns := t.columns })

/-- The configured dialect. -/
def sqlDialect (c : Config) : Except RunError Sql.Dialect :=
  match Sql.Dialect.ofName? c.dialect with
  | some d => .ok d
  | none => .error (.unknownDialect c.dialect)

/-- The statements of `sql`, read in the configured dialect. -/
def readSql (c : Config) (sql : String) : Except RunError (List Sql.Statement) := do
  let d ← c.sqlDialect
  match Sql.readStatements d sql with
  | .ok sts => pure sts
  | .error e => throw (.parse e)

end Config

/-- The lineage of every statement of `sql`. -/
def extractLineage (sql : String) (c : Config) : Except RunError (List StatementReport) := do
  let sts ← c.readSql sql
  pure (analyzeStatements c.catalog c.maxDepth sts)

end ColumnLineage
