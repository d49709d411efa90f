import ColumnLineage.Sql.Syntax
import ColumnLineage.Log.Event
import ColumnLineage.Text.Quoted
/-
ColumnLineage/Lineage/Model.lean

The vocabulary of column lineage. A statement is analysed as a forest of
scopes, one for every SELECT, set operation or VALUES list it contains. Each
scope has output fields, which say how each output column is computed, and
bindings, which say what the names of its FROM clause stand for: a table, or
another scope. Following the fields of the outermost scope down through the
bindings ends at sources: columns of tables, literals, or references that
could not be placed. The result for a statement lists, for each output
column, the set of its sources, with the warnings and the error met on the
way.
-/

namespace ColumnLineage

open Sql

/-- A table, with the database it belongs to when one is named. -/
structure TableName where
  database : Option String
  name : String
  deriving DecidableEq, Repr, Inhabited, Hashable

namespace TableName

/-- A table named by the parts of a dotted name: the last part is the table
and the one before it the database; parts before those are dropped. -/
def ofParts (parts : List Ident) : Option TableName :=
  match parts.reverse with
  | [] => none
  | t :: rest => some { database := rest.head?.map (·.value), name := t.value }

/-- `db.table`, or `table` when no database is named. -/
def render (t : TableName) : String :=
  match t.database with
  | some db => db ++ "." ++ t.name
  | none => t.name

/-- A table with an empty name stands for no table. -/
def isBlank (t : TableName) : Bool := t.name.isEmpty

/-- Tables are ordered by database, a missing one first, then by name. -/
def cmp (a b : TableName) : Ordering :=
  (compare a.database b.database).then (compare a.name b.name)

end TableName

/-- How an output column is computed from its inputs. -/
inductive Transformation where
  | direct | aliased | aggregation | function | expression | caseWhen | cast | window
  | subquery | literal | wildcard
  deriving DecidableEq, Repr, Inhabited

/-- The name of a transformation in reports. -/
def Transformation.name : Transformation → String
  | .direct => "direct" | .aliased => "alias" | .aggregation => "aggregation"
  | .function => "function" | .expression => "expression" | .caseWhen => "case_when"
  | .cast => "cast" | .window => "window" | .subquery => "subquery"
  | .literal => "literal" | .wildcard => "wildcard"

/-- Where a column reference points once the bindings of its scope are known. -/
inductive Origin where
  /-- not placed yet: the scope is still being read -/
  | pending
  | table (t : TableName)
  /-- an output column of another scope -/
  | scope (id : Nat)
  /-- more than one binding could supply it; the labels of those bindings -/
  | ambiguous (labels : List String)
  /-- nothing in reach supplies it -/
  | unbound
  deriving DecidableEq, Repr, Inhabited

/-- A column read from a binding of the FROM clause. -/
structure ColumnRef where
  /-- the qualifier as written: `t` in `t.a`, `db.t` in `db.t.a` -/
  qualifier : Option TableName
  column : String
  /-- the place of the column in the output of the scope it comes from, when
  a wildcard expansion knows it -/
  position : Option Nat := none
  origin : Origin := .pending
  deriving DecidableEq, Repr, Inhabited

/-- An output column of a scope, or an input of a computed one: its name,
how it is fed, and how it transforms what feeds it. -/
inductive Field where
  /-- read straight from a column -/
  | column (name : String) (ref : ColumnRef) (process : Transformation)
  /-- computed from the listed inputs -/
  | derived (name : String) (inputs : List Field) (process : Transformation)
  /-- the value of the scalar subquery scope `scope` -/
  | scalar (name : String) (scope : Nat) (process : Transformation)
  /-- no column feeds it -/
  | constant (name : String) (process : Transformation)
  /-- a wildcard whose columns are unknown; `table` is the table behind it,
  when there is one -/
  | wildcard (name : String) (table : Option TableName) (process : Transformation)
  deriving Repr, Inhabited

namespace Field

mutual

/-- Whether two fields are the same, part for part. -/
def beq : Field → Field → Bool
  | .column n r p, .column n' r' p' => n == n' && r == r' && p == p'
  | .derived n ds p, .derived n' ds' p' => n == n' && beqList ds ds' && p == p'
  | .scalar n i p, .scalar n' i' p' => n == n' && i == i' && p == p'
  | .constant n p, .constant n' p' => n == n' && p == p'
  | .wildcard n t p, .wildcard n' t' p' => n == n' && t == t' && p == p'
  | _, _ => false

/-- Whether two lists of fields are the same, field for field. -/
def beqList : List Field → List Field → Bool
  | [], [] => true
  | f :: fs, g :: gs => beq f g && beqList fs gs
  | _, _ => false

end

instance : BEq Field := ⟨beq⟩

/-- The name of a field. -/
def name : Field → String
  | .column n _ _ | .derived n _ _ | .scalar n _ _ | .constant n _ | .wildcard n _ _ => n

/-- How a field transforms its inputs. -/
def process : Field → Transformation
  | .column _ _ p | .derived _ _ p | .scalar _ _ p | .constant _ p | .wildcard _ _ p => p

/-- A field read straight from a column, under the column's own name. -/
def ofColumn (name : String) (ref : ColumnRef) : Field := .column name ref .direct

/-- Whether a name is the name of a wildcard: `*` or `t.*`. -/
def isStarName (n : String) : Bool := n == "*" || n.endsWith ".*"

/-- A wildcard that stands for columns nobody listed. -/
def isStar : Field → Bool
  | .wildcard .. => true
  | .column _ ref _ => isStarName ref.column
  | _ => false

/-- Whether a field is read straight from a column. -/
def isDirect : Field → Bool
  | .column .. => true
  | _ => false

/-- The table a field reads from, for a column placed in a table. -/
def owningTable : Field → Option TableName
  | .column _ { origin := .table t, .. } _ => some t
  | _ => none

/-- The inputs of a computed field. -/
def inputs : Field → List Field
  | .derived _ deps _ => deps
  | _ => []

end Field

/-- What a name of the FROM clause stands for. -/
inductive BindingTarget where
  | table (t : TableName)
  | scope (id : Nat)
  deriving DecidableEq, Repr, Inhabited

/-- A name of the FROM clause and what it stands for; only a derived table
written without an alias has no name. -/
structure Binding where
  aliasName : Option String
  target : BindingTarget
  deriving DecidableEq, Repr, Inhabited

/-- The place a scope holds in a statement. -/
inductive ScopeKind where
  /-- the statement's own query -/
  | query
  /-- a subquery in FROM -/
  | derived
  /-- the body of a WITH clause -/
  | cte
  /-- a scalar subquery whose value feeds an output column -/
  | scalar
  /-- a subquery of a condition, read but never part of an output -/
  | predicate
  /-- an operand of UNION, INTERSECT or EXCEPT -/
  | setOperand
  /-- a VALUES list -/
  | values
  deriving DecidableEq, Repr, Inhabited

/-- The name of a scope kind in reports. -/
def ScopeKind.name : ScopeKind → String
  | .query => "query" | .derived => "derived" | .cte => "cte" | .scalar => "scalar"
  | .predicate => "predicate" | .setOperand => "set_operand" | .values => "values"

/-- The scope kind of a name in reports. -/
def ScopeKind.ofName? : String → Option ScopeKind
  | "query" => some .query | "derived" => some .derived | "cte" => some .cte
  | "scalar" => some .scalar | "predicate" => some .predicate
  | "set_operand" => some .setOperand | "values" => some .values
  | _ => none

/-- A column of `JOIN ... USING`, shared by the first `bindings` bindings. -/
structure UsingColumn where
  column : String
  bindings : Nat
  deriving DecidableEq, Repr, Inhabited

/-- What is known about one scope. -/
structure Scope where
  id : Nat
  parent : Option Nat
  kind : ScopeKind
  fields : List Field := []
  bindings : List Binding := []
  /-- set when the FROM clause holds exactly one table -/
  fromTable : Option TableName := none
  /-- the name the scope is known by in the FROM clause or WITH clause around it -/
  aliasName : Option String
  usingColumns : List UsingColumn := []
  deriving Repr, Inhabited

namespace LogTarget

/-- The target of the events logged while column references are placed. -/
def bindings : String := "lineage_flow::sql_engine::bindings"

/-- The target of the events logged by the walk over a statement. -/
def walk : String := "lineage_flow::sql_engine::detector"

/-- The target of the events logged while the fields of a select list are
made. -/
def fields : String := "lineage_flow::sql_engine::fields"

/-- The target of the events logged while a statement's lineage is
followed. -/
def analysis : String := "lineage_flow::sql_engine::lineage"

end LogTarget

/-- Names in brackets, each quoted with its special characters escaped, as
a log shows a list of names. -/
def quotedNames (names : List String) : String :=
  "[" ++ ", ".intercalate (names.map Text.debugString) ++ "]"

/-- Problems met while computing lineage. Some stop the analysis of a
statement; the others (`isWarning`) are reported beside its result. -/
inductive LineageError where
  | malformed (detail : String)
  | ambiguous (column : String) (candidates : List String)
  | unresolvedWildcard (marker : String)
  | positionalMismatch (targets outputs : Nat)
  | duplicateOutput (column : String) (scope : Nat)
  | depthExceeded (limit : Nat)
  | scopeUnderflow
  | detectorReused
  | unsupported (what : String)
  deriving DecidableEq, Repr, Inhabited

namespace LineageError

/-- The name of the kind of a problem in reports. -/
def kind : LineageError → String
  | .malformed _ => "MalformedAst"
  | .ambiguous .. => "AmbiguousReference"
  | .unresolvedWildcard _ => "UnresolvedWildcard"
  | .positionalMismatch .. => "PositionalMismatch"
  | .duplicateOutput .. => "DuplicateOutputName"
  | .depthExceeded _ => "DepthExceeded"
  | .scopeUnderflow => "ScopeUnderflow"
  | .detectorReused => "DetectorReused"
  | .unsupported _ => "UnsupportedStatement"

/-- The message of a problem. -/
def message : LineageError → String
  | .malformed d => "Malformed statement: " ++ d
  | .ambiguous c cs => "Column '" ++ c ++ "' is ambiguous between " ++ ", ".intercalate cs
  | .unresolvedWildcard m => "Cannot expand '" ++ m ++ "' without catalog information"
  | .positionalMismatch t o =>
    "INSERT lists " ++ toString t ++ " columns but the query produces " ++ toString o
  | .duplicateOutput c s =>
    "Output column '" ++ c ++ "' appears more than once in scope " ++ toString s ++
      ", using the first"
  | .depthExceeded n => "Nesting depth exceeds the limit of " ++ toString n
  | .scopeUnderflow => "Scope stack underflow"
  | .detectorReused => "Detector already holds a statement, call reset() first"
  | .unsupported w => "Unsupported statement: " ++ w

/-- Problems that are reported without stopping the analysis. -/
def isWarning : LineageError → Bool
  | .ambiguous .. | .unresolvedWildcard _ | .duplicateOutput .. => true
  | _ => false

end LineageError

/-- A column of the statement's target: the target table, if any, and the
column's name. -/
structure TargetField where
  table : Option TableName
  field : String
  deriving DecidableEq, Repr, Inhabited

/-- `table.field`, or `field` without a table. -/
def TargetField.render (t : TargetField) : String :=
  match t.table with
  | some tb => tb.render ++ "." ++ t.field
  | none => t.field

/-- Why a source is not a plain column of a table. -/
inductive SourceKind where
  | column | literal | unresolved | ambiguous | unresolvedWildcard
  deriving DecidableEq, Repr, Inhabited

namespace SourceKind

/-- The rank of a kind in the order of sources. -/
def rank : SourceKind → Nat
  | .column => 0 | .literal => 1 | .unresolved => 2 | .ambiguous => 3
  | .unresolvedWildcard => 4

/-- The name of a kind in reports. -/
def name : SourceKind → String
  | .column => "column" | .literal => "literal" | .unresolved => "unresolved"
  | .ambiguous => "ambiguous" | .unresolvedWildcard => "unresolved_wildcard"

/-- The name of a kind where a source is written out. -/
def label : SourceKind → String
  | .column => "Column" | .literal => "Literal" | .unresolved => "Unresolved"
  | .ambiguous => "Ambiguous" | .unresolvedWildcard => "UnresolvedWildcard"

end SourceKind

/-- Where lineage ends: a column of a table, or a literal, or a reference
that could not be placed. -/
structure Source where
  table : Option TableName
  field : String
  kind : SourceKind := .column
  deriving DecidableEq, Repr, Inhabited

namespace Source

/-- The order of sources: by table (none first), by field, then by kind. -/
def cmp (a b : Source) : Ordering :=
  let tables : Ordering :=
    match a.table, b.table with
    | none, none => .eq
    | none, some _ => .lt
    | some _, none => .gt
    | some x, some y => x.cmp y
  (tables.then (compare a.field b.field)).then (compare a.kind.rank b.kind.rank)

/-- `table.field` or `field`, and the kind in parentheses unless it is a
plain column. -/
def render (s : Source) : String :=
  let base := match s.table with
    | some t => t.render ++ "." ++ s.field
    | none => s.field
  if s.kind == .column then base else base ++ " (" ++ s.kind.label ++ ")"

end Source

/-- A set of sources, kept as a list sorted by `Source.cmp` without
repetitions. -/
abbrev SourceSet := List Source

namespace SourceSet

/-- Adds a source to a sorted set, keeping it sorted and free of repetitions. -/
def insert (s : Source) : SourceSet → SourceSet
  | [] => [s]
  | x :: xs =>
    match s.cmp x with
    | .lt => s :: x :: xs
    | .eq => x :: xs
    | .gt => x :: insert s xs

/-- The sources of two sorted sets together, merged in order: a source in
both is kept once. -/
def union : SourceSet → SourceSet → SourceSet
  | [], ys => ys
  | x :: xs, [] => x :: xs
  | x :: xs, y :: ys =>
    match x.cmp y with
    | .lt => x :: union xs (y :: ys)
    | .gt => y :: union (x :: xs) ys
    | .eq => x :: union xs ys
termination_by xs ys => xs.length + ys.length
decreasing_by all_goals (simp only [List.length_cons]; omega)

end SourceSet

/-- The lineage of one target column. -/
structure TargetLineage where
  target : TargetField
  sources : SourceSet
  transformation : Transformation
  deriving Repr, Inhabited

/-- Everything computed for one statement of a batch, with the events logged
while it was analysed, in order. -/
structure StatementReport where
  index : Nat
  targetTable : Option TableName
  lineage : List TargetLineage
  warnings : List LineageError
  error : Option LineageError
  events : List Log.Event := []
  deriving Repr, Inhabited

namespace StatementReport

/-- A statement whose analysis met no error. -/
def isOk (r : StatementReport) : Bool := r.error.isNone

/-- The lineage of the first target column named `field`. -/
def lookup (r : StatementReport) (field : String) : Option TargetLineage :=
  r.lineage.find? (·.target.field == field)

end StatementReport

end ColumnLineage
