import ColumnLineage.Lineage.Analyze
import ColumnLineage.Text.Json
/-
ColumnLineage/Report/Json.lean

The JSON forms of lineage results and of scopes. Tables are written as their
text (`db.t` or `t`); a problem as its message; a choice between kinds of
thing (a field's kind, an origin, a binding's target) as an object with its
`type` and, when it carries one, its `value`.
-/

namespace ColumnLineage

open Text

/-- A table as its text. -/
def TableName.toJson (t : TableName) : Json := .str t.render

/-- A table or `null`. -/
def tableJson (t : Option TableName) : Json := Json.opt TableName.toJson t

/-- A source; its kind is written unless it is a plain column. -/
def Source.toJson (s : Source) : Json :=
  .obj ([("table", tableJson s.table), ("field", .str s.field)] ++
    if s.kind == .column then [] else [("kind", .str s.kind.name)])

/-- A target column. -/
def TargetField.toJson (t : TargetField) : Json :=
  .obj [("table", tableJson t.table), ("field", .str t.field)]

/-- A problem as its message. -/
def LineageError.toJson (e : LineageError) : Json := .str e.message

/-- A statement's report: its index, target table and lineage, then its
warnings and error when there are any. -/
def StatementReport.toJson (r : StatementReport) : Json :=
  .obj ([("statement_index", .num r.index),
      ("target_table", tableJson r.targetTable),
      ("lineage", .arr (r.lineage.map fun l =>
        .obj [("target", l.target.toJson), ("sources", .arr (l.sources.map Source.toJson))]))] ++
    (if r.warnings.isEmpty then [] else [("warnings", .arr (r.warnings.map LineageError.toJson))]) ++
    (match r.error with
      | some e => [("error", e.toJson)]
      | none => []))

/-- An origin of a column reference. -/
def Origin.toJson : Origin → Json
  | .pending => .obj [("type", .str "pending")]
  | .table t => .obj [("type", .str "table"), ("value", t.toJson)]
  | .scope id => .obj [("type", .str "scope"), ("value", .num id)]
  | .ambiguous labels => .obj [("type", .str "ambiguous"), ("value", .arr (labels.map .str))]
  | .unbound => .obj [("type", .str "unbound")]

/-- A column reference. -/
def ColumnRef.toJson (r : ColumnRef) : Json :=
  .obj [("qualifier", tableJson r.qualifier), ("column", .str r.column),
    ("position", Json.opt .num r.position), ("origin", r.origin.toJson)]

mutual

/-- A field: its name, its kind and its transformation. -/
def Field.toJson : Field → Json
  | .column n ref p => entry n (.obj [("type", .str "column"), ("value", ref.toJson)]) p
  | .derived n deps p => entry n (.obj [("type", .str "derived"), ("value", .arr (Field.listJson deps))]) p
  | .scalar n id p => entry n (.obj [("type", .str "scalar_subquery"), ("value", .num id)]) p
  | .constant n p => entry n (.obj [("type", .str "constant")]) p
  | .wildcard n t p =>
    entry n (.obj [("type", .str "unresolved_wildcard"), ("value", .obj [("table", tableJson t)])]) p
where
  entry (n : String) (kind : Json) (p : Transformation) : Json :=
    .obj [("field_name", .str n), ("kind", kind), ("process", .str p.name)]

/-- Fields in order. -/
def Field.listJson : List Field → List Json
  | [] => []
  | f :: rest => f.toJson :: Field.listJson rest

end

/-- What a binding stands for. -/
def BindingTarget.toJson : BindingTarget → Json
  | .table t => .obj [("type", .str "table"), ("value", t.toJson)]
  | .scope id => .obj [("type", .str "scope"), ("value", .num id)]

/-- A scope with everything known about it. -/
def Scope.toJson (s : Scope) : Json :=
  .obj [("id", .num s.id), ("parent_id", Json.opt .num s.parent), ("kind", .str s.kind.name),
    ("output_fields", .arr (Field.listJson s.fields)),
    ("bindings", .arr (s.bindings.map fun b =>
      .obj [("alias", Json.optStr b.aliasName), ("target", b.target.toJson)])),
    ("from_table", tableJson s.fromTable), ("table_alias", Json.optStr s.aliasName),
    ("using_columns", .arr (s.usingColumns.map fun u =>
      .obj [("column", .str u.column), ("bindings", .num u.bindings)]))]

end ColumnLineage
