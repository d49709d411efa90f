import ColumnLineage.Sql.Token
/-
ColumnLineage/Sql/Syntax.lean

The syntax tree of the SQL statements the reader accepts. The tree keeps as
structure what column lineage reads: every expression that can name or feed an
output column, the FROM clause with its joins, the WHERE and HAVING
predicates, WITH clauses and set operations. Clauses that lineage never looks
into (ordering, grouping, limits, window definitions, table hints) are kept as
their canonical text, which is all the printer needs of them.
-/

namespace ColumnLineage.Sql

/-- An identifier, with the quote it was written in, if any. -/
structure Ident where
  value : String
  quote : Option Char := none
  deriving DecidableEq, Repr, Inhabited

/-- A dotted name such as `db.schema.table`. -/
abbrev ObjectName := List Ident

/-- A literal value. -/
inductive Value where
  | number (digits : String) (long : Bool)
  | singleQuoted (s : String)
  | doubleQuoted (s : String)
  | dollarQuoted (value : String) (tag : Option String)
  | escaped (s : String)
  /-- a `U&'...'` string -/
  | unicode (s : String)
  | national (s : String)
  | hex (s : String)
  | bytes (s : String) (double : Bool)
  | raw (s : String) (double : Bool)
  /-- a string between three quotes, after the prefix `kind` (empty, `B` or
  `R`); `double` for double quotes -/
  | tripleQuoted (kind : String) (s : String) (double : Bool)
  | boolean (b : Bool)
  | null
  | placeholder (s : String)
  deriving DecidableEq, Repr, Inhabited

/-- The ways a value is converted to a type. -/
inductive CastKind where
  | cast | tryCast | safeCast | doubleColon
  deriving DecidableEq, Repr, Inhabited

/-- A column of a table alias, with an optional type. -/
structure AliasColumn where
  name : Ident
  type : Option String := none
  deriving DecidableEq, Repr, Inhabited

/-- The alias of a table reference or CTE, with optional column names. -/
structure TableAlias where
  name : Ident
  columns : List AliasColumn := []
  deriving DecidableEq, Repr, Inhabited

/-- The kinds of join. The constraint is kept beside the join. -/
inductive JoinKind where
  | inner | leftOuter | rightOuter | fullOuter | cross
  | semi | leftSemi | rightSemi | anti | leftAnti | rightAnti
  | crossApply | outerApply
  | asOf (matchCondition : String)
  deriving DecidableEq, Repr, Inhabited

/-- What an INSERT writes into: a named table, or (in some dialects) a table
function, kept as text. -/
inductive InsertTarget where
  | table (name : ObjectName)
  | function (text : String)
  deriving Repr, Inhabited

/-- The bounds of a window frame. -/
inductive BoundKind where
  | currentRow | preceding | following
  deriving DecidableEq, Repr, Inhabited

/-- How a join is constrained, apart from the condition of `ON`, which the
join keeps as an expression. -/
inductive Constraint where
  | on
  | using (columns : List ObjectName)
  | natural
  | none
  deriving Repr, Inhabited

mutual

/-- An expression. -/
inductive Expr where
  | identifier (id : Ident)
  | compound (parts : List Ident)
  | value (v : Value)
  /-- a literal of a named type, such as `DATE '2020-01-01'` -/
  | typedString (type : String) (value : String)
  /-- `e IS NULL`, `e IS NOT TRUE` and the like; `test` is the words after `IS` -/
  | isTest (e : Expr) (test : String)
  | isDistinctFrom (a : Expr) (negated : Bool) (b : Expr)
  | inList (e : Expr) (list : List Expr) (negated : Bool)
  | inSubquery (e : Expr) (q : Query) (negated : Bool)
  | inUnnest (e : Expr) (array : Expr) (negated : Bool)
  | between (e : Expr) (negated : Bool) (low high : Expr)
  | binary (left : Expr) (op : String) (right : Expr)
  /-- `LIKE`, `ILIKE` or `SIMILAR TO` with an optional escape character -/
  | like (op : String) (negated any : Bool) (e pattern : Expr) (escape : Option String)
  | rlike (negated : Bool) (e pattern : Expr) (regexp : Bool)
  /-- `left op ANY (right)`, `ALL` or `SOME` -/
  | quantified (left : Expr) (op : String) (quantifier : String) (right : Expr)
  | unary (op : String) (e : Expr)
  | postOp (e : Expr) (op : String)
  | cast (kind : CastKind) (e : Expr) (type : String) (format : Option String)
  | atTimeZone (timestamp zone : Expr)
  | extract (field : String) (comma : Bool) (e : Expr)
  /-- `CEIL(e)` or `FLOOR(e)`, with a scale or `TO field` -/
  | ceilFloor (name : String) (e : Expr) (scale : Option Expr) (field : Option String)
  | position (e inExpr : Expr)
  | substring (e : Expr) (fromExpr forExpr : Option Expr) (special : Bool)
  /-- `TRIM([side] [what FROM] e)`, or `TRIM(e, chars...)` -/
  | trim (e : Expr) (side : Option String) (what : Option Expr) (chars : List Expr)
  | overlay (e what fromExpr : Expr) (forExpr : Option Expr)
  | collate (e : Expr) (collation : String)
  | nested (e : Expr)
  | tuple (items : List Expr)
  | array (items : List Expr) (named : Bool)
  /-- `INTERVAL value` followed by its qualifier text -/
  | interval (value : Expr) (qualifier : String)
  /-- a call; `params` are the parameters of a parametric aggregate written
  before the arguments, as in `quantile(0.5)(x)`; `escaped` for a call in an
  escape of the form `\x7bfn f(x)\x7d` -/
  | function (name : ObjectName) (params args : FunctionArgs) (filter : Option Expr)
      (nulls : Option String) (window : Option Window) (withinGroup : List OrderItem)
      (escaped : Bool)
  /-- a named argument of a function call, `name => e` -/
  | namedArg (name : Ident) (op : String) (e : Expr)
  /-- an argument named by an expression, `'key' : e` -/
  | exprNamedArg (name : Expr) (op : String) (e : Expr)
  /-- `MATCH (columns) AGAINST (value [modifier])`, a full-text search -/
  | matchAgainst (columns : List Ident) (value : Value) (modifier : Option String)
  | case (operand : Option Expr) (conditions results : List Expr) (otherwise : Option Expr)
  | exists (q : Query) (negated : Bool)
  | subquery (q : Query)
  /-- fields and elements of a value: `root[1].field` -/
  | access (root : Expr) (chain : List Access)
  /-- a path into a semi-structured value, such as `v:a.b[0]` -/
  | pathAccess (e : Expr) (path : List PathStep)
  | composite (e : Expr) (key : Ident)
  | wildcard
  | qualifiedWildcard (name : ObjectName)
  | introduced (introducer : String) (v : Value)
  /-- `CONVERT(e, type)`, `CONVERT(e USING charset)` or, with the type first,
  `CONVERT(type, e, styles...)`; `tryForm` for `TRY_CONVERT` -/
  | convert (tryForm : Bool) (e : Expr) (type : Option String) (charset : Option String)
      (typeFirst : Bool) (styles : List Expr)
  /-- `STRUCT(values)`, or `STRUCT<fields>(values)` when `type` has its fields -/
  | structLiteral (type : String) (values : List Expr)
  /-- a value named inside a struct literal, `e AS name` -/
  | named (e : Expr) (name : Ident)
  /-- `{key: value, ...}` -/
  | dictionary (keys : List Ident) (values : List Expr)
  /-- `MAP {key: value, ...}` -/
  | mapLiteral (entries : List MapEntry)
  /-- `PRIOR e` in a `CONNECT BY` clause -/
  | prior (e : Expr)
  /-- a lambda, `x -> body` or `(x, y) -> body`; `parens` when its parameters
  are in parentheses -/
  | lambda (params : List Ident) (parens : Bool) (body : Expr)
  /-- a column marked for an outer join, `e (+)` -/
  | outerJoin (e : Expr)
  /-- calls of methods on a value, `e.f(x).g()`; each call is a function -/
  | method (e : Expr) (calls : List Expr)

/-- An entry of a map literal. -/
inductive MapEntry where
  | mk (key value : Expr)

/-- A step of access into a value: a field after a period, an index in
brackets, or a slice `lower:upper` with an optional `:stride` in brackets,
each part of it optional. -/
inductive Access where
  | field (e : Expr)
  | index (e : Expr)
  | slice (lower upper stride : Option Expr)

/-- A clause that closes the arguments of a call and may hold an expression,
such as `HAVING MAX e` or `ON OVERFLOW TRUNCATE 'filler' WITH COUNT`: its
words before the expression and after it. -/
inductive ArgClause where
  | mk (before : String) (e : Option Expr) (after : String)

/-- A step of a path into a semi-structured value: a key, bare or quoted, or
an expression in brackets. -/
inductive PathStep where
  | key (name : String) (quoted : Bool)
  | bracket (e : Expr)

/-- The arguments of a function call: none (not even parentheses), a
subquery, or a list with its optional `DISTINCT`, null treatment, ordering,
limit and further clauses. -/
inductive FunctionArgs where
  | none
  | subquery (q : Query)
  | list (duplicate : Option String) (args : List Expr) (nulls : Option String)
      (orderBy : List OrderItem) (limit : Option Expr) (clauses : List ArgClause)

/-- An `ORDER BY` item, with an optional `WITH FILL`. -/
inductive OrderItem where
  | mk (e : Expr) (asc : Option Bool) (nullsFirst : Option Bool) (fill : Option Fill)

/-- How `WITH FILL` completes an ordering: the optional `FROM`, `TO` and
`STEP` expressions. -/
inductive Fill where
  | mk (start stop step : Option Expr)

/-- The window of a window function: a name, or a specification with its
partitioning, ordering and frame. -/
inductive Window where
  | named (name : Ident)
  | spec (name : Option Ident) (partitionBy : List Expr) (orderBy : List OrderItem)
      (units : Option String) (start : BoundKind) (startExpr : Option Expr)
      (finish : Option BoundKind) (finishExpr : Option Expr)

/-- A query: its WITH clause (`none` when absent, else whether it is
recursive, with its CTEs), its body, and the text of its ordering, limit and
similar clauses. -/
inductive Query where
  | mk (recursive : Option Bool) (ctes : List Cte) (body : SetExpr) (tail : String)

/-- A common table expression. -/
inductive Cte where
  | mk (aliasName : TableAlias) (query : Query) (materialized : Option String) (from_ : Option Ident)

/-- The body of a query. -/
inductive SetExpr where
  | select (s : Select)
  | query (q : Query)
  | setOp (left : SetExpr) (op : String) (quantifier : String) (right : SetExpr)
  | values (explicitRow : Bool) (rows : List (List Expr))
  /-- an INSERT as a query body; `head` is the text up to the source query,
  `tail` the text after it -/
  | insert (target : InsertTarget) (columns : List Ident) (source : Option Query)
      (head tail : String)
  /-- a body that lineage does not read, as text: `TABLE t`, `UPDATE ...` -/
  | other (text : String)

/-- A SELECT. `head` is the text between `SELECT` and the items (such as
` DISTINCT`); `into`, `middle`, `grouping` and `tail` are the texts of the
clauses between the parts that lineage reads. -/
inductive Select where
  | mk (head : String) (projection : List SelectItem) (into : String)
      (from_ : List TableWithJoins) (middle : String) (selection : Option Expr)
      (grouping : String) (having : Option Expr) (tail : String)

/-- An item of a select list. -/
inductive SelectItem where
  | expr (e : Expr) (aliasName : Option Ident)
  /-- `*` or `q.*`, with the text of its options such as ` EXCEPT (a)` -/
  | wildcard (qualifier : Option ObjectName) (options : String)

/-- A table reference and the joins that follow it. -/
inductive TableWithJoins where
  | mk (relation : TableFactor) (joins : List Join)

/-- A join: its kind, the joined table, the condition of `ON` and how it is
constrained. -/
inductive Join where
  | mk (global : Bool) (kind : JoinKind) (relation : TableFactor) (on : Option Expr)
      (constraint : Constraint)

/-- A table reference in a FROM clause. -/
inductive TableFactor where
  /-- a named table; `beforeAlias` and `afterAlias` hold the text of its
  arguments, sampling and hints -/
  | table (name : ObjectName) (beforeAlias : String) (aliasName : Option TableAlias)
      (afterAlias : String)
  | derived (lateral : Bool) (q : Query) (aliasName : Option TableAlias)
  | nestedJoin (inner : TableWithJoins) (aliasName : Option TableAlias)
  /-- a reference that binds no columns lineage can follow, such as `UNNEST(...)`,
  as text -/
  | other (text : String)

end

/-- A statement. -/
inductive Statement where
  | query (q : Query)
  | insert (target : InsertTarget) (columns : List Ident) (source : Option Query)
      (head tail : String)
  | createTable (name : ObjectName) (columns : List Ident) (query : Option Query)
  | createView (name : ObjectName) (columns : List Ident) (query : Query)
  /-- a statement lineage does not read, with the text of its rendering (at
  least its first words) -/
  | other (text : String)

instance : Inhabited Expr := ⟨.wildcard⟩

/-- Whether an expression is a chain of method calls. -/
def Expr.isMethod : Expr → Bool
  | .method _ _ => true
  | _ => false
instance : Inhabited Query := ⟨.mk none [] (.other "") ""⟩

end ColumnLineage.Sql
