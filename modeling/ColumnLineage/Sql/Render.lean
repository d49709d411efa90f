import ColumnLineage.Sql.Syntax
import ColumnLineage.Text.Quoted
/-
ColumnLineage/Sql/Render.lean

The canonical text of the syntax tree. Keywords are written in upper case,
items are separated by `, `, operators stand between single blanks, and
identifiers and strings are written in their quotes with the quotes inside
doubled. This text names every select item that has no alias, so it is the
text that reports and lineage answers show.
-/

namespace ColumnLineage.Sql

open ColumnLineage.Text

/-- The text of an identifier: bare, or in its quotes with inner quotes
doubled; brackets are written as they stand. -/
def Ident.render (i : Ident) : String :=
  match i.quote with
  | some '[' => "[" ++ i.value ++ "]"
  | some q => String.singleton q ++ doubleQuotes q i.value ++ String.singleton q
  | none => i.value

/-- The text of a dotted name. -/
def renderName (n : ObjectName) : String := ".".intercalate (n.map Ident.render)

/-- Items separated by `, `. -/
def commaList (xs : List String) : String := ", ".intercalate xs

/-- The text of a literal value. -/
def Value.render : Value → String
  | .number n l => if l then n ++ "L" else n
  | .singleQuoted s => "'" ++ doubleQuotes '\'' s ++ "'"
  | .doubleQuoted s => "\"" ++ doubleQuotes '"' s ++ "\""
  | .dollarQuoted v none => "$$" ++ v ++ "$$"
  | .dollarQuoted v (some t) => "$" ++ t ++ "$" ++ v ++ "$" ++ t ++ "$"
  | .escaped s => "E'" ++ backslashEscape s ++ "'"
  | .unicode s => "U&'" ++ unicodeEscape s ++ "'"
  | .national s => "N'" ++ s ++ "'"
  | .hex s => "X'" ++ s ++ "'"
  | .bytes s d => if d then "B\"" ++ s ++ "\"" else "B'" ++ s ++ "'"
  | .raw s d => if d then "R\"" ++ s ++ "\"" else "R'" ++ s ++ "'"
  | .tripleQuoted k s d => k ++ (if d then "\"\"\"" ++ s ++ "\"\"\"" else "'''" ++ s ++ "'''")
  | .boolean b => if b then "true" else "false"
  | .null => "NULL"
  | .placeholder s => s

/-- The text of a column of a table alias. -/
def AliasColumn.render (c : AliasColumn) : String :=
  match c.type with
  | some t => c.name.render ++ " " ++ t
  | none => c.name.render

/-- The text of a table alias: its name and its columns in parentheses. -/
def TableAlias.render (a : TableAlias) : String :=
  if a.columns.isEmpty then a.name.render
  else a.name.render ++ " (" ++ commaList (a.columns.map AliasColumn.render) ++ ")"

/-- ` AS alias`, or nothing. -/
def renderAlias : Option TableAlias → String
  | some a => " AS " ++ a.render
  | none => ""

/-- The words of a join kind, with the `NATURAL` prefix when asked. -/
def JoinKind.words (natural : Bool) : JoinKind → String
  | .inner => (if natural then "NATURAL " else "") ++ "JOIN"
  | .leftOuter => (if natural then "NATURAL " else "") ++ "LEFT JOIN"
  | .rightOuter => (if natural then "NATURAL " else "") ++ "RIGHT JOIN"
  | .fullOuter => (if natural then "NATURAL " else "") ++ "FULL JOIN"
  | .cross => "CROSS JOIN"
  | .semi => (if natural then "NATURAL " else "") ++ "SEMI JOIN"
  | .leftSemi => (if natural then "NATURAL " else "") ++ "LEFT SEMI JOIN"
  | .rightSemi => (if natural then "NATURAL " else "") ++ "RIGHT SEMI JOIN"
  | .anti => (if natural then "NATURAL " else "") ++ "ANTI JOIN"
  | .leftAnti => (if natural then "NATURAL " else "") ++ "LEFT ANTI JOIN"
  | .rightAnti => (if natural then "NATURAL " else "") ++ "RIGHT ANTI JOIN"
  | .crossApply => "CROSS APPLY"
  | .outerApply => "OUTER APPLY"
  | .asOf _ => "ASOF JOIN"

/-- The text of a frame bound, given its offset expression. -/
def BoundKind.render (k : BoundKind) (e : Option String) : String :=
  match k, e with
  | .currentRow, _ => "CURRENT ROW"
  | .preceding, none => "UNBOUNDED PRECEDING"
  | .following, none => "UNBOUNDED FOLLOWING"
  | .preceding, some n => n ++ " PRECEDING"
  | .following, some n => n ++ " FOLLOWING"

/-- `NOT ` when negated. -/
def notWord (negated : Bool) : String := if negated then "NOT " else ""

/-- Pieces joined by single blanks, the empty ones left out. -/
def spaced (xs : List String) : String := " ".intercalate (xs.filter (· ≠ ""))

/-- The `WHEN ... THEN ...` pairs of a CASE, conditions and results taken in
step. -/
def whenClauses : List String → List String → String
  | c :: cs, r :: rs => " WHEN " ++ c ++ " THEN " ++ r ++ whenClauses cs rs
  | _, _ => ""

mutual

/-- The text of an expression. -/
def Expr.render : Expr → String
  | .identifier i => i.render
  | .compound parts => renderName parts
  | .value v => v.render
  | .typedString t v => t ++ " '" ++ doubleQuotes '\'' v ++ "'"
  | .isTest e test => e.render ++ " IS " ++ test
  | .isDistinctFrom a n b =>
    a.render ++ " IS " ++ notWord n ++ "DISTINCT FROM " ++ b.render
  | .inList e l n => e.render ++ " " ++ notWord n ++ "IN (" ++ Expr.renderList l ++ ")"
  | .inSubquery e q n => e.render ++ " " ++ notWord n ++ "IN (" ++ q.render ++ ")"
  | .inUnnest e a n => e.render ++ " " ++ notWord n ++ "IN UNNEST(" ++ a.render ++ ")"
  | .between e n lo hi =>
    e.render ++ " " ++ notWord n ++ "BETWEEN " ++ lo.render ++ " AND " ++ hi.render
  | .binary l op r => l.render ++ " " ++ op ++ " " ++ r.render
  | .like op n any e p esc =>
    e.render ++ " " ++ notWord n ++ op ++ " " ++ (if any then "ANY " else "") ++ p.render ++
      (match esc with | some c => " ESCAPE '" ++ c ++ "'" | none => "")
  | .rlike n e p regexp =>
    e.render ++ " " ++ notWord n ++ (if regexp then "REGEXP" else "RLIKE") ++ " " ++ p.render
  | .quantified l op quant r =>
    match r with
    | .subquery _ => l.render ++ " " ++ op ++ " " ++ quant ++ r.render
    | _ => l.render ++ " " ++ op ++ " " ++ quant ++ "(" ++ r.render ++ ")"
  | .unary op e =>
    if op == "NOT" then "NOT " ++ e.render else op ++ e.render
  | .postOp e op => e.render ++ op
  | .cast k e t fmt =>
    let f := match fmt with | some s => " FORMAT " ++ s | none => ""
    match k with
    | .cast => "CAST(" ++ e.render ++ " AS " ++ t ++ f ++ ")"
    | .tryCast => "TRY_CAST(" ++ e.render ++ " AS " ++ t ++ f ++ ")"
    | .safeCast => "SAFE_CAST(" ++ e.render ++ " AS " ++ t ++ f ++ ")"
    | .doubleColon => e.render ++ "::" ++ t
  | .atTimeZone ts z => ts.render ++ " AT TIME ZONE " ++ z.render
  | .extract field comma e =>
    if comma then "EXTRACT(" ++ field ++ ", " ++ e.render ++ ")"
    else "EXTRACT(" ++ field ++ " FROM " ++ e.render ++ ")"
  | .ceilFloor name e scale field =>
    match scale, field with
    | some s, _ => name ++ "(" ++ e.render ++ ", " ++ s.render ++ ")"
    | none, some fld => name ++ "(" ++ e.render ++ " TO " ++ fld ++ ")"
    | none, none => name ++ "(" ++ e.render ++ ")"
  | .position e i => "POSITION(" ++ e.render ++ " IN " ++ i.render ++ ")"
  | .substring e fromE forE special =>
    let fromText := match fromE with
      | some x => (if special then ", " else " FROM ") ++ x.render
      | none => ""
    let forText := match forE with
      | some x => (if special then ", " else " FOR ") ++ x.render
      | none => ""
    "SUBSTRING(" ++ e.render ++ fromText ++ forText ++ ")"
  | .trim e side what chars =>
    let sideText := match side with | some s => s ++ " " | none => ""
    let body := match what with
      | some w => w.render ++ " FROM " ++ e.render
      | none => e.render
    let charsText := match chars with
      | [] => ""
      | cs => ", " ++ Expr.renderList cs
    "TRIM(" ++ sideText ++ body ++ charsText ++ ")"
  | .overlay e what fromE forE =>
    "OVERLAY(" ++ e.render ++ " PLACING " ++ what.render ++ " FROM " ++ fromE.render ++
      (match forE with | some x => " FOR " ++ x.render | none => "") ++ ")"
  | .collate e c => e.render ++ " COLLATE " ++ c
  | .nested e => "(" ++ e.render ++ ")"
  | .tuple items => "(" ++ Expr.renderList items ++ ")"
  | .array items named => (if named then "ARRAY" else "") ++ "[" ++ Expr.renderList items ++ "]"
  | .interval v q => "INTERVAL " ++ v.render ++ q
  | .function name params args filter nulls window withinGroup escaped =>
    (if escaped then "\x7bfn " else "") ++
    renderName name ++ params.render ++ args.render ++
      (match withinGroup with
        | [] => ""
        | items => " WITHIN GROUP (ORDER BY " ++ OrderItem.renderList items ++ ")") ++
      (match filter with | some f => " FILTER (WHERE " ++ f.render ++ ")" | none => "") ++
      (match nulls with | some n => " " ++ n | none => "") ++
      (match window with | some w => " OVER " ++ w.render | none => "") ++
      (if escaped then "\x7d" else "")
  | .namedArg name op e => name.render ++ " " ++ op ++ " " ++ e.render
  | .exprNamedArg name op e => name.render ++ " " ++ op ++ " " ++ e.render
  | .matchAgainst columns v modifier =>
    "MATCH (" ++ commaList (columns.map Ident.render) ++ ") AGAINST (" ++ v.render ++
      (match modifier with | some m => " " ++ m | none => "") ++ ")"
  | .case operand conditions results otherwise =>
    "CASE" ++ (match operand with | some o => " " ++ o.render | none => "") ++
      whenClauses (Expr.renderEach conditions) (Expr.renderEach results) ++
      (match otherwise with | some o => " ELSE " ++ o.render | none => "") ++ " END"
  | .exists q n => notWord n ++ "EXISTS (" ++ q.render ++ ")"
  | .subquery q => "(" ++ q.render ++ ")"
  | .access root chain => root.render ++ Access.renderList chain
  | .pathAccess e path => e.render ++ PathStep.renderList true path
  | .composite e key => e.render ++ "." ++ key.render
  | .lambda params parens body =>
    (if parens then "(" ++ commaList (params.map Ident.render) ++ ")"
     else commaList (params.map Ident.render)) ++ " -> " ++ body.render
  | .outerJoin e => e.render ++ " (+)"
  | .method e calls => e.render ++ "." ++ ".".intercalate (Expr.renderEach calls)
  | .wildcard => "*"
  | .qualifiedWildcard name => renderName name ++ ".*"
  | .introduced intro v => intro ++ " " ++ v.render
  | .convert tryForm e type charset typeFirst styles =>
    let body := match type, charset with
      | some t, some c => e.render ++ ", " ++ t ++ " CHARACTER SET " ++ c
      | some t, none => if typeFirst then t ++ ", " ++ e.render else e.render ++ ", " ++ t
      | none, some c => e.render ++ " USING " ++ c
      | none, none => e.render
    (if tryForm then "TRY_" else "") ++ "CONVERT(" ++ body ++
      (match styles with | [] => "" | ss => ", " ++ Expr.renderList ss) ++ ")"
  | .structLiteral type values => type ++ "(" ++ Expr.renderList values ++ ")"
  | .named e name => e.render ++ " AS " ++ name.render
  | .dictionary keys values =>
    "\x7b" ++ commaList ((keys.zip (Expr.renderEach values)).map fun (key, v) =>
      key.render ++ ": " ++ v) ++ "\x7d"
  | .mapLiteral entries => "MAP \x7b" ++ MapEntry.renderList entries ++ "\x7d"
  | .prior e => "PRIOR " ++ e.render

/-- Expressions separated by `, `. -/
def Expr.renderList : List Expr → String
  | [] => ""
  | [e] => e.render
  | e :: es => e.render ++ ", " ++ Expr.renderList es

/-- Map entries, `key: value`, separated by `, `. -/
def MapEntry.renderList : List MapEntry → String
  | [] => ""
  | [.mk key v] => key.render ++ ": " ++ v.render
  | .mk key v :: rest => key.render ++ ": " ++ v.render ++ ", " ++ MapEntry.renderList rest

/-- Steps of access: a field after a period, an index in brackets, a slice
in brackets with its parts around colons. -/
def Access.renderList : List Access → String
  | [] => ""
  | .field e :: rest => "." ++ e.render ++ Access.renderList rest
  | .index e :: rest => "[" ++ e.render ++ "]" ++ Access.renderList rest
  | .slice lower upper stride :: rest =>
    "[" ++ (Expr.renderOpt lower).getD "" ++ ":" ++ (Expr.renderOpt upper).getD "" ++
      ((Expr.renderOpt stride).map (":" ++ ·)).getD "" ++ "]" ++ Access.renderList rest

/-- Closing clauses of a call's arguments, separated by blanks. -/
def ArgClause.renderList : List ArgClause → List String
  | [] => []
  | .mk before e after :: rest =>
    (before ++ (match e with | some x => " " ++ x.render | none => "") ++ after) ::
      ArgClause.renderList rest

/-- The steps of a path: the first key after a colon, later keys after a
period, quoted keys in double quotes, brackets as written. -/
def PathStep.renderList (first : Bool) : List PathStep → String
  | [] => ""
  | .key name quoted :: rest =>
    (if first then ":" else ".") ++
      (if quoted then "\"" ++ doubleQuotes '"' name ++ "\"" else name) ++
      PathStep.renderList false rest
  | .bracket e :: rest => "[" ++ e.render ++ "]" ++ PathStep.renderList false rest

/-- The text of each expression of a list. -/
def Expr.renderEach : List Expr → List String
  | [] => []
  | e :: es => e.render :: Expr.renderEach es

/-- An optional expression, or the empty text. -/
def Expr.renderOpt : Option Expr → Option String
  | some e => some e.render
  | none => none

/-- The text of a function's arguments, parentheses included. -/
def FunctionArgs.render : FunctionArgs → String
  | .none => ""
  | .subquery q => "(" ++ q.render ++ ")"
  | .list dup args nulls orderBy limit more =>
    let clauses : List String :=
      (match nulls with | some n => [n] | none => []) ++
      (match orderBy with | [] => [] | items => ["ORDER BY " ++ OrderItem.renderList items]) ++
      (match limit with | some l => ["LIMIT " ++ l.render] | none => []) ++
      ArgClause.renderList more
    let argsText := Expr.renderList args
    let body :=
      if clauses.isEmpty then argsText
      else if args.isEmpty then " ".intercalate clauses
      else argsText ++ " " ++ " ".intercalate clauses
    "(" ++ (match dup with | some d => d ++ " " | none => "") ++ body ++ ")"

/-- The text of an ordering item. -/
def OrderItem.render : OrderItem → String
  | .mk e asc nulls fill =>
    e.render ++
      (match asc with | some true => " ASC" | some false => " DESC" | none => "") ++
      (match nulls with | some true => " NULLS FIRST" | some false => " NULLS LAST" | none => "") ++
      Fill.renderOpt fill

/-- The text of an optional `WITH FILL`, with a blank before it. -/
def Fill.renderOpt : Option Fill → String
  | some (.mk start stop step) =>
    " WITH FILL" ++
      (match Expr.renderOpt start with | some t => " FROM " ++ t | none => "") ++
      (match Expr.renderOpt stop with | some t => " TO " ++ t | none => "") ++
      (match Expr.renderOpt step with | some t => " STEP " ++ t | none => "")
  | none => ""

/-- Ordering items separated by `, `. -/
def OrderItem.renderList : List OrderItem → String
  | [] => ""
  | [o] => o.render
  | o :: os => o.render ++ ", " ++ OrderItem.renderList os

/-- The text of a window: a name, or a specification in parentheses. -/
def Window.render : Window → String
  | .named n => n.render
  | .spec name partitionBy orderBy units start startExpr finish finishExpr =>
    let frame : String :=
      match units with
      | none => ""
      | some u =>
        match finish with
        | some f =>
          u ++ " BETWEEN " ++ start.render (Expr.renderOpt startExpr) ++ " AND " ++
            f.render (Expr.renderOpt finishExpr)
        | none => u ++ " " ++ start.render (Expr.renderOpt startExpr)
    "(" ++ spaced [
      (match name with | some n => n.render | none => ""),
      (match partitionBy with | [] => "" | ps => "PARTITION BY " ++ Expr.renderList ps),
      (match orderBy with | [] => "" | os => "ORDER BY " ++ OrderItem.renderList os),
      frame] ++ ")"

/-- The text of a query. -/
def Query.render : Query → String
  | .mk recursive ctes body tail =>
    (match recursive with
      | some r => "WITH " ++ (if r then "RECURSIVE " else "") ++ Cte.renderList ctes ++ " "
      | none => "") ++ body.render ++ tail

/-- The text of a common table expression. -/
def Cte.render : Cte → String
  | .mk aliasName q materialized from_ =>
    aliasName.render ++ " AS " ++ (match materialized with | some m => m ++ " " | none => "") ++
      "(" ++ q.render ++ ")" ++ (match from_ with | some f => " FROM " ++ f.render | none => "")

/-- Common table expressions separated by `, `. -/
def Cte.renderList : List Cte → String
  | [] => ""
  | [c] => c.render
  | c :: cs => c.render ++ ", " ++ Cte.renderList cs

/-- The text of a query body. -/
def SetExpr.render : SetExpr → String
  | .select s => s.render
  | .query q => "(" ++ q.render ++ ")"
  | .setOp l op quant r =>
    l.render ++ " " ++ op ++ (if quant == "" then "" else " " ++ quant) ++ " " ++ r.render
  | .values explicitRow rows => "VALUES " ++ SetExpr.renderRows explicitRow rows
  | .insert _ _ source head tail =>
    head ++ (match source with | some q => q.render | none => "") ++ tail
  | .other text => text

/-- The rows of a VALUES body. -/
def SetExpr.renderRows (explicitRow : Bool) : List (List Expr) → String
  | [] => ""
  | [r] => (if explicitRow then "ROW" else "") ++ "(" ++ Expr.renderList r ++ ")"
  | r :: rs =>
    (if explicitRow then "ROW" else "") ++ "(" ++ Expr.renderList r ++ "), " ++
      SetExpr.renderRows explicitRow rs

/-- The text of a SELECT. -/
def Select.render : Select → String
  | .mk head projection into from_ middle selection grouping having tail =>
    "SELECT" ++ head ++
      (match projection with | [] => "" | items => " " ++ SelectItem.renderList items) ++
      into ++
      (match from_ with | [] => "" | ts => " FROM " ++ TableWithJoins.renderList ts) ++
      middle ++
      (match selection with | some w => " WHERE " ++ w.render | none => "") ++
      grouping ++
      (match having with | some h => " HAVING " ++ h.render | none => "") ++
      tail

/-- The text of a select item. -/
def SelectItem.render : SelectItem → String
  | .expr e none => e.render
  | .expr e (some a) => e.render ++ " AS " ++ a.render
  | .wildcard none opts => "*" ++ opts
  | .wildcard (some q) opts => renderName q ++ ".*" ++ opts

/-- Select items separated by `, `. -/
def SelectItem.renderList : List SelectItem → String
  | [] => ""
  | [i] => i.render
  | i :: is => i.render ++ ", " ++ SelectItem.renderList is

/-- The text of a table reference and its joins. -/
def TableWithJoins.render : TableWithJoins → String
  | .mk relation joins => relation.render ++ Join.renderList joins

/-- Table references separated by `, `. -/
def TableWithJoins.renderList : List TableWithJoins → String
  | [] => ""
  | [t] => t.render
  | t :: ts => t.render ++ ", " ++ TableWithJoins.renderList ts

/-- The text of a join, with the blank that separates it from what comes
before. -/
def Join.render : Join → String
  | .mk global kind relation on constraint =>
    let natural := match constraint with | .natural => true | _ => false
    let suffix := match constraint, on with
      | .on, some e => " ON " ++ e.render
      | .using cols, _ => " USING(" ++ commaList (cols.map renderName) ++ ")"
      | _, _ => ""
    let asOf := match kind with
      | .asOf m => " MATCH_CONDITION (" ++ m ++ ")"
      | _ => ""
    (if global then " GLOBAL" else "") ++ " " ++ kind.words natural ++ " " ++
      relation.render ++ asOf ++
      (match kind with | .cross | .crossApply | .outerApply => "" | _ => suffix)

/-- Joins one after another. -/
def Join.renderList : List Join → String
  | [] => ""
  | j :: js => j.render ++ Join.renderList js

/-- The text of a table reference. -/
def TableFactor.render : TableFactor → String
  | .table name before aliasName after => renderName name ++ before ++ renderAlias aliasName ++ after
  | .derived lateral q aliasName =>
    (if lateral then "LATERAL " else "") ++ "(" ++ q.render ++ ")" ++ renderAlias aliasName
  | .nestedJoin inner aliasName => "(" ++ inner.render ++ ")" ++ renderAlias aliasName
  | .other text => text

end

/-- The text of a statement. -/
def Statement.render : Statement → String
  | .query q => q.render
  | .insert _ _ source head tail =>
    head ++ (match source with | some q => q.render | none => "") ++ tail
  | .createTable name _ body =>
    "CREATE TABLE " ++ renderName name ++
      (match body with | some q => " AS " ++ q.render | none => "")
  | .createView name _ body => "CREATE VIEW " ++ renderName name ++ " AS " ++ body.render
  | .other text => text

end ColumnLineage.Sql
