import ColumnLineage.Sql.Parse.Relation
/-
ColumnLineage/Sql/Parse/Query.lean

Reading the parts of a query: select items and their aliases, the table
references of a FROM clause with their joins, a SELECT with its clauses,
VALUES rows, common table expressions, and query bodies joined by set
operators (UNION and EXCEPT bind alike, INTERSECT tighter).

A word after an item or table is its alias unless it is one of the keywords
that may follow there (`FROM`, `WHERE`, `JOIN`, ...). A parenthesis in FROM
may open a subquery or a nested join; the subquery is tried first.
-/

namespace ColumnLineage.Sql

namespace Parse

/-- An alias: `AS` and any word, a word that `accepts` takes as an alias,
or a quoted string. -/
def aliasWith (accepts : Word → Parse Bool) : Parse (Option Ident) := do
  let afterAs ← keyword "AS"
  let t ← next
  match t.token with
  | .word w =>
    if afterAs || (← accepts w) then return some { value := w.value, quote := w.quote }
  | .singleQuoted s => return some { value := s, quote := some '\'' }
  | .doubleQuoted s => return some { value := s, quote := some '"' }
  | _ => pure ()
  if afterAs then expected "an identifier after AS" t
  back
  return none

/-- An alias: `AS` and any word, a word that is none of the keywords
`reserved`, or a quoted string. -/
def optionalAlias (reserved : List String) : Parse (Option Ident) :=
  aliasWith fun w => pure (match w.keyword with
    | some kw => !reserved.contains kw
    | none => true)

/-- Whether Snowflake takes a word as the alias of a select item without
`AS`: any word but a few that start the next clause, and some only when a
comma or the end of the text follows them, or, for `FETCH`, when no `FIRST`
or `NEXT` does. -/
def snowflakeColumnAlias (w : Word) : Parse Bool := do
  match w.keyword with
  | some "EXCEPT" | some "LIMIT" | some "OFFSET" | some "RETURNING" =>
    let t ← peek
    return t.token == .sym .comma || t.token == .eof
  | some "FETCH" => return !((← peekKw "FIRST") || (← peekKw "NEXT"))
  | some kw =>
    return !(["FROM", "GROUP", "HAVING", "INTERSECT", "INTO", "MINUS", "ORDER", "SELECT",
      "UNION", "WHERE", "WITH"].contains kw)
  | none => return true

/-- The alias of a select item, as the dialect reads it. -/
def selectAlias : Parse (Option Ident) := do
  if (← dialect) == .snowflake then aliasWith snowflakeColumnAlias
  else optionalAlias Keyword.reservedForColumnAlias

/-- The columns of a table alias in parentheses, each with an optional type. -/
def aliasColumns (k : Knots) : Parse (List AliasColumn) := do
  if (← symbol .lParen) then
    let cols ← listOf do
      let name ← ident
      let type ← optional do
        let (ty, shift) ← k.dataType
        if shift then fail ("unmatched > after parsing data type " ++ ty.text ++ (← peek).token.text)
        pure ty.text
      pure ({ name, type } : AliasColumn)
    expectSym .rParen
    return cols
  return []

/-- The alias of a table reference, with its columns. -/
def tableAlias (k : Knots) : Parse (Option TableAlias) := do
  match (← optionalAlias Keyword.reservedForTableAlias) with
  | some name => return some { name, columns := (← aliasColumns k) }
  | none => return none

/-- The text of the options after `*` or `t.*`: `ILIKE`, `EXCLUDE`, `EXCEPT`,
`REPLACE` and `RENAME`, as the dialect allows them. -/
def wildcardOptions (k : Knots) : Parse String := do
  let d ← dialect
  let ilike ←
    if (← given (d == .generic || d == .snowflake) (keyword "ILIKE")) then do
      let t ← next
      match t.token with
      | .singleQuoted s => pure (" ILIKE '" ++ Text.doubleQuotes '\'' s ++ "'")
      | _ => expected "ilike pattern" t
    else pure ""
  let exclude ←
    if (← given (ilike == "" && d.wildcardExclude) (keyword "EXCLUDE")) then do
      if (← symbol .lParen) then
        let cols ← listOf ident
        expectSym .rParen
        pure (" EXCLUDE (" ++ commaList (cols.map Ident.render) ++ ")")
      else pure (" EXCLUDE " ++ (← ident).render)
    else pure ""
  let except ←
    if (← given d.wildcardExcept (keyword "EXCEPT")) then do
      if (← peekSym .lParen) then
        match (← columnList false false) with
        | [] => expected "at least one column should be parsed by the expect clause" (← peek)
        | cols => pure (" EXCEPT (" ++ commaList (cols.map Ident.render) ++ ")")
      else pure (" EXCEPT (" ++ (← ident).render ++ ")")
    else pure ""
  let replace ←
    if (← given d.wildcardReplace (keyword "REPLACE")) then do
      if (← symbol .lParen) then
        let items ← listOf do
          let e ← k.expr 0
          let asKw ← keyword "AS"
          let col ← ident
          pure (e.render ++ (if asKw then " AS " else " ") ++ col.render)
        expectSym .rParen
        pure (" REPLACE (" ++ commaList items ++ ")")
      else
        let t ← next
        expected "( after REPLACE but" t
    else pure ""
  let rename ←
    if (← given (d == .generic || d == .snowflake) (keyword "RENAME")) then do
      let pair : Parse String := do
        let a ← ident
        expectKw "AS"
        let b ← ident
        pure (a.render ++ " AS " ++ b.render)
      if (← symbol .lParen) then
        let items ← listOf pair
        expectSym .rParen
        pure (" RENAME (" ++ commaList items ++ ")")
      else pure (" RENAME " ++ (← pair))
    else pure ""
  return ilike ++ exclude ++ except ++ replace ++ rename

/-- An item of a select list. -/
def selectItem (k : Knots) : Parse SelectItem := do
  let d ← dialect
  match (← wildcardExpr k) with
  | .qualifiedWildcard name => return .wildcard (some name) (← wildcardOptions k)
  | .wildcard => return .wildcard none (← wildcardOptions k)
  | .identifier i =>
    if i.quote.isNone && i.value.toLower == "from" then
      fail ("Expected an expression, found: " ++ i.value ++ (← peek).suffix)
    return .expr (.identifier i) (← selectAlias)
  | .binary (.identifier a) "=" r =>
    if d == .mssql then return .expr r (some a)
    return .expr (.binary (.identifier a) "=" r) (← selectAlias)
  | e => return .expr e (← selectAlias)

/-- Whether commas may trail a select list in this dialect. -/
def projectionTrailingCommas : Dialect → Bool
  | .duckdb | .bigquery | .snowflake => true
  | _ => false

/-- The select list. -/
def projection (k : Knots) : Parse (List SelectItem) := do
  listOfWith (projectionTrailingCommas (← dialect)) Keyword.reservedForColumnAlias (selectItem k)

/-- The arguments of a call in FROM after its opening parenthesis, with the
ClickHouse `SETTINGS` that may end them, as text. -/
def tableFunctionArgs (k : Knots) : Parse String := do
  if (← symbol .rParen) then return "()"
  let d ← dialect
  let settings : Parse (Option String) := do
    if (← given (d == .clickhouse || d == .generic) (keyword "SETTINGS")) then
      let items ← listOf do
        let key ← ident
        expectSym .eq
        let v ← value
        pure (key.render ++ " = " ++ v.render)
      pure (some ("SETTINGS " ++ commaList items))
    else pure none
  let n ← rounds
  let rec go : Nat → List String → Parse (List String × Option String)
    | 0, acc => return (acc.reverse, none)
    | j + 1, acc => do
      match (← settings) with
      | some s => return (acc.reverse, some s)
      | none =>
        let a ← functionArg k
        if (← symbol .comma) then go j (a.render :: acc)
        else return ((a.render :: acc).reverse, none)
  let (args, set) ← go n []
  expectSym .rParen
  let body := match set with
    | some s => if args.isEmpty then s else commaList args ++ ", " ++ s
    | none => commaList args
  return "(" ++ body ++ ")"

/-- `TABLESAMPLE` or `SAMPLE` with its method, quantity, seed and offset, as
text with a leading blank. -/
def tableSample (k : Knots) : Parse (Option String) := do
  let modifier ← do
    if (← keyword "TABLESAMPLE") then pure "TABLESAMPLE"
    else if (← keyword "SAMPLE") then pure "SAMPLE"
    else return none
  let name ← match (← oneOf ["BERNOULLI", "ROW", "SYSTEM", "BLOCK"]) with
    | some m => pure (" " ++ m)
    | none => pure ""
  let paren ← symbol .lParen
  let body ←
    if (← given paren (keyword "BUCKET")) then do
      let b ← value
      expectKws ["OUT", "OF"]
      let total ← value
      let on ← if (← keyword "ON") then (fun e => " ON " ++ Expr.render e) <$> k.expr 0
        else pure ""
      pure (" (BUCKET " ++ b.render ++ " OUT OF " ++ total.render ++ on ++ ")")
    else do
      let v ← match (← optional (k.expr 0)) with
        | some e => pure e.render
        | none =>
          let t ← next
          match t.token with
          | .word w => pure w.value
          | _ => fail ("Expecting number or byte length e.g. 100M" ++ (← peek).suffix)
      let unit ← do
        if (← keyword "ROWS") then pure " ROWS"
        else if (← keyword "PERCENT") then pure " PERCENT" else pure ""
      if paren then pure (" (" ++ v ++ unit ++ ")") else pure (" " ++ v ++ unit)
  if paren then expectSym .rParen
  let seed ←
    match (← oneOf ["REPEATABLE", "SEED"]) with
    | some m => do
      expectSym .lParen
      let v ← value
      expectSym .rParen
      pure (" " ++ m ++ " (" ++ v.render ++ ")")
    | none => pure ""
  let offset ← if (← keyword "OFFSET") then (fun e => " OFFSET " ++ Expr.render e) <$> k.expr 0
    else pure ""
  return some (" " ++ modifier ++ name ++ body ++ seed ++ offset)

/-- Whether a sample clause comes before a table's alias in this dialect. -/
def sampleBeforeAlias : Dialect → Bool
  | .hive => true
  | _ => false

/-- A subquery in FROM after its opening parenthesis, with its alias. -/
def derivedFactor (k : Knots) (lateral : Bool) : Parse TableFactor := do
  let q ← k.query
  expectSym .rParen
  return .derived lateral q (← tableAlias k)

/-- VALUES rows, each in parentheses, `allowEmpty` allowing `()`. -/
def valuesRows (k : Knots) (allowEmpty : Bool) : Parse SetExpr := do
  let rows ← listOf do
    let explicit ← keyword "ROW"
    expectSym .lParen
    if allowEmpty && (← peekSym .rParen) then
      let _ ← next
      return (explicit, [])
    let items ← listOf (k.expr 0)
    expectSym .rParen
    return (explicit, items)
  return .values (rows.any (·.1)) (rows.map (·.2))

/-- `PIVOT(...)` after its keyword, turning the values of a column of
`source` into columns, each an aggregate: the aggregate calls, the column,
its values (a list, a subquery or `ANY`) and a default for missing cells. -/
def pivot (k : Knots) (source : TableFactor) : Parse TableFactor := do
  expectSym .lParen
  let aggregates ← listOf do
    let t ← next
    let name ← match t.token with
      | .word w => pure w.value
      | _ => expected "a function identifier" (← peek)
    let call ← functionCall k [{ value := name }]
    let aliasName ← if (← keyword "AS") then some <$> ident else pure none
    pure (call.render ++ ((aliasName.map fun a => " AS " ++ a.render).getD ""))
  expectKw "FOR"
  let column ← objectName
  expectKw "IN"
  expectSym .lParen
  let values ← do
    if (← keyword "ANY") then do
      if (← keywords ["ORDER", "BY"]) then
        let items ← listOf (orderItem k)
        pure ("ANY ORDER BY " ++ OrderItem.renderList items)
      else pure "ANY"
    else if (← peekKw "SELECT") || (← peekKw "WITH") then
      Query.render <$> k.query
    else do
      let items ← listOf do
        let e ← k.expr 0
        let aliasName ← if (← keyword "AS") then some <$> ident else pure none
        pure (e.render ++ ((aliasName.map fun a => " AS " ++ a.render).getD ""))
      pure (commaList items)
  expectSym .rParen
  let onNull ←
    if (← keywords ["DEFAULT", "ON", "NULL"]) then do
      expectSym .lParen
      let e ← k.expr 0
      expectSym .rParen
      pure (" DEFAULT ON NULL (" ++ e.render ++ ")")
    else pure ""
  expectSym .rParen
  let aliasName ← tableAlias k
  return .other (source.render ++ " PIVOT(" ++ commaList aggregates ++ " FOR " ++
    renderName column ++ " IN (" ++ values ++ ")" ++ onNull ++ ")" ++ renderAlias aliasName)

/-- `UNPIVOT(...)` after its keyword, turning columns of `source` into
rows: the value column, the name column and the columns unpivoted. -/
def unpivot (k : Knots) (source : TableFactor) : Parse TableFactor := do
  expectSym .lParen
  let valueName ← ident
  expectKw "FOR"
  let name ← ident
  expectKw "IN"
  let columns ← columnList false false
  expectSym .rParen
  let aliasName ← tableAlias k
  return .other (source.render ++ " UNPIVOT(" ++ valueName.render ++ " FOR " ++ name.render ++
    " IN (" ++ commaList (columns.map Ident.render) ++ "))" ++ renderAlias aliasName)

/-- The pivots and unpivots that follow a table reference, in order. -/
def pivots (k : Knots) : Nat → TableFactor → Parse TableFactor
  | 0, f => return f
  | j + 1, f => do
    match (← oneOf ["PIVOT", "UNPIVOT"]) with
    | some "PIVOT" => pivots k j (← pivot k f)
    | some _ => pivots k j (← unpivot k f)
    | none => return f

/-- A table reference of a FROM clause, at one layer of the reader. -/
def factorLayer (k : Knots) : Parse TableFactor := do
  let d ← dialect
  if (← keyword "LATERAL") then
    if (← symbol .lParen) then return (← derivedFactor k true)
    let name ← objectName
    expectSym .lParen
    let args ←
      if (← symbol .rParen) then pure []
      else do
        let items ← listOf (functionArg k)
        expectSym .rParen
        pure items
    let aliasName ← tableAlias k
    return .other ("LATERAL " ++ renderName name ++ "(" ++ Expr.renderList args ++ ")" ++
      renderAlias aliasName)
  if (← keyword "TABLE") then
    expectSym .lParen
    let e ← k.expr 0
    expectSym .rParen
    let aliasName ← tableAlias k
    return .other ("TABLE(" ++ e.render ++ ")" ++ renderAlias aliasName)
  if (← symbol .lParen) then
    if let some f ← optional (derivedFactor k false) then return (← pivots k (← rounds) f)
    let tj ← k.tableJoins
    match tj with
    | .mk _ (_ :: _) =>
      expectSym .rParen
      return .nestedJoin tj (← tableAlias k)
    | .mk (.nestedJoin _ _) [] =>
      expectSym .rParen
      return .nestedJoin tj (← tableAlias k)
    | .mk rel [] =>
      if d == .snowflake || d == .generic then
        expectSym .rParen
        match (← tableAlias k) with
        | none => return rel
        | some outer =>
          match rel with
          | .table _ _ (some inner) _ => throw (.grammar ("duplicate alias " ++ inner.render))
          | .table name before none after => return .table name before (some outer) after
          | .derived _ _ (some inner) => throw (.grammar ("duplicate alias " ++ inner.render))
          | .derived lateral q none => return .derived lateral q (some outer)
          | .nestedJoin inner none => return .nestedJoin inner (some outer)
          | .nestedJoin _ (some inner) => throw (.grammar ("duplicate alias " ++ inner.render))
          | .other text => return .other (text ++ " AS " ++ outer.render)
      else expected "joined table" (← peek)
  if (d == .snowflake || d == .databricks || d == .generic) && (← peekKw "VALUES") &&
      (← peekNth 1).token == .sym .lParen then
    expectKw "VALUES"
    let body ← valuesRows k false
    let aliasName ← tableAlias k
    return .derived false (.mk none [] body "") aliasName
  if (← given (d == .bigquery || d == .postgresql || d == .generic) (keyword "UNNEST")) then
    expectSym .lParen
    let exprs ← listOf (k.expr 0)
    expectSym .rParen
    let ordinality ← keywords ["WITH", "ORDINALITY"]
    let aliasName ← tableAlias k
    let withOffset ←
      if (← keyword "WITH") then keyword "OFFSET" else pure false
    let offsetAlias ←
      if withOffset then optionalAlias Keyword.reservedForColumnAlias else pure none
    return .other ("UNNEST(" ++ Expr.renderList exprs ++ ")" ++ renderAlias aliasName ++
      (if ordinality then " WITH ORDINALITY" else "") ++
      (if withOffset then " WITH OFFSET" else "") ++
      (match offsetAlias with | some a => " AS " ++ a.render | none => ""))
  if (← peekKw "JSON_TABLE") && (← peekNth 1).token == .sym .lParen then
    let _ ← next
    let _ ← next
    let text ← jsonTable k
    return .other (text ++ renderAlias (← tableAlias k))
  if (← peekKw "OPENJSON") && (← peekNth 1).token == .sym .lParen then
    let _ ← next
    let text ← openJson k
    return .other (text ++ renderAlias (← tableAlias k))
  let name ← tableName
  let path ←
    if d.tablePaths && (← peekSym .lBracket) then
      PathStep.renderList true <$> pathSteps k (← rounds) []
    else pure ""
  let partitions ←
    if (← given (d == .mysql || d == .generic) (keyword "PARTITION")) then do
      let ids ← parenIdents
      pure ("PARTITION (" ++ commaList (ids.map Ident.render) ++ ")")
    else pure ""
  let version ←
    if (← given (d == .bigquery || d == .mssql) (keywords ["FOR", "SYSTEM_TIME", "AS", "OF"])) then
      (fun e => " FOR SYSTEM_TIME AS OF " ++ Expr.render e) <$> k.expr 0
    else pure ""
  let args ← if (← symbol .lParen) then tableFunctionArgs k else pure ""
  let ordinality ← keywords ["WITH", "ORDINALITY"]
  let sampleBefore ← if sampleBeforeAlias d then tableSample k else pure none
  let aliasName ← tableAlias k
  let hints ←
    if (← keyword "WITH") then
      if (← symbol .lParen) then do
        let hs ← listOf (k.expr 0)
        expectSym .rParen
        pure (" WITH (" ++ Expr.renderList hs ++ ")")
      else do
        back
        pure ""
    else pure ""
  let sampleAfter ← if sampleBeforeAlias d then pure none else tableSample k
  let before := path ++ partitions ++ args ++ (if ordinality then " WITH ORDINALITY" else "") ++
    sampleBefore.getD ""
  let table ← pivots k (← rounds)
    (.table name before aliasName (hints ++ version ++ sampleAfter.getD ""))
  if (← given d.matchRecognize (keyword "MATCH_RECOGNIZE")) then
    let text ← matchRecognize k table
    return .other (text ++ renderAlias (← tableAlias k))
  return table

/-- How a join is constrained: by a condition, by shared columns, naturally,
or not at all. -/
def joinConstraint (k : Knots) (natural : Bool) : Parse (Option Expr × Constraint) := do
  if natural then return (none, .natural)
  if (← keyword "ON") then return (some (← k.expr 0), .on)
  if (← keyword "USING") then
    if (← symbol .lParen) then
      let cols ← listOf objectName
      expectSym .rParen
      return (none, .using cols)
    expected "a list of columns in parentheses" (← peek)
  return (none, .none)

/-- The joins after a table reference. -/
def joins (k : Knots) : Nat → List Join → Parse (List Join)
  | 0, acc => return acc.reverse
  | j + 1, acc => do
    let global ← keyword "GLOBAL"
    if (← keyword "CROSS") then
      let kind ← do
        if (← keyword "JOIN") then pure JoinKind.cross
        else if (← keyword "APPLY") then pure JoinKind.crossApply
        else expected "JOIN or APPLY after CROSS" (← peek)
      let rel ← factorLayer k
      joins k j (.mk global kind rel none .none :: acc)
    else if (← keyword "OUTER") then
      expectKw "APPLY"
      let rel ← factorLayer k
      joins k j (.mk global .outerApply rel none .none :: acc)
    else if (← keyword "ASOF") then
      expectKw "JOIN"
      let rel ← factorLayer k
      expectKw "MATCH_CONDITION"
      expectSym .lParen
      let m ← k.expr 0
      expectSym .rParen
      let (on, c) ← joinConstraint k false
      joins k j (.mk global (.asOf m.render) rel on c :: acc)
    else
      let natural ← keyword "NATURAL"
      let kw := match (← peek).token with
        | .word w => w.keyword
        | _ => none
      let kind? ← match kw with
        | some "INNER" | some "JOIN" => do
          let _ ← keyword "INNER"
          expectKw "JOIN"
          pure (some JoinKind.inner)
        | some "LEFT" | some "RIGHT" => do
          let _ ← next
          let left := kw == some "LEFT"
          match (← oneOf ["OUTER", "SEMI", "ANTI", "JOIN"]) with
          | some "OUTER" => do
            expectKw "JOIN"
            pure (some (if left then JoinKind.leftOuter else .rightOuter))
          | some "SEMI" => do
            expectKw "JOIN"
            pure (some (if left then JoinKind.leftSemi else .rightSemi))
          | some "ANTI" => do
            expectKw "JOIN"
            pure (some (if left then JoinKind.leftAnti else .rightAnti))
          | some _ => pure (some (if left then JoinKind.leftOuter else .rightOuter))
          | none =>
            throw (.grammar ("expected OUTER, SEMI, ANTI or JOIN after " ++
              (if left then "LEFT" else "RIGHT")))
        | some "ANTI" => do
          let _ ← next
          expectKw "JOIN"
          pure (some JoinKind.anti)
        | some "SEMI" => do
          let _ ← next
          expectKw "JOIN"
          pure (some JoinKind.semi)
        | some "FULL" => do
          let _ ← next
          let _ ← keyword "OUTER"
          expectKw "JOIN"
          pure (some JoinKind.fullOuter)
        | some "OUTER" => expected "LEFT, RIGHT, or FULL" (← peek)
        | _ =>
          if natural then expected "a join type after NATURAL" (← peek)
          else pure none
      match kind? with
      | none => return acc.reverse
      | some kind =>
        let rel ← factorLayer k
        let (on, c) ← joinConstraint k natural
        joins k j (.mk global kind rel on c :: acc)

/-- A table reference with its joins, at one layer of the reader. -/
def tableJoinsLayer (k : Knots) : Parse TableWithJoins := do
  let rel ← factorLayer k
  return .mk rel (← joins k (← rounds) [])

/-- `DISTINCT` or `DISTINCT ON (...)` as text with a leading blank; `ALL`
alone says nothing. -/
def allOrDistinct (k : Knots) : Parse String := do
  let loc ← peek
  let all ← keyword "ALL"
  let distinct ← keyword "DISTINCT"
  if !distinct then return ""
  if all then fail ("Cannot specify both ALL and DISTINCT" ++ loc.suffix)
  if !(← keyword "ON") then return " DISTINCT"
  expectSym .lParen
  let cols ←
    if (← symbol .rParen) then do
      back
      pure []
    else listOf (k.expr 0)
  expectSym .rParen
  return " DISTINCT ON (" ++ Expr.renderList cols ++ ")"

/-- `TOP n`, `TOP (e)` with `PERCENT` and `WITH TIES`, after `TOP`. -/
def topClause (k : Knots) : Parse String := do
  let quantity ←
    if (← symbol .lParen) then do
      let e ← k.expr 0
      expectSym .rParen
      pure ("(" ++ e.render ++ ")")
    else toString <$> literalNat
  let percent ← keyword "PERCENT"
  let ties ← keywords ["WITH", "TIES"]
  return " TOP " ++ quantity ++ (if percent then " PERCENT" else "") ++
    (if ties then " WITH TIES" else "")

/-- A list of expressions, or of tuples, for `GROUPING SETS`, `CUBE` and
`ROLLUP`: a parenthesized list, or (when `lift`) a single expression. -/
def groupingTuple (k : Knots) (lift : Bool) : Parse (List Expr) := do
  if lift && !(← peekSym .lParen) then return [← k.expr 0]
  expectSym .lParen
  if (← symbol .rParen) then return []
  let items ← listOf (k.expr 0)
  expectSym .rParen
  return items

/-- An item of a GROUP BY list, as text. -/
def groupByItem (k : Knots) : Parse String := do
  let d ← dialect
  if d == .generic || d == .postgresql || d == .duckdb then
    if (← keywords ["GROUPING", "SETS"]) then
      expectSym .lParen
      let sets ← listOf (groupingTuple k false)
      expectSym .rParen
      return "GROUPING SETS (" ++ commaList (sets.map fun s => "(" ++ Expr.renderList s ++ ")") ++ ")"
    let cubeOrRollup ← oneOf ["CUBE", "ROLLUP"]
    if let some word := cubeOrRollup then
      expectSym .lParen
      let sets ← listOf (groupingTuple k true)
      expectSym .rParen
      return word ++ " (" ++ commaList (sets.map fun s =>
        match s with
        | [e] => e.render
        | _ => "(" ++ Expr.renderList s ++ ")") ++ ")"
    if (← peekSym .lParen) && (← peekNth 1).token == .sym .rParen then
      let _ ← next
      let _ ← next
      return "()"
  return (← k.expr 0).render

/-- The GROUP BY clause as text with a leading blank. -/
def groupByClause (k : Knots) : Parse String := do
  if !(← keywords ["GROUP", "BY"]) then return ""
  let d ← dialect
  let items ← if (← keyword "ALL") then pure none else some <$> listOf (groupByItem k)
  let mods ←
    if d == .clickhouse || d == .generic then
      let n ← rounds
      let rec go : Nat → List String → Parse (List String)
        | 0, acc => return acc.reverse
        | j + 1, acc => do
          if !(← keyword "WITH") then return acc.reverse
          let m ← expectOneOf ["ROLLUP", "CUBE", "TOTALS"]
          go j (("WITH " ++ m) :: acc)
      go n []
    else pure []
  let modText := if mods.isEmpty then "" else " " ++ " ".intercalate mods
  match items with
  | none => return " GROUP BY ALL" ++ modText
  | some [] => return ""
  | some xs => return " GROUP BY " ++ commaList xs ++ modText

/-- A named window definition, `name AS (spec)`, as text. -/
def namedWindow (k : Knots) : Parse String := do
  let name ← ident
  expectKw "AS"
  if (← symbol .lParen) then
    let w ← windowSpec k
    return name.render ++ " AS " ++ w.render
  if (← dialect) == .generic then
    return name.render ++ " AS " ++ (← ident).render
  expected "(" (← peek)

/-- The hierarchy of a SELECT, `START WITH condition CONNECT BY relationships`
with the two parts in either order, as its text with a leading blank. In
the relationships `PRIOR` marks an expression of the parent row. -/
def connectByClause (k : Knots) : Parse String := do
  let relationships : Parse (List Expr) :=
    withReader (fun e => { e with connectBy := true }) (listOf (k.expr 0))
  let render (cond : Expr) (rels : List Expr) : String :=
    " START WITH " ++ cond.render ++ " CONNECT BY " ++ Expr.renderList rels
  if (← keywords ["CONNECT", "BY"]) then
    let rels ← relationships
    expectKws ["START", "WITH"]
    return render (← k.expr 0) rels
  expectKws ["START", "WITH"]
  let cond ← k.expr 0
  expectKws ["CONNECT", "BY"]
  return render cond (← relationships)

/-- A SELECT, from its keyword through its last clause. -/
def select (k : Knots) : Parse Select := do
  expectKw "SELECT"
  let d ← dialect
  let valueMode ←
    if (← given (d == .bigquery) (keyword "AS")) then
      if (← keyword "VALUE") then pure " AS VALUE"
      else if (← keyword "STRUCT") then pure " AS STRUCT"
      else expected "VALUE or STRUCT" (← peek)
    else pure ""
  let distinct ← allOrDistinct k
  let top ← if (← keyword "TOP") then topClause k else pure ""
  let items ←
    if d.emptyProjection && (← peekKw "FROM") then pure [] else projection k
  let into ←
    if (← keyword "INTO") then do
      let temporary ← (·.isSome) <$> oneOf ["TEMP", "TEMPORARY"]
      let unlogged ← keyword "UNLOGGED"
      let table ← keyword "TABLE"
      let name ← objectName
      pure (" INTO" ++ (if temporary then " TEMPORARY" else "") ++
        (if unlogged then " UNLOGGED" else "") ++ (if table then " TABLE" else "") ++ " " ++
        renderName name)
    else pure ""
  let from_ ←
    if (← keyword "FROM") then
      listOfWith (← dialect).fromTrailingCommas Keyword.reservedForTableAlias (tableJoinsLayer k)
    else pure []
  let n ← rounds
  let rec lateralViews : Nat → String → Parse String
    | 0, acc => return acc
    | j + 1, acc => do
      if !(← keywords ["LATERAL", "VIEW"]) then return acc
      let outer ← keyword "OUTER"
      let e ← k.expr 0
      let name ← objectName
      let aliases ← listOf (optionalAlias ["WHERE", "GROUP", "CLUSTER", "HAVING", "LATERAL"])
      let names := aliases.filterMap id
      lateralViews j (acc ++ " LATERAL VIEW" ++ (if outer then " OUTER" else "") ++ " " ++
        e.render ++ " " ++ renderName name ++
        (if names.isEmpty then "" else " AS " ++ commaList (names.map Ident.render)))
  let views ← lateralViews n ""
  let prewhere ←
    if (← given (d == .clickhouse || d == .generic) (keyword "PREWHERE")) then
      (fun e => " PREWHERE " ++ Expr.render e) <$> k.expr 0
    else pure ""
  let selection ← if (← keyword "WHERE") then some <$> k.expr 0 else pure none
  let groupBy ← groupByClause k
  let byClause (words : List String) (label : String) : Parse String := do
    if (← keywords words) then
      let es ← listOf (k.expr 0)
      pure (" " ++ label ++ " " ++ Expr.renderList es)
    else pure ""
  let cluster ← byClause ["CLUSTER", "BY"] "CLUSTER BY"
  let distribute ← byClause ["DISTRIBUTE", "BY"] "DISTRIBUTE BY"
  let sort ← byClause ["SORT", "BY"] "SORT BY"
  let having ← if (← keyword "HAVING") then some <$> k.expr 0 else pure none
  let tail ← do
    if (← keyword "WINDOW") then do
      let ws ← listOf (namedWindow k)
      let q ← if (← keyword "QUALIFY") then (fun e => " QUALIFY " ++ Expr.render e) <$> k.expr 0
        else pure ""
      pure (" WINDOW " ++ commaList ws ++ q)
    else if (← keyword "QUALIFY") then do
      let q ← k.expr 0
      let ws ←
        if (← keyword "WINDOW") then do
          let items ← listOf (namedWindow k)
          pure (" WINDOW " ++ commaList items)
        else pure ""
      pure (" QUALIFY " ++ q.render ++ ws)
    else pure ""
  let hierarchy ←
    if d.connectBy && ((← peekKw "START") || (← peekKw "CONNECT")) then connectByClause k
    else pure ""
  return .mk (valueMode ++ distinct ++ top) items into from_ (views ++ prewhere) selection
    (groupBy ++ cluster ++ distribute ++ sort) having (tail ++ hierarchy)

/-- `TABLE name` after its keyword: the three tokens that follow are taken
whatever they are, a period in the middle making a schema and a table. -/
def tableBody : Parse SetExpr := do
  let t1 ← next
  let t2 ← next
  let t3 ← next
  if t2.token == .sym .period then
    let schema ← match t1.token with
      | .word w => pure w.value
      | _ => expected "Schema name" t1
    let table ← match t3.token with
      | .word w => pure w.value
      | _ => expected "Table name" t3
    return .other ("TABLE " ++ schema ++ "." ++ table)
  match t1.token with
  | .word w => return .other ("TABLE " ++ w.value)
  | _ => expected "Table name" t1

/-- The set operator that comes next, if any, with its binding strength. -/
def peekSetOperator : Parse (Option (String × Nat)) := do
  match (← peek).token with
  | .word w =>
    match w.keyword with
    | some "UNION" => return some ("UNION", 10)
    | some "EXCEPT" => return some ("EXCEPT", 10)
    | some "MINUS" => return some ("MINUS", 10)
    | some "INTERSECT" => return some ("INTERSECT", 20)
    | _ => return none
  | _ => return none

/-- The quantifier after a set operator, as text. -/
def setQuantifier : Parse String := do
  if (← keywords ["DISTINCT", "BY", "NAME"]) then return "DISTINCT BY NAME"
  if (← keywords ["BY", "NAME"]) then return "BY NAME"
  if (← keyword "ALL") then
    if (← keywords ["BY", "NAME"]) then return "ALL BY NAME"
    return "ALL"
  if (← keyword "DISTINCT") then return "DISTINCT"
  return ""

/-- Set operations after a first operand, each taken while it binds tighter
than `prec`. -/
def setOperations (k : Knots) (prec : Nat) : Nat → SetExpr → Parse SetExpr
  | 0, e => return e
  | j + 1, e => do
    match (← peekSetOperator) with
    | none => return e
    | some (op, p) =>
      if prec ≥ p then return e
      let _ ← next
      let quant ← setQuantifier
      let right ← k.body p
      setOperations k prec j (.setOp e op quant right)

/-- A query body whose set operators bind tighter than `prec`, at one layer
of the reader. -/
def bodyLayer (k : Knots) (prec : Nat) : Parse SetExpr := do
  let d ← dialect
  let first ← do
    if (← peekKw "SELECT") then SetExpr.select <$> select k
    else if (← symbol .lParen) then do
      let q ← k.query
      expectSym .rParen
      pure (SetExpr.query q)
    else if (← keyword "VALUES") then valuesRows k (d == .mysql)
    else if (← keyword "TABLE") then tableBody
    else expected "SELECT, VALUES, or a subquery in the query body" (← peek)
  setOperations k prec (← rounds) first

/-- A common table expression: `name [(columns)] AS [MATERIALIZED] (query)`. -/
def cte (k : Knots) : Parse Cte := do
  let d ← dialect
  let name ← ident
  let materialized : Parse (Option String) := do
    if d == .postgresql then
      if (← keyword "MATERIALIZED") then return some "MATERIALIZED"
      if (← keywords ["NOT", "MATERIALIZED"]) then return some "NOT MATERIALIZED"
    return none
  let columns ←
    if (← keyword "AS") then pure []
    else do
      let cols ← aliasColumns k
      expectKw "AS"
      pure cols
  let mat ← materialized
  expectSym .lParen
  let q ← k.query
  expectSym .rParen
  let from_ ← if (← keyword "FROM") then some <$> ident else pure none
  return .mk { name, columns } q mat from_

end Parse

end ColumnLineage.Sql
