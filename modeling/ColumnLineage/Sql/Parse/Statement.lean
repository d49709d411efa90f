import ColumnLineage.Sql.Parse.Stage
/-
ColumnLineage/Sql/Parse/Statement.lean

Reading whole queries and statements. A query is an optional WITH clause and
a body followed by its ordering, limits and locking clauses; a WITH clause
may also lead an INSERT or an UPDATE. A statement is a query, an INSERT, a
CREATE TABLE or CREATE VIEW, which lineage reads, or one of the other
statements, which are read through to check them and kept as the text that
names them.
-/

namespace ColumnLineage.Sql

namespace Parse

/-- `name = value` pairs of an assignment list such as `SET a = 1, b = 2`. -/
def assignment (k : Knots) : Parse String := do
  let target ←
    if (← symbol .lParen) then do
      let cols ← listOf objectName
      expectSym .rParen
      pure ("(" ++ commaList (cols.map renderName) ++ ")")
    else renderName <$> objectName
  expectSym .eq
  let v ← k.expr 0
  return target ++ " = " ++ v.render

/-- A name in parentheses, as the element name of `RAW` or `PATH` or as a
`ROOT`, shown as `('name')`. -/
def quotedName : Parse String := do
  expectSym .lParen
  let s ← literalString
  expectSym .rParen
  return "('" ++ s ++ "')"

/-- The options after a `FOR XML` or `FOR JSON` mode, each after a comma:
`take` reads one option's words into the flags it keeps, and a comma
followed by no option it knows is passed over. -/
def forOptions (take : List String → Parse (List String)) : Nat → List String →
    Parse (List String)
  | 0, seen => return seen
  | j + 1, seen => do
    if !(← symbol .comma) then return seen
    forOptions take j (← take seen)

/-- A `FOR XML` clause after its keywords, as its text: the mode `RAW`,
`AUTO`, `EXPLICIT` or `PATH`, then its options, shown in a fixed order
whatever order they were written in. -/
def forXml : Parse String := do
  let mode ← do
    if (← keyword "RAW") then
      if (← peekSym .lParen) then pure ("RAW" ++ (← quotedName)) else pure "RAW"
    else if (← keyword "AUTO") then pure "AUTO"
    else if (← keyword "EXPLICIT") then pure "EXPLICIT"
    else if (← keyword "PATH") then
      if (← peekSym .lParen) then pure ("PATH" ++ (← quotedName)) else pure "PATH"
    else fail "Expected FOR XML [RAW | AUTO | EXPLICIT | PATH ]"
  let take (seen : List String) : Parse (List String) := do
    if (← keyword "ELEMENTS") then return "ELEMENTS" :: seen
    if (← keyword "BINARY") then
      expectKw "BASE64"
      return "BINARY BASE64" :: seen
    if (← keyword "ROOT") then return ("ROOT" ++ (← quotedName)) :: seen
    if (← keyword "TYPE") then return "TYPE" :: seen
    return seen
  let seen ← forOptions take (← rounds) []
  let root := seen.find? (·.startsWith "ROOT")
  let shown := (if seen.contains "BINARY BASE64" then [", BINARY BASE64"] else []) ++
    (if seen.contains "TYPE" then [", TYPE"] else []) ++
    (match root with | some r => [", " ++ r] | none => []) ++
    (if seen.contains "ELEMENTS" then [", ELEMENTS"] else [])
  return "FOR XML " ++ mode ++ String.join shown

/-- A `FOR JSON` clause after its keywords, as its text: the mode `AUTO` or
`PATH`, then its options, shown in a fixed order. -/
def forJson : Parse String := do
  let mode ← do
    if (← keyword "AUTO") then pure "AUTO"
    else if (← keyword "PATH") then pure "PATH"
    else fail "Expected FOR JSON [AUTO | PATH ]"
  let take (seen : List String) : Parse (List String) := do
    if (← keyword "ROOT") then return ("ROOT" ++ (← quotedName)) :: seen
    if (← keyword "INCLUDE_NULL_VALUES") then return "INCLUDE_NULL_VALUES" :: seen
    if (← keyword "WITHOUT_ARRAY_WRAPPER") then return "WITHOUT_ARRAY_WRAPPER" :: seen
    return seen
  let seen ← forOptions take (← rounds) []
  let root := seen.find? (·.startsWith "ROOT")
  let shown := (match root with | some r => [", " ++ r] | none => []) ++
    (if seen.contains "INCLUDE_NULL_VALUES" then [", INCLUDE_NULL_VALUES"] else []) ++
    (if seen.contains "WITHOUT_ARRAY_WRAPPER" then [", WITHOUT_ARRAY_WRAPPER"] else [])
  return "FOR JSON " ++ mode ++ String.join shown

/-- ClickHouse's `INTERPOLATE` after an ordering, as text: bare, or with a
list in parentheses, maybe empty, of columns each with an optional `AS e`. -/
def interpolation (k : Knots) : Parse String := do
  if !(← keyword "INTERPOLATE") then return ""
  if (← symbol .lParen) then
    let items ← listOf0 (do
      let column ← ident
      if (← keyword "AS") then pure (column.render ++ " AS " ++ (← k.expr 0).render)
      else pure column.render) .rParen
    expectSym .rParen
    return " INTERPOLATE (" ++ commaList items ++ ")"
  return " INTERPOLATE"

/-- The clauses after a query body: ordering (with ClickHouse's
`INTERPOLATE`), limit and offset (in either order, MySQL's `LIMIT offset,
count` included), `LIMIT ... BY`, settings, fetch, locks and format, as
text. -/
def queryTail (k : Knots) : Parse String := do
  let d ← dialect
  let orderBy ←
    if (← keywords ["ORDER", "BY"]) then do
      let items ← listOf (orderItem k)
      let interpolate ← if d == .clickhouse || d == .generic then interpolation k else pure ""
      pure (" ORDER BY " ++ OrderItem.renderList items ++ interpolate)
    else pure ""
  let limitOffset : (Option String × Option String) → Parse (Option String × Option String) :=
    fun (limit, offset) => do
      let limit ←
        if (← given limit.isNone (keyword "LIMIT")) then
          if (← keyword "ALL") then pure none else some <$> Expr.render <$> k.expr 0
        else pure limit
      let offset ←
        if (← given offset.isNone (keyword "OFFSET")) then do
          let v ← k.expr 0
          let rows ← do
            if (← keyword "ROW") then pure " ROW"
            else if (← keyword "ROWS") then pure " ROWS" else pure ""
          pure (some ("OFFSET " ++ v.render ++ rows))
        else pure offset
      if (← given (d.limitComma && limit.isSome && offset.isNone) (symbol .comma)) then
        let count ← k.expr 0
        return (some count.render, some ("OFFSET " ++ limit.getD ""))
      return (limit, offset)
  let (limit, offset) ← limitOffset (← limitOffset (none, none))
  let limitBy ←
    if (← given (d == .clickhouse || d == .generic) (keyword "BY")) then do
      let es ← listOf (k.expr 0)
      pure (" BY " ++ Expr.renderList es)
    else pure ""
  let settings ←
    if (← given (d == .clickhouse || d == .generic) (keyword "SETTINGS")) then do
      let items ← listOf do
        let key ← ident
        expectSym .eq
        let v ← value
        pure (key.render ++ " = " ++ v.render)
      pure (" SETTINGS " ++ commaList items)
    else pure ""
  let fetch ←
    if (← keyword "FETCH") then do
      let _ ← expectOneOf ["FIRST", "NEXT"]
      let (quantity, percent) ←
        if (← oneOf ["ROW", "ROWS"]).isSome then pure (none, false)
        else do
          let q ← value
          let p ← keyword "PERCENT"
          let _ ← expectOneOf ["ROW", "ROWS"]
          pure (some q, p)
      let ext ← do
        if (← keyword "ONLY") then pure "ONLY"
        else if (← keywords ["WITH", "TIES"]) then pure "WITH TIES"
        else expected "one of ONLY or WITH TIES" (← peek)
      match quantity with
      | some q =>
        pure (" FETCH FIRST " ++ q.render ++ (if percent then " PERCENT" else "") ++ " ROWS " ++ ext)
      | none => pure (" FETCH FIRST ROWS " ++ ext)
    else pure ""
  let n ← rounds
  let rec locks : Nat → List String → Parse (List String)
    | 0, acc => return acc.reverse
    | j + 1, acc => do
      if !(← keyword "FOR") then return acc.reverse
      if (← keyword "XML") then return ((← forXml) :: acc).reverse
      if (← keyword "JSON") then return ((← forJson) :: acc).reverse
      if (← keyword "BROWSE") then return ("FOR BROWSE" :: acc).reverse
      let kind ← expectOneOf ["UPDATE", "SHARE"]
      let of ← if (← keyword "OF") then (fun nm => " OF " ++ renderName nm) <$> objectName
        else pure ""
      let wait ← do
        if (← keyword "NOWAIT") then pure " NOWAIT"
        else if (← keywords ["SKIP", "LOCKED"]) then pure " SKIP LOCKED" else pure ""
      locks j (("FOR " ++ kind ++ of ++ wait) :: acc)
  let lockList ← locks n []
  let format ←
    if (← given (d == .clickhouse || d == .generic) (keyword "FORMAT")) then
      if (← keyword "NULL") then pure " FORMAT NULL"
      else (fun i => " FORMAT " ++ Ident.render i) <$> ident
    else pure ""
  return orderBy ++ (match limit with | some l => " LIMIT " ++ l | none => "") ++
    (match offset with | some o => " " ++ o | none => "") ++ limitBy ++ settings ++ fetch ++
    (if lockList.isEmpty then "" else " " ++ " ".intercalate lockList) ++ format

/-- The INSERT conflict clause of SQLite, `OR REPLACE` and the like. -/
def conflictClause : Parse (Option String) := do
  for w in ["REPLACE", "ROLLBACK", "ABORT", "FAIL", "IGNORE"] do
    if (← keywords ["OR", w]) then return some ("OR " ++ w)
  if (← keyword "REPLACE") then return some "OR REPLACE"
  return none

/-- An INSERT after its keyword, or a REPLACE when `replace`. -/
def insertStatement (k : Knots) (replace : Bool) : Parse Statement := do
  let d ← dialect
  let conflict ← conflictClause
  let priority ←
    if d == .mysql || d == .generic then
      match (← oneOf ["LOW_PRIORITY", "DELAYED", "HIGH_PRIORITY"]) with
      | some p => pure (" " ++ p)
      | none => pure ""
    else pure ""
  let ignore ← if d == .mysql || d == .generic then keyword "IGNORE" else pure false
  let action ← oneOf ["INTO", "OVERWRITE"]
  let overwrite := action == some "OVERWRITE"
  let into := action == some "INTO"
  let isLocal ← keyword "LOCAL"
  if (← keyword "DIRECTORY") then
    let path ← literalString
    let format ← do
      if (← keywords ["STORED", "AS"]) then
        let t ← next
        let formats := ["AVRO", "JSONFILE", "ORC", "PARQUET", "RCFILE", "SEQUENCEFILE", "TEXTFILE"]
        match formats.find? t.token.isKw with
        | some f => pure (" STORED AS " ++ f)
        | none => expected "fileformat" t
      else pure ""
    let q ← k.query
    return .other ("INSERT" ++ (if overwrite then " OVERWRITE" else "") ++
      (if isLocal then " LOCAL" else "") ++ " DIRECTORY '" ++ path ++ "'" ++ format ++ " " ++ q.render)
  let tableKw ← keyword "TABLE"
  let (target, targetText) ←
    if (← given d.insertTableFunction (keyword "FUNCTION")) then do
      let name ← objectName
      let f ← functionCall k name
      pure (InsertTarget.function f.render, "FUNCTION " ++ f.render)
    else do
      let name ← objectName
      pure (InsertTarget.table name, renderName name)
  let targetText ←
    if (← given (d == .postgresql) (keyword "AS")) then
      pure (targetText ++ " AS " ++ (← ident).render)
    else pure targetText
  let (columns, middle, source, body) ←
    if (← keywords ["DEFAULT", "VALUES"]) then pure ([], "", none, "DEFAULT VALUES")
    else do
      let subqueryNext := (← peek).token == .sym .lParen && (← peekNth 1).token.isKw "SELECT"
      let (cols, parts) ←
        if subqueryNext then pure ([], "")
        else do
          let cols ← columnList true (d == .mysql)
          let parts ←
            if (← keyword "PARTITION") then do
              expectSym .lParen
              let es ← listOf (k.expr 0)
              expectSym .rParen
              pure ("PARTITION (" ++ Expr.renderList es ++ ") ")
            else pure ""
          let after ←
            if d == .hive then do
              let more ← columnList true false
              pure (if more.isEmpty then "" else "(" ++ commaList (more.map Ident.render) ++ ") ")
            else pure ""
          pure (cols, parts ++ after)
      if (← peekKw "FORMAT") || (← peekKw "SETTINGS") then
        pure (cols, parts, none, if cols.isEmpty then "DEFAULT VALUES" else "")
      else if (← given d.insertSet (keyword "SET")) then do
        let items ← listOf (assignment k)
        pure (cols, parts, none, "SET " ++ commaList items)
      else do
        let q ← k.query
        pure (cols, parts, some q, "")
  let inputFormat ←
    if d == .clickhouse || d == .generic then do
      let settings ←
        if (← keyword "SETTINGS") then do
          let items ← listOf do
            let key ← ident
            expectSym .eq
            let v ← value
            pure (key.render ++ " = " ++ v.render)
          pure (" SETTINGS " ++ commaList items)
        else pure ""
      let format ←
        if (← keyword "FORMAT") then do
          let name ← ident
          let values ← optional (listOf (k.expr 0))
          pure (" FORMAT " ++ name.render ++
            match values with
            | some (v :: vs) => " " ++ Expr.renderList (v :: vs)
            | _ => "")
        else pure ""
      pure (settings ++ format)
    else pure ""
  let aliasName ←
    if (← given (d == .mysql || d == .generic) (keyword "AS")) then do
      let row ← objectName
      let cols ← columnList true false
      pure (" AS " ++ renderName row ++
        (if cols.isEmpty then "" else " (" ++ commaList (cols.map Ident.render) ++ ")"))
    else pure ""
  let on ←
    if (← keyword "ON") then
      if (← keyword "CONFLICT") then do
        let target ← do
          if (← keywords ["ON", "CONSTRAINT"]) then
            (fun nm => " ON CONSTRAINT " ++ renderName nm) <$> objectName
          else if (← peekSym .lParen) then do
            let cols ← columnList false false
            pure ("(" ++ commaList (cols.map Ident.render) ++ ")")
          else pure ""
        expectKw "DO"
        let action ←
          if (← keyword "NOTHING") then pure "DO NOTHING"
          else do
            expectKws ["UPDATE", "SET"]
            let items ← listOf (assignment k)
            let sel ← if (← keyword "WHERE") then (fun e => " WHERE " ++ Expr.render e) <$> k.expr 0
              else pure ""
            pure ("DO UPDATE SET " ++ commaList items ++ sel)
        pure (" ON CONFLICT" ++ target ++ " " ++ action)
      else do
        expectKws ["DUPLICATE", "KEY", "UPDATE"]
        let items ← listOf (assignment k)
        pure (" ON DUPLICATE KEY UPDATE " ++ commaList items)
    else pure ""
  let returning ←
    if (← keyword "RETURNING") then do
      let items ← listOf (selectItem k)
      pure (" RETURNING " ++ SelectItem.renderList items)
    else pure ""
  let head :=
    match conflict with
    | some c => "INSERT " ++ c ++ " INTO " ++ targetText ++ " "
    | none =>
      (if replace then "REPLACE" else "INSERT") ++ priority ++ (if ignore then " IGNORE" else "") ++
        (if overwrite then " OVERWRITE" else "") ++ (if into then " INTO" else "") ++
        (if tableKw then " TABLE" else "") ++ " " ++ targetText ++ " "
  let colText := if columns.isEmpty then "" else "(" ++ commaList (columns.map Ident.render) ++ ") "
  return .insert target columns source (head ++ colText ++ middle ++ body)
    (inputFormat ++ aliasName ++ on ++ returning)

/-- An UPDATE after its keyword, as the text that names it. -/
def updateStatement (k : Knots) : Parse String := do
  let d ← dialect
  let conflict ← conflictClause
  let table ← k.tableJoins
  expectKw "SET"
  let items ← listOf (assignment k)
  let fromText ←
    if (← keyword "FROM") then
      if [Dialect.generic, .postgresql, .duckdb, .bigquery, .snowflake, .redshift, .mssql,
          .sqlite].contains d then
        (fun t => " FROM " ++ TableWithJoins.render t) <$> k.tableJoins
      else pure ""
    else pure ""
  let sel ← if (← keyword "WHERE") then (fun e => " WHERE " ++ Expr.render e) <$> k.expr 0
    else pure ""
  let ret ←
    if (← keyword "RETURNING") then do
      let items ← listOf (selectItem k)
      pure (" RETURNING " ++ SelectItem.renderList items)
    else pure ""
  return "UPDATE " ++ (match conflict with | some c => c ++ " " | none => "") ++ table.render ++
    " SET " ++ commaList items ++ fromText ++ sel ++ ret

/-- A query, at one layer of the reader: one nesting level more. -/
def queryLayer (k : Knots) : Parse Query := nested do
  let withClause ←
    if (← keyword "WITH") then do
      let recursive ← keyword "RECURSIVE"
      let ctes ← listOf (cte k)
      pure (some (recursive, ctes))
    else pure none
  let recursive := withClause.map (·.1)
  let ctes := (withClause.map (·.2)).getD []
  if (← keyword "INSERT") then
    let s ← insertStatement k false
    return .mk recursive ctes (.other s.render) ""
  if (← keyword "UPDATE") then
    return .mk recursive ctes (.other (← updateStatement k)) ""
  let body ← k.body 0
  let tail ← queryTail k
  return .mk recursive ctes body tail

/-- The type of an index after `USING`, when that word comes next: `BTREE`
or `HASH`. -/
def indexType : Parse Unit := do
  if (← keyword "USING") then
    if (← oneOf ["BTREE", "HASH"]).isNone then
      expected "index type \x7bBTREE | HASH\x7d" (← peek)

/-- The options of an index after its columns, any number of them: its type
after `USING`, or a comment. -/
def indexOptions : Parse Unit := do
  loopN (← rounds) do
    if (← peekKw "USING") then
      indexType
      return true
    if (← keyword "COMMENT") then
      discard literalString
      return true
    return false

/-- A table constraint, if one comes next. -/
def tableConstraint (k : Knots) : Parse Bool := do
  let d ← dialect
  let named ← if (← keyword "CONSTRAINT") then some <$> ident else pure none
  let t ← next
  let indexName : Parse Unit := do
    match (← peek).token with
    | .word w => if w.isKw "USING" then pure () else let _ ← optionalIdent
    | _ => let _ ← optionalIdent
  match t.token with
  | .word w =>
    match w.keyword with
    | some "UNIQUE" =>
      let display ← oneOf ["KEY", "INDEX"]
      if display.isSome && d != .generic && d != .mysql then
        expected "`index_name` or `(column_name [, ...])`" (← peek)
      if (← keyword "NULLS") then
        let _ ← keyword "NOT"
        expectKw "DISTINCT"
      let _ ← optionalIdent
      indexType
      let _ ← columnList false false
      indexOptions
      let _ ← constraintCharacteristics
      return true
    | some "PRIMARY" =>
      expectKw "KEY"
      let _ ← optionalIdent
      indexType
      let _ ← columnList false false
      indexOptions
      let _ ← constraintCharacteristics
      return true
    | some "FOREIGN" =>
      expectKw "KEY"
      let _ ← columnList false false
      expectKw "REFERENCES"
      let _ ← objectName
      let _ ← columnList true false
      let _ ← referentialActions
      let _ ← constraintCharacteristics
      return true
    | some "CHECK" =>
      expectSym .lParen
      let _ ← k.expr 0
      expectSym .rParen
      return true
    | some "INDEX" | some "KEY" =>
      if (d == .generic || d == .mysql) && named.isNone then
        indexName
        indexType
        let _ ← columnList false false
        return true
      else if named.isSome then expected "PRIMARY, UNIQUE, FOREIGN, or CHECK" t
      else
        back
        return false
    | some "FULLTEXT" | some "SPATIAL" =>
      if d == .generic || d == .mysql then
        if let some name := named then
          expected "FULLTEXT or SPATIAL option without constraint name"
            { t with token := .word (Word.bare name.render) }
        let _ ← oneOf ["KEY", "INDEX"]
        let _ ← optionalIdent
        let _ ← columnList false false
        return true
      else if named.isSome then expected "PRIMARY, UNIQUE, FOREIGN, or CHECK" t
      else
        back
        return false
    | _ =>
      if named.isSome then expected "PRIMARY, UNIQUE, FOREIGN, or CHECK" t
      back
      return false
  | _ =>
    if named.isSome then expected "PRIMARY, UNIQUE, FOREIGN, or CHECK" t
    back
    return false

/-- The parenthesized column definitions and constraints of a CREATE TABLE:
the names of the columns. -/
def tableColumns (k : Knots) : Parse (List Ident) := do
  if !(← symbol .lParen) then return []
  if (← symbol .rParen) then return []
  let d ← dialect
  let n ← rounds
  let rec go : Nat → List Ident → Parse (List Ident)
    | 0, acc => return acc.reverse
    | j + 1, acc => do
      let acc ←
        if (← tableConstraint k) then pure acc
        else match (← peek).token with
          | .word _ => do
            let (c, _) ← columnDef k
            pure (c :: acc)
          | _ => expected "column name or constraint definition" (← peek)
      let comma ← symbol .comma
      let rparen ← peekSym .rParen
      if !comma && !rparen then expected "',' or ')' after column definition" (← peek)
      if rparen && (!comma || d == .duckdb) then
        let _ ← next
        return acc.reverse
      go j acc
  go n []

/-- A comment on a table, `COMMENT [=] 'text'`, when `COMMENT` comes next. -/
def inlineComment : Parse Unit := do
  if (← keyword "COMMENT") then
    let _ ← symbol .eq
    let t ← next
    match t.token with
    | .singleQuoted _ => pure ()
    | _ => expected "comment" t

/-- The partition columns of a Hive table after `PARTITIONED BY`, when that
comes next. -/
def hiveDistribution (k : Knots) : Parse Unit := do
  if (← keywords ["PARTITIONED", "BY"]) then
    expectSym .lParen
    let _ ← listOf (columnDef k)
    expectSym .rParen

/-- The `ROW FORMAT` of a Hive table after `ROW`: a SerDe class, or the
characters that delimit fields, collection items, map keys, lines and
nulls, each after the words that name it. -/
def rowFormat : Parse Unit := do
  expectKw "FORMAT"
  if (← oneOf ["SERDE", "DELIMITED"]) == some "SERDE" then
    discard literalString
    return
  loopN (← rounds) do
    let kw ← oneOf ["FIELDS", "COLLECTION", "MAP", "LINES", "NULL"]
    let introduction : List String := match kw with
      | some "FIELDS" | some "LINES" => ["TERMINATED", "BY"]
      | some "COLLECTION" => ["ITEMS", "TERMINATED", "BY"]
      | some "MAP" => ["KEYS", "TERMINATED", "BY"]
      | some _ => ["DEFINED", "AS"]
      | none => []
    if introduction.isEmpty then return false
    if !(← keywords introduction) then return false
    let _ ← ident
    if kw == some "FIELDS" then
      if (← keywords ["ESCAPED", "BY"]) then discard ident
    return true

/-- The storage clauses of a Hive table, in any order: its row format, its
file format or input and output formats, its location, and the properties
of its SerDe. -/
def hiveFormats (k : Knots) : Parse Unit := do
  loopN (← rounds) do
    match (← oneOf ["ROW", "STORED", "LOCATION", "WITH"]) with
    | some "ROW" =>
      rowFormat
      return true
    | some "STORED" =>
      expectKw "AS"
      if (← keyword "INPUTFORMAT") then
        let _ ← k.expr 0
        expectKw "OUTPUTFORMAT"
        discard (k.expr 0)
      else
        let t ← next
        let formats := ["AVRO", "JSONFILE", "ORC", "PARQUET", "RCFILE", "SEQUENCEFILE", "TEXTFILE"]
        if !formats.any t.token.isKw then expected "fileformat" t
      return true
    | some "LOCATION" =>
      discard literalString
      return true
    | some _ =>
      back
      if (← keywords ["WITH", "SERDEPROPERTIES"]) then
        expectSym .lParen
        let _ ← listOf (sqlOption k)
        expectSym .rParen
        return true
      return false
    | none => return false

/-- The bucketing of a Hive table after `CLUSTERED BY`, when that comes next:
the columns, an optional sort order, and the number of buckets. -/
def clusteredBy (k : Knots) : Parse Unit := do
  let d ← dialect
  if (← given (d == .hive || d == .generic) (keywords ["CLUSTERED", "BY"])) then
    let _ ← columnList false false
    if (← keywords ["SORTED", "BY"]) then
      expectSym .lParen
      let _ ← listOf (orderItem k)
      expectSym .rParen
    expectKw "INTO"
    let _ ← numberValue
    expectKw "BUCKETS"

/-- A CREATE TABLE after `TABLE`. -/
def createTable (k : Knots) : Parse Statement := do
  let d ← dialect
  let _ ← keywords ["IF", "NOT", "EXISTS"]
  let name ← tableName
  if (← keywords ["ON", "CLUSTER"]) then
    let _ ← ident
  if (← either (keyword "LIKE") (keyword "ILIKE")) then looseName
  if (← keyword "CLONE") then looseName
  let columns ← tableColumns k
  if (← given (d == .hive) (keyword "COMMENT")) then
    let t ← next
    match t.token with
    | .singleQuoted _ => pure ()
    | _ => expected "comment" t
  let _ ← keywords ["WITHOUT", "ROWID"]
  hiveDistribution k
  clusteredBy k
  hiveFormats k
  sqlOptions k "WITH"
  sqlOptions k "TBLPROPERTIES"
  if (← keyword "ENGINE") then
    expectSym .eq
    let t ← next
    match t.token with
    | .word _ => if (← peekSym .lParen) then let _ ← parenIdents
    | _ => expected "identifier" t
  if (← keyword "AUTO_INCREMENT") then
    let _ ← symbol .eq
    let t ← next
    match t.token with
    | .number digits _ => discard (count32 digits t)
    | _ => expected "literal int" t
  if (← given (d == .clickhouse || d == .generic) (keywords ["PRIMARY", "KEY"])) then
    let _ ← k.expr 0
  if (← keywords ["ORDER", "BY"]) then
    if (← symbol .lParen) then
      if !(← peekSym .rParen) then
        let _ ← listOf (k.expr 0)
      expectSym .rParen
    else
      let _ ← k.expr 0
  if (← given (d == .bigquery || d == .postgresql || d == .generic) (keywords ["PARTITION", "BY"])) then
    let _ ← k.expr 0
  if d == .bigquery || d == .generic then
    if (← keywords ["CLUSTER", "BY"]) then
      let _ ← listOf ident
    if (← peekKw "OPTIONS") then sqlOptions k "OPTIONS"
  if (← keywords ["DEFAULT", "CHARSET"]) then
    expectSym .eq
    let t ← next
    match t.token with
    | .word _ => pure ()
    | _ => expected "identifier" t
  if (← keyword "COLLATE") then
    expectSym .eq
    let t ← next
    match t.token with
    | .word _ => pure ()
    | _ => expected "identifier" t
  if (← keywords ["ON", "COMMIT", "DELETE", "ROWS"]) then pure ()
  else if (← keywords ["ON", "COMMIT", "PRESERVE", "ROWS"]) then pure ()
  else if (← keywords ["ON", "COMMIT", "DROP"]) then pure ()
  let _ ← keyword "STRICT"
  if d != .hive then inlineComment
  let query ← do
    if (← keyword "AS") then some <$> k.query
    else if d.createTableSelect && (← peekKw "SELECT") then some <$> k.query
    else pure none
  return .createTable name columns query

/-- A CREATE EXTERNAL TABLE after `EXTERNAL`: the table, its columns, and
its Hive partitions, storage and properties. -/
def externalTable (k : Knots) : Parse Statement := do
  expectKw "TABLE"
  let _ ← keywords ["IF", "NOT", "EXISTS"]
  let name ← objectName
  let columns ← tableColumns k
  hiveDistribution k
  hiveFormats k
  sqlOptions k "TBLPROPERTIES"
  return .createTable name columns none

/-- The clauses of a Snowflake CREATE TABLE after the name, in any order,
until a query, a clone or a copied table ends them or the statement ends;
the columns are the last list in parentheses. A table with neither
columns nor a query that ends the clauses is incomplete. -/
def snowflakeClauses (k : Knots) : Nat → List Ident → Parse (List Ident × Option Query)
  | 0, cols => return (cols, none)
  | j + 1, cols => do
    let t ← next
    match t.token with
    | .word w =>
      match w.keyword with
      | some "COPY" =>
        expectKw "GRANTS"
        snowflakeClauses k j cols
      | some "COMMENT" =>
        back
        inlineComment
        snowflakeClauses k j cols
      | some "AS" => return (cols, some (← k.query))
      | some "CLONE" | some "LIKE" =>
        looseName
        return (cols, none)
      | some "CLUSTER" =>
        expectKw "BY"
        expectSym .lParen
        let _ ← listOf ident
        expectSym .rParen
        snowflakeClauses k j cols
      | some "ENABLE_SCHEMA_EVOLUTION" | some "CHANGE_TRACKING" =>
        expectSym .eq
        if (← oneOf ["TRUE", "FALSE"]).isNone then expected "TRUE or FALSE" t
        snowflakeClauses k j cols
      | some "DATA_RETENTION_TIME_IN_DAYS" | some "MAX_DATA_EXTENSION_TIME_IN_DAYS" =>
        expectSym .eq
        let _ ← literalNat
        snowflakeClauses k j cols
      | some "DEFAULT_DDL_COLLATION" =>
        expectSym .eq
        let _ ← literalString
        snowflakeClauses k j cols
      | some "WITH" =>
        let _ ← expectOneOf ["AGGREGATION", "TAG", "ROW"]
        back
        snowflakeClauses k j cols
      | some "AGGREGATION" =>
        expectKw "POLICY"
        let _ ← objectName
        snowflakeClauses k j cols
      | some "ROW" =>
        expectKws ["ACCESS", "POLICY"]
        let _ ← objectName
        expectKw "ON"
        expectSym .lParen
        let _ ← listOf ident
        expectSym .rParen
        snowflakeClauses k j cols
      | some "TAG" =>
        expectSym .lParen
        let _ ← listOf tag
        expectSym .rParen
        snowflakeClauses k j cols
      | _ => expected "end of statement" t
    | .sym .lParen =>
      back
      snowflakeClauses k j (← tableColumns k)
    | .eof =>
      if cols.isEmpty then fail "unexpected end of input"
      return (cols, none)
    | .sym .semicolon =>
      if cols.isEmpty then fail "unexpected end of input"
      back
      return (cols, none)
    | _ => expected "end of statement" t

/-- A Snowflake CREATE TABLE after `TABLE`. -/
def snowflakeTable (k : Knots) : Parse Statement := do
  let _ ← keywords ["IF", "NOT", "EXISTS"]
  let name ← objectName
  let (columns, query) ← snowflakeClauses k (← rounds) []
  return .createTable name columns query

/-- Snowflake's own statements, when the text starts with one: CREATE STAGE
and CREATE TABLE after their shared modifiers, COPY INTO, and LIST and
REMOVE. Any other CREATE steps back over `CREATE`, `OR REPLACE` and a
temporary marker, but not over the other modifiers it took. -/
def snowflakeStatement (k : Knots) : Parse (Option Statement) := do
  if (← keyword "CREATE") then
    let orReplace ← keywords ["OR", "REPLACE"]
    let _ ← oneOf ["LOCAL", "GLOBAL"]
    let kind ← oneOf ["TEMP", "TEMPORARY", "VOLATILE", "TRANSIENT"]
    let temporary := kind == some "TEMP" || kind == some "TEMPORARY"
    if (← keyword "STAGE") then return some (.other (← createStage orReplace temporary))
    if (← keyword "TABLE") then return some (← snowflakeTable k)
    let steps := 1 + (if orReplace then 2 else 0) + (if temporary then 1 else 0)
    modify (· - steps)
  if (← keywords ["COPY", "INTO"]) then return some (.other (← copyInto))
  match (← oneOf ["LIST", "LS", "REMOVE", "RM"]) with
  | some "LIST" | some "LS" => return some (.other (← stagingCommand "LIST"))
  | some _ => return some (.other (← stagingCommand "REMOVE"))
  | none => return none

/-- A CREATE VIEW after `CREATE [OR REPLACE] [TEMPORARY]`, at `MATERIALIZED`
or `VIEW`. -/
def createView (k : Knots) : Parse Statement := do
  let d ← dialect
  let _ ← keyword "MATERIALIZED"
  expectKw "VIEW"
  if d == .bigquery || d == .sqlite || d == .generic then
    let _ ← keywords ["IF", "NOT", "EXISTS"]
  let name ← tableName
  let columns ←
    if (← symbol .lParen) then
      if (← symbol .rParen) then pure []
      else do
        let cols ← listOf do
          let c ← ident
          if (← given (d == .bigquery || d == .generic) (peekKw "OPTIONS")) then
            sqlOptions k "OPTIONS"
          else if (← given (d == .snowflake || d == .generic) (keyword "COMMENT")) then
            let t ← next
            match t.token with
            | .singleQuoted _ => pure ()
            | _ => expected "string" t
          if d == .clickhouse then
            let _ ← k.dataType
          pure c
        expectSym .rParen
        pure cols
    else pure []
  sqlOptions k "WITH"
  if (← keyword "CLUSTER") then
    expectKw "BY"
    let _ ← columnList true false
  if d == .bigquery || d == .generic then
    if (← peekKw "OPTIONS") then
      let _ ← optional (sqlOptions k "OPTIONS")
  if (← given (d == .clickhouse || d == .generic) (keyword "TO")) then
    let _ ← objectName
  if (← given (d == .snowflake || d == .generic) (keyword "COMMENT")) then
    expectSym .eq
    let t ← next
    match t.token with
    | .singleQuoted _ => pure ()
    | _ => expected "string literal" t
  expectKw "AS"
  let q ← k.query
  if d == .redshift || d == .generic then
    let _ ← keywords ["WITH", "NO", "SCHEMA", "BINDING"]
  return .createView name columns q

/-- A CREATE INDEX after `INDEX`, as the text that names it. -/
def createIndex (k : Knots) (unique : Bool) : Parse String := do
  let _ ← keyword "CONCURRENTLY"
  let ifNotExists ← keywords ["IF", "NOT", "EXISTS"]
  let named ← if ifNotExists then pure true else (!·) <$> keyword "ON"
  if named then
    let _ ← objectName
    expectKw "ON"
  let _ ← objectName
  if (← keyword "USING") then
    let _ ← ident
  expectSym .lParen
  let _ ← listOf (orderItem k)
  expectSym .rParen
  if (← keyword "INCLUDE") then
    let _ ← columnList false false
  if (← keyword "NULLS") then
    let _ ← keyword "NOT"
    expectKw "DISTINCT"
  if (← dialect) == .generic || (← dialect) == .postgresql then
    if (← keyword "WITH") then
      expectSym .lParen
      let _ ← listOf (k.expr 0)
      expectSym .rParen
  if (← keyword "WHERE") then
    let _ ← k.expr 0
  return if unique then "CREATE UNIQUE INDEX" else "CREATE INDEX"

/-- A name that is granted something: a dotted name, in MySQL a user and a
host joined by `@`. -/
def granteeName : Parse Unit := do
  let name ← objectName
  if (← given ((← dialect) == .mysql && name.length == 1) (symbol .atSign)) then discard ident

/-- The view parameters that may stand between CREATE and the object type:
`ALGORITHM =`, `DEFINER =` and `SQL SECURITY`, each optional. -/
def viewParams : Parse Unit := do
  if (← keyword "ALGORITHM") then
    expectSym .eq
    discard (expectOneOf ["UNDEFINED", "MERGE", "TEMPTABLE"])
  if (← keyword "DEFINER") then
    expectSym .eq
    granteeName
  if (← keywords ["SQL", "SECURITY"]) then discard (expectOneOf ["DEFINER", "INVOKER"])

/-- A CREATE after its keyword. -/
def createStatement (k : Knots) : Parse Statement := do
  let d ← dialect
  let orReplace ← keywords ["OR", "REPLACE"]
  let orAlter ← keywords ["OR", "ALTER"]
  let _ ← keyword "LOCAL"
  let _ ← keyword "GLOBAL"
  let _ ← keyword "TRANSIENT"
  let temporary ← (·.isSome) <$> oneOf ["TEMP", "TEMPORARY"]
  let persistent ← if d == .duckdb then keyword "PERSISTENT" else pure false
  viewParams
  let other (p : Parse String) : Parse Statement := Statement.other <$> p
  if (← keyword "TABLE") then return (← createTable k)
  if (← peekKw "MATERIALIZED") || (← peekKw "VIEW") then return (← createView k)
  if (← keyword "POLICY") then return (← other (createPolicy k))
  if (← keyword "EXTERNAL") then return (← externalTable k)
  if (← keyword "FUNCTION") then return (← other (createFunction k orReplace temporary))
  if (← keyword "TRIGGER") then return (← other (createTrigger k orReplace false))
  if (← keywords ["CONSTRAINT", "TRIGGER"]) then return (← other (createTrigger k orReplace true))
  if (← keyword "MACRO") then return (← other (createMacro k orReplace temporary))
  if (← keyword "SECRET") then return (← other (createSecret orReplace temporary persistent))
  if orReplace then
    expected "[EXTERNAL] TABLE or [MATERIALIZED] VIEW or FUNCTION after CREATE OR REPLACE" (← peek)
  if (← keyword "EXTENSION") then return (← other createExtension)
  if (← keyword "INDEX") then return (← other (createIndex k false))
  if (← keywords ["UNIQUE", "INDEX"]) then return (← other (createIndex k true))
  if (← keyword "VIRTUAL") then return (← other createVirtualTable)
  if (← keyword "SCHEMA") then return (← other createSchema)
  if (← keyword "DATABASE") then return (← other createDatabase)
  if (← keyword "ROLE") then return (← other createRole)
  if (← keyword "SEQUENCE") then return (← other (createSequence k temporary))
  if (← keyword "TYPE") then return (← other (createType k))
  if (← keyword "PROCEDURE") then return (← other (createProcedure k orAlter))
  expected "an object type after CREATE" (← peek)

/-- A DROP after its keyword, as the text that names it. -/
def dropStatement (k : Knots) : Parse String := do
  let d ← dialect
  let temporary ← if d == .mysql || d == .generic || d == .duckdb then keyword "TEMPORARY"
    else pure false
  let persistent ← if d == .duckdb then keyword "PERSISTENT" else pure false
  let kind ← oneOf ["TABLE", "VIEW", "INDEX", "ROLE", "SCHEMA", "DATABASE", "SEQUENCE",
    "STAGE", "TYPE"]
  match kind with
  | none =>
    if (← keyword "FUNCTION") then return (← dropRoutine k "FUNCTION")
    if (← keyword "POLICY") then return (← dropPolicy)
    if (← keyword "PROCEDURE") then return (← dropRoutine k "PROCEDURE")
    if (← keyword "SECRET") then return (← dropSecret temporary persistent)
    if (← keyword "TRIGGER") then return (← dropTrigger)
    if (← keyword "EXTENSION") then return (← dropExtension)
    expected ("DATABASE, EXTENSION, FUNCTION, INDEX, POLICY, PROCEDURE, ROLE, SCHEMA, " ++
      "SECRET, SEQUENCE, STAGE, TABLE, TRIGGER, TYPE, or VIEW after DROP") (← peek)
  | some kind =>
    let ifExists ← keywords ["IF", "EXISTS"]
    let names ← listOf objectName
    let loc ← peek
    let cascade ← keyword "CASCADE"
    let restrict ← keyword "RESTRICT"
    let purge ← keyword "PURGE"
    if cascade && restrict then
      fail ("Cannot specify both CASCADE and RESTRICT in DROP" ++ loc.suffix)
    if kind == "ROLE" && (cascade || restrict || purge) then
      fail ("Cannot specify CASCADE, RESTRICT, or PURGE in DROP ROLE" ++ loc.suffix)
    return "DROP " ++ (if temporary then "TEMPORARY " else "") ++ kind ++
      (if ifExists then " IF EXISTS" else "") ++ " " ++ commaList (names.map renderName)

/-- A DELETE after its keyword, as the text that names it. -/
def deleteStatement (k : Knots) : Parse String := do
  let d ← dialect
  let (tables, withFrom) ←
    if (← keyword "FROM") then pure ([], true)
    else if d == .bigquery || d == .generic then pure ([], false)
    else do
      let ts ← listOf objectName
      expectKw "FROM"
      pure (ts, true)
  let from_ ← listOf (tableJoinsLayer k)
  if (← keyword "USING") then
    let _ ← listOf (tableJoinsLayer k)
  if (← keyword "WHERE") then
    let _ ← k.expr 0
  if (← keyword "RETURNING") then
    let _ ← listOf (selectItem k)
  if (← keywords ["ORDER", "BY"]) then
    let _ ← listOf (orderItem k)
  if (← keyword "LIMIT") then
    if !(← keyword "ALL") then
      let _ ← k.expr 0
  return "DELETE " ++ (if tables.isEmpty then "" else commaList (tables.map renderName) ++ " ") ++
    (if withFrom then "FROM " else "") ++ TableWithJoins.renderList from_

/-- Where MySQL puts an added or changed column: `FIRST` or `AFTER` a
column. Other dialects have no such clause. -/
def columnPosition : Parse Unit := do
  let d ← dialect
  if d == .mysql || d == .generic then
    if (← keyword "FIRST") then return
    if (← keyword "AFTER") then discard ident

/-- The partition or part that ClickHouse attaches, detaches or freezes:
`PART` or `PARTITION` and an expression. -/
def partOrPartition (k : Knots) : Parse Unit := do
  let _ ← expectOneOf ["PART", "PARTITION"]
  discard (k.expr 0)

/-- Expressions in parentheses, at least one. -/
def parenExprs (k : Knots) : Parse Unit := do
  expectSym .lParen
  let _ ← listOf (k.expr 0)
  expectSym .rParen

/-- A ClickHouse projection after its name: a parenthesized `SELECT` of
items with an optional grouping and ordering. -/
def projectionSelect (k : Knots) : Parse Unit := do
  expectSym .lParen
  expectKw "SELECT"
  let _ ← listOf (selectItem k)
  let _ ← groupByClause k
  if (← keywords ["ORDER", "BY"]) then
    let _ ← listOf (orderItem k)
    if (← dialect) == .clickhouse || (← dialect) == .generic then discard (interpolation k)
  expectSym .rParen

/-- The column changes after `ALTER [COLUMN] name`: nullability, default,
data type, or in PostgreSQL an added identity. -/
def alterColumn (k : Knots) : Parse Unit := do
  let postgres := (← dialect) == .postgresql
  if (← keywords ["SET", "NOT", "NULL"]) then return
  if (← keywords ["DROP", "NOT", "NULL"]) then return
  if (← keywords ["SET", "DEFAULT"]) then
    discard (k.expr 0)
    return
  if (← keywords ["DROP", "DEFAULT"]) then return
  if (← either (keywords ["SET", "DATA", "TYPE"]) (given postgres (keyword "TYPE"))) then
    let _ ← k.dataType
    if (← given postgres (keyword "USING")) then discard (k.expr 0)
    return
  if (← keywords ["ADD", "GENERATED"]) then
    if !(← keyword "ALWAYS") then discard (keywords ["BY", "DEFAULT"])
    expectKws ["AS", "IDENTITY"]
    if (← peekSym .lParen) then
      expectSym .lParen
      let _ ← sequenceOptions
      expectSym .rParen
    return
  if postgres then
    expected "SET/DROP NOT NULL, SET DEFAULT, SET DATA TYPE, or ADD GENERATED after ALTER COLUMN"
      (← peek)
  expected "SET/DROP NOT NULL, SET DEFAULT, or SET DATA TYPE after ALTER COLUMN" (← peek)

/-- The changes after `DROP` in ALTER TABLE: partitions, a constraint, the
primary key (MySQL), a projection (ClickHouse), the clustering key, or a
column. -/
def alterDrop (k : Knots) : Parse Unit := do
  let d ← dialect
  if (← keywords ["IF", "EXISTS", "PARTITION"]) then
    parenExprs k
    return
  if (← keyword "PARTITION") then
    parenExprs k
    return
  if (← keyword "CONSTRAINT") then
    let _ ← keywords ["IF", "EXISTS"]
    let _ ← ident
    discard (keyword "CASCADE")
    return
  if (← keywords ["PRIMARY", "KEY"]) && (d == .mysql || d == .generic) then return
  if (← keyword "PROJECTION") && (d == .clickhouse || d == .generic) then
    let _ ← keywords ["IF", "EXISTS"]
    discard ident
    return
  if (← keywords ["CLUSTERING", "KEY"]) then return
  let _ ← keyword "COLUMN"
  let _ ← keywords ["IF", "EXISTS"]
  let _ ← ident
  discard (keyword "CASCADE")

/-- One change of an ALTER TABLE. -/
def alterOperation (k : Knots) : Parse Unit := do
  let d ← dialect
  let clickhouse := d == .clickhouse || d == .generic
  if (← keyword "ADD") then
    if (← tableConstraint k) then return
    if (← given clickhouse (keyword "PROJECTION")) then
      let _ ← keywords ["IF", "NOT", "EXISTS"]
      let _ ← ident
      projectionSelect k
      return
    let _ ← keywords ["IF", "NOT", "EXISTS"]
    let before ← get
    loopN (← rounds) do
      if !(← keyword "PARTITION") then return false
      parenExprs k
      return true
    if (← get) != before then return
    let _ ← keyword "COLUMN"
    if [Dialect.postgresql, .bigquery, .duckdb, .generic].contains d then
      let _ ← keywords ["IF", "NOT", "EXISTS"]
    let _ ← columnDef k
    columnPosition
    return
  if (← keyword "RENAME") then
    if (← given (d == .postgresql) (keyword "CONSTRAINT")) then
      let _ ← ident
      expectKw "TO"
      discard ident
      return
    if (← keyword "TO") then
      discard objectName
      return
    let _ ← keyword "COLUMN"
    let _ ← ident
    expectKw "TO"
    discard ident
    return
  if (← keyword "DISABLE") then
    if (← keywords ["ROW", "LEVEL", "SECURITY"]) then return
    if (← either (keyword "RULE") (keyword "TRIGGER")) then
      discard ident
      return
    expected "ROW LEVEL SECURITY, RULE, or TRIGGER after DISABLE" (← peek)
  if (← keyword "ENABLE") then
    if (← either (keywords ["ALWAYS", "RULE"]) (keywords ["ALWAYS", "TRIGGER"])) then
      discard ident
      return
    if (← keywords ["ROW", "LEVEL", "SECURITY"]) then return
    if (← either (keywords ["REPLICA", "RULE"]) (keywords ["REPLICA", "TRIGGER"])) then
      discard ident
      return
    if (← either (keyword "RULE") (keyword "TRIGGER")) then
      discard ident
      return
    expected "ALWAYS, REPLICA, ROW LEVEL SECURITY, RULE, or TRIGGER after ENABLE" (← peek)
  if (← keywords ["CLEAR", "PROJECTION"]) && clickhouse then
    let _ ← keywords ["IF", "EXISTS"]
    let _ ← ident
    if (← keywords ["IN", "PARTITION"]) then discard ident
    return
  if (← keywords ["MATERIALIZE", "PROJECTION"]) && clickhouse then
    let _ ← keywords ["IF", "EXISTS"]
    let _ ← ident
    if (← keywords ["IN", "PARTITION"]) then discard ident
    return
  if (← keyword "DROP") then
    alterDrop k
    return
  if (← keyword "PARTITION") then
    parenExprs k
    expectKw "RENAME"
    expectKws ["TO", "PARTITION"]
    parenExprs k
    return
  if (← keyword "CHANGE") then
    let _ ← keyword "COLUMN"
    let _ ← ident
    let _ ← ident
    let _ ← k.dataType
    loopN (← rounds) do return (← columnOption k).isSome
    columnPosition
    return
  if (← keyword "MODIFY") then
    let _ ← keyword "COLUMN"
    let _ ← ident
    let _ ← k.dataType
    loopN (← rounds) do return (← columnOption k).isSome
    columnPosition
    return
  if (← keyword "ALTER") then
    let _ ← keyword "COLUMN"
    let _ ← ident
    alterColumn k
    return
  if (← keyword "SWAP") then
    expectKw "WITH"
    discard objectName
    return
  if (← given (d == .postgresql || d == .generic) (keywords ["OWNER", "TO"])) then
    if (← oneOf ["CURRENT_USER", "CURRENT_ROLE", "SESSION_USER"]).isSome then return
    let t ← next
    match t.token with
    | .word _ | .singleQuoted _ | .doubleQuoted _ => return
    | _ =>
      fail ("Expected: CURRENT_USER, CURRENT_ROLE, SESSION_USER or identifier after OWNER TO. " ++
        "sql parser error: Expected: identifier, found: " ++ t.token.text ++ t.suffix)
  if (← given clickhouse (keyword "ATTACH")) then
    partOrPartition k
    return
  if (← given clickhouse (keyword "DETACH")) then
    partOrPartition k
    return
  if (← given clickhouse (either (keyword "FREEZE") (keyword "UNFREEZE"))) then
    partOrPartition k
    if (← keyword "WITH") then
      expectKw "NAME"
      discard ident
    return
  if (← keywords ["CLUSTER", "BY"]) then
    parenExprs k
    return
  if (← keywords ["SUSPEND", "RECLUSTER"]) then return
  if (← keywords ["RESUME", "RECLUSTER"]) then return
  if (← keywords ["SET", "TBLPROPERTIES"]) then
    expectSym .lParen
    let _ ← listOf (sqlOption k)
    expectSym .rParen
    return
  expected "ADD, RENAME, PARTITION, SWAP, DROP, or SET TBLPROPERTIES after ALTER TABLE" (← peek)

/-- An ALTER after its keyword, as the text that names it. -/
def alterStatement (k : Knots) : Parse String := do
  let kind ← expectOneOf ["VIEW", "TABLE", "INDEX", "ROLE", "POLICY"]
  match kind with
  | "TABLE" =>
    let _ ← keywords ["IF", "EXISTS"]
    let _ ← keyword "ONLY"
    let name ← objectName
    if (← keywords ["ON", "CLUSTER"]) then
      let _ ← ident
    let _ ← listOf (alterOperation k)
    if (← keyword "LOCATION") then discard ident
    else if (← keywords ["SET", "LOCATION"]) then discard ident
    return "ALTER TABLE " ++ renderName name
  | "VIEW" =>
    let name ← objectName
    let _ ← columnList true false
    sqlOptions k "WITH"
    expectKw "AS"
    let _ ← k.query
    return "ALTER VIEW " ++ renderName name
  | "INDEX" => alterIndex
  | "ROLE" => alterRole k
  | _ => alterPolicy k

/-- A CALL after its keyword, as the text of the call. -/
def callStatement (k : Knots) : Parse String := do
  let name ← objectName
  if (← peekSym .lParen) then return "CALL " ++ (← functionCall k name).render
  return "CALL " ++ renderName name

/-- An EXECUTE or EXEC after its keyword, as its text: the name, the
parameters, in parentheses or not, and the expressions after `USING`. -/
def executeStatement (k : Knots) : Parse String := do
  let name ← objectName
  let parens ← symbol .lParen
  let params ←
    if parens then listOf0 (k.expr 0) .rParen
    else match (← peek).token with
      | .eof => pure []
      | .word w => if w.keyword == some "USING" then pure [] else listOf0 (k.expr 0) .semicolon
      | _ => listOf0 (k.expr 0) .semicolon
  if parens then expectSym .rParen
  let usingExprs ← if (← keyword "USING") then listOfWith false [] (k.expr 0) else pure []
  let args :=
    if parens then "(" ++ Expr.renderList params ++ ")"
    else if params.isEmpty then ""
    else " " ++ Expr.renderList params
  return "EXECUTE " ++ renderName name ++ args ++
    (if usingExprs.isEmpty then "" else " USING " ++ Expr.renderList usingExprs)

/-- A string literal of one character, as the options of COPY take. -/
def literalChar : Parse Unit := do
  let t ← peek
  let s ← literalString
  if s.utf8ByteSize != 1 then fail ("Expect a char, found " ++ Text.debugString s ++ t.suffix)

/-- One option of COPY in parentheses. -/
def copyOption : Parse Unit := do
  match (← oneOf ["FORMAT", "FREEZE", "DELIMITER", "NULL", "HEADER", "QUOTE", "ESCAPE",
      "FORCE_QUOTE", "FORCE_NOT_NULL", "FORCE_NULL", "ENCODING"]) with
  | some "FORMAT" => discard ident
  | some "FREEZE" | some "HEADER" => discard (oneOf ["TRUE", "FALSE"])
  | some "DELIMITER" | some "QUOTE" | some "ESCAPE" => literalChar
  | some "NULL" | some "ENCODING" => discard literalString
  | some _ => discard (columnList false false)
  | none => expected "option" (← peek)

/-- One option of the CSV option of COPY in its older form. -/
def copyCsvOption : Parse Unit := do
  match (← oneOf ["HEADER", "QUOTE", "ESCAPE", "FORCE"]) with
  | some "HEADER" => pure ()
  | some "QUOTE" | some "ESCAPE" =>
    let _ ← keyword "AS"
    literalChar
  | some _ =>
    if (← keywords ["NOT", "NULL"]) then discard (listOf ident)
    else if (← keyword "QUOTE") then discard (listOf ident)
    else expected "csv option" (← peek)
  | none => expected "csv option" (← peek)

/-- One option of COPY in its older form, without parentheses. -/
def copyLegacyOption : Parse Unit := do
  match (← oneOf ["BINARY", "DELIMITER", "NULL", "CSV"]) with
  | some "BINARY" => pure ()
  | some "DELIMITER" =>
    let _ ← keyword "AS"
    literalChar
  | some "NULL" =>
    let _ ← keyword "AS"
    discard literalString
  | some _ => loopN (← rounds) (return (← optional copyCsvOption).isSome)
  | none => expected "option" (← peek)

/-- Takes the rows that follow `COPY ... FROM STDIN;`: every token up to a
backslash and a period, or to the end of the text. A backslash takes the
token after it with it. -/
def copyData : Parse Unit := do
  loopN (← rounds) do
    let t ← next
    match t.token with
    | .eof =>
      back
      return false
    | .sym .backslash =>
      let u ← next
      match u.token with
      | .eof =>
        back
        return false
      | .sym .period => return false
      | _ => return true
    | _ => return true

/-- A COPY after its keyword, as the text that names it: its table, or its
query in parentheses, which only COPY ... TO takes. Copying from standard
input takes the rows after the statement's semicolon with it. -/
def copyStatement (k : Knots) : Parse String := do
  let (isQuery, source) ←
    if (← symbol .lParen) then do
      let q ← k.query
      expectSym .rParen
      pure (true, "(" ++ q.render ++ ")")
    else do
      let name ← objectName
      let cols ← columnList true false
      pure (false, renderName name ++
        (if cols.isEmpty then "" else " (" ++ commaList (cols.map Ident.render) ++ ")"))
  let toTarget ← match (← oneOf ["FROM", "TO"]) with
    | some "TO" => pure true
    | some _ => pure false
    | none => expected "FROM or TO" (← peek)
  if !toTarget && isQuery then fail "COPY ... FROM does not support query as a source"
  let stdin ← keyword "STDIN"
  if !stdin then
    if !(← keyword "STDOUT") then
      let _ ← keyword "PROGRAM"
      discard literalString
  let _ ← keyword "WITH"
  if (← symbol .lParen) then
    discard (listOf copyOption)
    expectSym .rParen
  loopN (← rounds) (return (← optional copyLegacyOption).isSome)
  if stdin then
    expectSym .semicolon
    copyData
  return "COPY " ++ source

/-- An UNLOAD after its keyword, as its text: the query and the target. -/
def unloadStatement (k : Knots) : Parse String := do
  expectSym .lParen
  let q ← k.query
  expectSym .rParen
  expectKw "TO"
  let target ← ident
  sqlOptions k "WITH"
  return "UNLOAD(" ++ q.render ++ ") TO " ++ target.render

/-- An UNLISTEN after its keyword: a channel, or `*` for every channel. -/
def unlistenStatement : Parse String := do
  if (← symbol .mul) then return "UNLISTEN *"
  match (← optional ident) with
  | some c => return "UNLISTEN " ++ c.render
  | none => expected "wildcard or identifier" (← peek)

/-- A NOTIFY after its keyword: a channel and an optional payload. -/
def notifyStatement : Parse String := do
  let channel ← ident
  if (← symbol .comma) then
    return "NOTIFY " ++ channel.render ++ ", '" ++ (← literalString) ++ "'"
  return "NOTIFY " ++ channel.render

/-- A TRUNCATE after its keyword, as the text that names it. -/
def truncateStatement (k : Knots) : Parse String := do
  let d ← dialect
  let table ← keyword "TABLE"
  let only ← keyword "ONLY"
  let names ← listOf objectName
  if (← keyword "PARTITION") then
    expectSym .lParen
    let _ ← listOf (k.expr 0)
    expectSym .rParen
  if d == .postgresql || d == .generic then
    let _ ← keywords ["RESTART", "IDENTITY"] <||> keywords ["CONTINUE", "IDENTITY"]
    let _ ← oneOf ["CASCADE", "RESTRICT"]
  if (← keywords ["ON", "CLUSTER"]) then
    let _ ← ident
  return "TRUNCATE " ++ (if table then "TABLE " else "") ++ (if only then "ONLY " else "") ++
    commaList (names.map renderName)

/-- `[AND [NO] CHAIN]` after COMMIT or ROLLBACK, with an optional
`TRANSACTION` or `WORK`; answers whether the chain is kept. -/
def chainClause : Parse Bool := do
  let _ ← oneOf ["TRANSACTION", "WORK"]
  if (← keyword "AND") then
    let chain := !(← keyword "NO")
    expectKw "CHAIN"
    return chain
  return false

/-- Whether the dialect reads a modifier such as `DEFERRED` after BEGIN. -/
def beginModifiers : Dialect → Bool
  | .sqlite | .generic | .mssql => true
  | _ => false

/-- A GRANT or REVOKE after its keyword, as the text that names it. -/
def grantStatement (grant : Bool) : Parse String := do
  let privileges ←
    if (← keyword "ALL") then
      if (← keyword "PRIVILEGES") then pure "ALL PRIVILEGES" else pure "ALL"
    else do
      let actions ← listOf do
        match (← oneOf ["CONNECT", "CREATE", "DELETE", "EXECUTE", "INSERT", "REFERENCES",
            "SELECT", "TEMPORARY", "TRIGGER", "TRUNCATE", "UPDATE", "USAGE"]) with
        | some kw =>
          if ["INSERT", "REFERENCES", "SELECT", "UPDATE"].contains kw then
            let cols ← columnList true false
            pure (if cols.isEmpty then kw else kw ++ " (" ++ commaList (cols.map Ident.render) ++ ")")
          else pure kw
        | none => expected "a privilege keyword" (← peek)
      pure (commaList actions)
  expectKw "ON"
  let _ ← do
    if (← keywords ["ALL", "TABLES", "IN", "SCHEMA"]) then listOf objectName
    else if (← keywords ["ALL", "SEQUENCES", "IN", "SCHEMA"]) then listOf objectName
    else do
      let _ ← oneOf ["SEQUENCE", "SCHEMA", "TABLE"]
      listOf objectName
  if grant then
    expectKw "TO"
    let _ ← listOf ident
    let _ ← keywords ["WITH", "GRANT", "OPTION"]
    if (← keywords ["GRANTED", "BY"]) then
      let _ ← ident
    return "GRANT " ++ privileges
  else
    expectKw "FROM"
    let _ ← listOf ident
    if (← keywords ["GRANTED", "BY"]) then
      let _ ← ident
    let _ ← oneOf ["CASCADE", "RESTRICT"]
    return "REVOKE " ++ privileges

/-- A USE after its keyword, as the text that names it. -/
def useStatement : Parse String := do
  let d ← dialect
  if (← given (d == .hive) (keyword "DEFAULT")) then return "USE DEFAULT"
  let kind ←
    match d with
    | .databricks => oneOf ["CATALOG", "DATABASE", "SCHEMA"]
    | .snowflake => oneOf ["DATABASE", "SCHEMA", "WAREHOUSE", "ROLE", "SECONDARY"]
    | _ => pure none
  if kind == some "SECONDARY" then
    let _ ← expectOneOf ["ROLES", "ROLE"]
    if !(← either (keyword "NONE") (keyword "ALL")) then discard (listOf ident)
    return "USE SECONDARY"
  let name ← objectName
  match kind with
  | some kw => return "USE " ++ kw ++ " " ++ renderName name
  | none => return "USE " ++ renderName name

/-- A MERGE after its keyword, as the text that names it. -/
def mergeStatement (k : Knots) : Parse String := do
  let into ← keyword "INTO"
  let table ← factorLayer k
  expectKw "USING"
  let _ ← factorLayer k
  expectKw "ON"
  let _ ← k.expr 0
  let n ← rounds
  loopN n do
    match (← peek).token with
    | .eof | .sym .semicolon => return false
    | _ => pure ()
    expectKw "WHEN"
    let notMatched ← keyword "NOT"
    expectKw "MATCHED"
    let kind ←
      if notMatched then
        if (← keywords ["BY", "SOURCE"]) then pure "NOT MATCHED BY SOURCE"
        else if (← keywords ["BY", "TARGET"]) then pure "NOT MATCHED BY TARGET"
        else pure "NOT MATCHED"
      else pure "MATCHED"
    if (← keyword "AND") then
      let _ ← k.expr 0
    expectKw "THEN"
    match (← oneOf ["UPDATE", "INSERT", "DELETE"]) with
    | some "UPDATE" =>
      if kind == "NOT MATCHED" || kind == "NOT MATCHED BY TARGET" then
        throw (.grammar ("UPDATE is not allowed in a " ++ kind ++ " merge clause"))
      expectKw "SET"
      let _ ← listOf (assignment k)
    | some "DELETE" =>
      if kind == "NOT MATCHED" || kind == "NOT MATCHED BY TARGET" then
        throw (.grammar ("DELETE is not allowed in a " ++ kind ++ " merge clause"))
    | some _ =>
      if !(kind == "NOT MATCHED" || kind == "NOT MATCHED BY TARGET") then
        throw (.grammar ("INSERT is not allowed in a " ++ kind ++ " merge clause"))
      let d ← dialect
      let _ ← columnList true (d == .mysql)
      if (← given (d == .bigquery || d == .generic) (keyword "ROW")) then pure ()
      else
        expectKw "VALUES"
        let _ ← valuesRows k (d == .mysql)
    | none => throw (.grammar "expected UPDATE, DELETE or INSERT in merge clause")
    return true
  return "MERGE" ++ (if into then " INTO" else "") ++ " " ++ table.render

/-- An EXPLAIN or DESCRIBE after its keyword `alias`: of a statement, or of a
table. -/
def explainStatement (k : Knots) (aliasName : String) : Parse String := do
  let d ← dialect
  let mut flags := ""
  if aliasName == "EXPLAIN" && (d == .generic || d == .postgresql || d == .duckdb) &&
      (← peekSym .lParen) then
    expectSym .lParen
    let opts ← listOf do
      let name ← ident
      let t ← peek
      match t.token with
      | .sym .comma | .sym .rParen => pure name.render
      | _ => do
        let v ← k.expr 0
        pure (name.render ++ " " ++ v.render)
    expectSym .rParen
    flags := "(" ++ commaList opts ++ ") "
  else if (← keywords ["QUERY", "PLAN"]) then
    flags := "QUERY PLAN "
  else
    if (← keyword "ANALYZE") then flags := flags ++ "ANALYZE "
    if (← keyword "VERBOSE") then flags := flags ++ "VERBOSE "
    if (← keyword "FORMAT") then
      let t ← next
      let f ← match t.token with
        | .word w =>
          match w.keyword with
          | some "TEXT" | some "GRAPHVIZ" | some "JSON" => pure (w.keyword.getD "")
          | _ => expected "fileformat" t
        | _ => expected "fileformat" t
      flags := flags ++ "FORMAT " ++ f ++ " "
  match (← optional k.statement) with
  | some s =>
    let text := s.render
    if text.startsWith "EXPLAIN " || text.startsWith "DESCRIBE " || text.startsWith "DESC " then
      throw (.grammar "Explain must be root of the plan")
    return aliasName ++ " " ++ flags ++ text
  | none =>
    let format ← match (← oneOf ["EXTENDED", "FORMATTED"]) with
      | some f => pure (f ++ " ")
      | none => pure ""
    let tableKw ← if d == .databricks then keyword "TABLE" else pure false
    let name ← objectName
    return aliasName ++ " " ++ format ++ (if tableKw then "TABLE " else "") ++ renderName name

/-- A statement, at one layer of the reader: one nesting level more. -/
def statementLayer (k : Knots) : Parse Statement := nested do
  let d ← dialect
  if d == .snowflake then
    if let some st ← snowflakeStatement k then return st
  if d == .postgresql then
    if let some text ← enumType then return .other text
  let t ← next
  let other (p : Parse String) : Parse Statement := Statement.other <$> p
  match t.token with
  | .word w =>
    match w.keyword with
    | some "SELECT" | some "WITH" | some "VALUES" | some "FROM" =>
      back
      return .query (← k.query)
    | some "INSERT" => insertStatement k false
    | some "REPLACE" =>
      if d == .sqlite then
        back
        insertStatement k false
      else if d == .mysql || d == .generic then insertStatement k true
      else fail ("Unsupported statement REPLACE" ++ (← peek).suffix)
    | some "CREATE" => createStatement k
    | some "DROP" => other (dropStatement k)
    | some "UPDATE" => other (updateStatement k)
    | some "DELETE" => other (deleteStatement k)
    | some "ALTER" => other (alterStatement k)
    | some "TRUNCATE" => other (truncateStatement k)
    | some "COMMIT" =>
      let chain ← chainClause
      return .other ("COMMIT" ++ (if chain then " AND CHAIN" else ""))
    | some "ROLLBACK" =>
      let chain ← chainClause
      let sp ←
        if (← keyword "TO") then do
          let _ ← keyword "SAVEPOINT"
          pure (" TO SAVEPOINT " ++ (← ident).render)
        else pure ""
      return .other ("ROLLBACK" ++ (if chain then " AND CHAIN" else "") ++ sp)
    | some "END" =>
      let chain ← chainClause
      return .other ("END" ++ (if chain then " AND CHAIN" else ""))
    | some "BEGIN" =>
      let modifier ←
        if beginModifiers d then
          match (← oneOf ["DEFERRED", "IMMEDIATE", "EXCLUSIVE", "TRY", "CATCH"]) with
          | some m => pure (" " ++ m)
          | none => pure ""
        else pure ""
      let kind ← match (← oneOf ["TRANSACTION", "WORK"]) with
        | some kw => pure (" " ++ kw)
        | none => pure ""
      let modes ← transactionModes
      return .other ("BEGIN" ++ modifier ++ kind ++ modes)
    | some "START" =>
      expectKw "TRANSACTION"
      let modes ← transactionModes
      return .other ("START TRANSACTION" ++ modes)
    | some "EXPLAIN" => other (explainStatement k "EXPLAIN")
    | some "DESCRIBE" => other (explainStatement k "DESCRIBE")
    | some "DESC" => other (explainStatement k "DESC")
    | some "GRANT" => other (grantStatement true)
    | some "REVOKE" => other (grantStatement false)
    | some "USE" => other useStatement
    | some "MERGE" => other (mergeStatement k)
    | some "SAVEPOINT" =>
      return .other ("SAVEPOINT " ++ (← ident).render)
    | some "RELEASE" =>
      let _ ← keyword "SAVEPOINT"
      return .other ("RELEASE SAVEPOINT " ++ (← ident).render)
    | some "CALL" => other (callStatement k)
    | some "EXECUTE" | some "EXEC" => other (executeStatement k)
    | some "COPY" => other (copyStatement k)
    | some "UNLOAD" => other (unloadStatement k)
    | some "LISTEN" =>
      if d != .postgresql then expected "an SQL statement" t
      return .other ("LISTEN " ++ (← ident).render)
    | some "UNLISTEN" =>
      if d != .postgresql then expected "an SQL statement" t
      other unlistenStatement
    | some "NOTIFY" =>
      if d != .postgresql then expected "an SQL statement" t
      other notifyStatement
    | some "LOCK" =>
      if d != .mysql then expected "an SQL statement" t
      expectKw "TABLES"
      other lockTables
    | some "UNLOCK" =>
      if d != .mysql then expected "an SQL statement" t
      expectKw "TABLES"
      return .other "UNLOCK TABLES"
    | some "RENAME" => other renameStatement
    | some "RAISERROR" => other (raiseError k)
    | some "KILL" => other killStatement
    | some "FLUSH" => other flushStatement
    | some "ANALYZE" => other (analyzeStatement k)
    | some "ATTACH" => other (attachStatement k)
    | some "DETACH" =>
      if d != .duckdb && d != .generic then expected "an SQL statement" t
      other detachStatement
    | some "MSCK" => other msckStatement
    | some "CACHE" => other (cacheStatement k)
    | some "UNCACHE" => other uncacheStatement
    | some "DISCARD" => other discardStatement
    | some "DECLARE" => other (declareStatement k)
    | some "FETCH" => other fetchStatement
    | some "CLOSE" => other closeStatement
    | some "SET" => other (setStatement k)
    | some "SHOW" => other (showStatement k)
    | some "ASSERT" => other (assertStatement k)
    | some "DEALLOCATE" => other deallocateStatement
    | some "PREPARE" => other (prepareStatement k)
    | some "PRAGMA" => other pragmaStatement
    | some "LOAD" => other (loadStatement k)
    | some "INSTALL" =>
      if d != .duckdb && d != .generic then expected "an SQL statement" t
      return .other ("INSTALL " ++ (← ident).render)
    | some "OPTIMIZE" =>
      if d != .clickhouse && d != .generic then expected "an SQL statement" t
      other (optimizeStatement k)
    | some "COMMENT" =>
      if d != .postgresql && d != .snowflake && d != .generic then expected "an SQL statement" t
      other commentStatement
    | some _ => expected "an SQL statement" t
    | none => expected "an SQL statement" t
  | .sym .lParen =>
    back
    return .query (← k.query)
  | _ => expected "an SQL statement" t

end Parse

end ColumnLineage.Sql
