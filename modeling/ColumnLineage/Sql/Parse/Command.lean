import ColumnLineage.Sql.Parse.Query
/-
ColumnLineage/Sql/Parse/Command.lean

Reading the statements that manage a session or a server rather than move
data: SET and SHOW, cursors (DECLARE, FETCH, CLOSE), prepared statements,
caches, extensions, attached databases, maintenance such as KILL, FLUSH,
ANALYZE or OPTIMIZE, and comments on objects. Lineage reads none of them;
each is read through to check it and kept as the text that names it, in the
canonical form: keywords upper case, a few spellings replaced by the one
they stand for (`FIELDS` by `COLUMNS`, `TEMPORARY` by `TEMP`), and words
that change nothing left out.

Some of these statements stop where a grammar of their own says, not at a
semicolon: the variable names of SHOW run to the end of the text, and the
table list of FLUSH TABLES takes the token that ends it, even a semicolon,
so that another statement cannot follow.
-/

namespace ColumnLineage.Sql

namespace Parse

/-- Transaction modes after BEGIN, START TRANSACTION or SET TRANSACTION. -/
def transactionModes : Parse String := do
  let n ← rounds
  let rec go : Nat → List String → Bool → Parse (List String)
    | 0, acc, _ => return acc.reverse
    | j + 1, acc, needComma => do
      let mode ← do
        if (← keywords ["ISOLATION", "LEVEL"]) then
          if (← keywords ["READ", "UNCOMMITTED"]) then pure (some "ISOLATION LEVEL READ UNCOMMITTED")
          else if (← keywords ["READ", "COMMITTED"]) then pure (some "ISOLATION LEVEL READ COMMITTED")
          else if (← keywords ["REPEATABLE", "READ"]) then pure (some "ISOLATION LEVEL REPEATABLE READ")
          else if (← keyword "SERIALIZABLE") then pure (some "ISOLATION LEVEL SERIALIZABLE")
          else expected "isolation level" (← peek)
        else if (← keywords ["READ", "ONLY"]) then pure (some "READ ONLY")
        else if (← keywords ["READ", "WRITE"]) then pure (some "READ WRITE")
        else if needComma then expected "transaction mode" (← peek)
        else pure none
      match mode with
      | none => return acc.reverse
      | some m =>
        let comma ← symbol .comma
        go j (m :: acc) comma
  let modes ← go n [] false
  return if modes.isEmpty then "" else " " ++ commaList modes

/-- `word ` when `b` holds, else nothing: an optional word of a statement's
text. -/
def flagWord (b : Bool) (word : String) : String := if b then word ++ " " else ""

/-- One table of MySQL's LOCK TABLES: a name, an optional alias and the
kind of lock. -/
def lockedTable : Parse String := do
  let name ← ident
  let aliasName ← optionalAlias ["READ", "WRITE", "LOW_PRIORITY"]
  let kind ← do
    if (← keyword "READ") then
      if (← keyword "LOCAL") then pure "READ LOCAL" else pure "READ"
    else if (← keyword "WRITE") then pure "WRITE"
    else if (← keywords ["LOW_PRIORITY", "WRITE"]) then pure "LOW_PRIORITY WRITE"
    else expected "an lock type in LOCK TABLES" (← peek)
  return name.render ++ (match aliasName with | some a => " AS " ++ a.render | none => "") ++
    " " ++ kind

/-- MySQL's LOCK TABLES after its keywords. -/
def lockTables : Parse String := do
  return "LOCK TABLES " ++ commaList (← listOf lockedTable)

/-- A KILL after its keyword: an optional kind and the id of what is
stopped. Only some dialects stop mutations; the kind is checked after the
id is read. -/
def killStatement : Parse String := do
  let d ← dialect
  let kind ← oneOf ["CONNECTION", "QUERY", "MUTATION"]
  let id ← literalNat
  if kind == some "MUTATION" && !(d == .clickhouse || d == .generic) then
    expected "Unsupported type for KILL, allowed: CONNECTION | QUERY" (← peek)
  return "KILL " ++ (match kind with | some w => w ++ " " | none => "") ++ toString id

/-- What a FLUSH empties, after its optional location. -/
def flushKind : Parse String := do
  for (ws, text) in [(["BINARY", "LOGS"], "BINARY LOGS"), (["ENGINE", "LOGS"], "ENGINE LOGS"),
      (["ERROR", "LOGS"], "ERROR LOGS"), (["GENERAL", "LOGS"], "GENERAL LOGS"),
      (["HOSTS"], "HOSTS"), (["PRIVILEGES"], "PRIVILEGES"), (["OPTIMIZER_COSTS"], "OPTIMIZER_COSTS")] do
    if (← keywords ws) then return text
  if (← keywords ["RELAY", "LOGS"]) then
    if (← keywords ["FOR", "CHANNEL"]) then
      return "RELAY LOGS FOR CHANNEL " ++ renderName (← objectName)
    return "RELAY LOGS"
  for (ws, text) in [(["SLOW", "LOGS"], "SLOW LOGS"), (["STATUS"], "STATUS"),
      (["USER_RESOURCES"], "USER_RESOURCES"), (["LOGS"], "LOGS")] do
    if (← keywords ws) then return text
  if (← keyword "TABLES") then
    let n ← rounds
    let rec go : Nat → List ObjectName → Bool → Bool → Parse String
      | 0, names, readLock, forExport => return text names readLock forExport
      | j + 1, names, readLock, forExport => do
        let t ← next
        match t.token with
        | .word w =>
          match w.keyword with
          | some "WITH" => go j names (← keywords ["READ", "LOCK"]) forExport
          | some "FOR" => go j names readLock (← keyword "EXPORT")
          | some _ => go j names readLock forExport
          | none =>
            back
            go j (← listOf objectName) readLock forExport
        | _ => return text names readLock forExport
    return (← go n [] false false)
  expected ("BINARY LOGS, ENGINE LOGS, ERROR LOGS, GENERAL LOGS, HOSTS, LOGS, PRIVILEGES, " ++
    "OPTIMIZER_COSTS,RELAY LOGS [FOR CHANNEL channel], SLOW LOGS, STATUS, USER_RESOURCES") (← peek)
where
  /-- The text of FLUSH TABLES with its table list and options. -/
  text (names : List ObjectName) (readLock forExport : Bool) : String :=
    "TABLES" ++ (if names.isEmpty then "" else " " ++ commaList (names.map renderName)) ++
      (if readLock then " WITH READ LOCK" else "") ++ (if forExport then " FOR EXPORT" else "")

/-- A FLUSH after its keyword, in the dialects that have it. -/
def flushStatement : Parse String := do
  let d ← dialect
  if !(d == .mysql || d == .generic) then fail ("Unsupported statement FLUSH" ++ (← peek).suffix)
  let location ← do
    if (← keyword "NO_WRITE_TO_BINLOG") then pure "NO_WRITE_TO_BINLOG "
    else if (← keyword "LOCAL") then pure "LOCAL "
    else pure ""
  return "FLUSH " ++ location ++ (← flushKind)

/-- An ANALYZE after its keyword: a table and the options that follow it,
in any order. -/
def analyzeStatement (k : Knots) : Parse String := do
  let table ← keyword "TABLE"
  let name ← objectName
  loopN (← rounds) do
    match (← oneOf ["PARTITION", "FOR", "CACHE", "NOSCAN", "COMPUTE"]) with
    | some "PARTITION" =>
      expectSym .lParen
      let _ ← listOf (k.expr 0)
      expectSym .rParen
      return true
    | some "FOR" =>
      expectKw "COLUMNS"
      let _ ← optional (listOf ident)
      return true
    | some "CACHE" =>
      expectKw "METADATA"
      return true
    | some "COMPUTE" =>
      expectKw "STATISTICS"
      return true
    | some _ => return true
    | none => return false
  return "ANALYZE " ++ flagWord table "TABLE" ++ renderName name

/-- An MSCK after its keyword: a table whose partitions are repaired. -/
def msckStatement : Parse String := do
  let repair ← keyword "REPAIR"
  expectKw "TABLE"
  let name ← objectName
  let _ ← optional do
    let _ ← oneOf ["ADD", "DROP", "SYNC"]
    expectKw "PARTITIONS"
  return "MSCK " ++ flagWord repair "REPAIR" ++ "TABLE " ++ renderName name

/-- What may follow the table of a CACHE: options, then a query, which
anything but the end of the text must be. -/
def cacheTail (k : Knots) : Parse Unit := do
  if (← peek).token != .eof then
    if (← peekKw "OPTIONS") then sqlOptions k "OPTIONS"
    if (← peek).token != .eof then
      match (← peek).token with
      | .word _ =>
        let _ ← keyword "AS"
        discard k.query
      | _ => expected "a QUERY statement" (← peek)

/-- A CACHE after its keyword: `TABLE name`, or a flag before `TABLE`. -/
def cacheStatement (k : Knots) : Parse String := do
  if (← keyword "TABLE") then
    let name ← objectName
    cacheTail k
    return "CACHE TABLE " ++ renderName name
  let flag ← objectName
  if (← keyword "TABLE") then
    let name ← objectName
    cacheTail k
    return "CACHE " ++ renderName flag ++ " TABLE " ++ renderName name
  if (← peek).token == .eof then back
  expected "a `TABLE` keyword" (← peek)

/-- An UNCACHE after its keyword. -/
def uncacheStatement : Parse String := do
  expectKw "TABLE"
  let ifExists ← keywords ["IF", "EXISTS"]
  let name ← objectName
  return "UNCACHE TABLE " ++ flagWord ifExists "IF EXISTS" ++ renderName name

/-- A DISCARD after its keyword: what is discarded. -/
def discardStatement : Parse String := do
  if (← keyword "ALL") then return "DISCARD ALL"
  if (← keyword "PLANS") then return "DISCARD PLANS"
  if (← keyword "SEQUENCES") then return "DISCARD SEQUENCES"
  if (← either (keyword "TEMP") (keyword "TEMPORARY")) then return "DISCARD TEMP"
  expected "ALL, PLANS, SEQUENCES, TEMP or TEMPORARY after DISCARD" (← peek)

/-- A BigQuery DECLARE after its keyword, as its names: variables separated
by commas, then a type, a `DEFAULT` value, or both; without a type the value
must be there. -/
def bigQueryDeclare (k : Knots) : Parse (List Ident) := do
  let names ← listOf ident
  if (← peekKw "DEFAULT") then
    expectKw "DEFAULT"
    discard (k.expr 0)
  else
    discard (dataTypeText k)
    if (← keyword "DEFAULT") then discard (k.expr 0)
  return names

/-- A value given to a Snowflake variable, after `DEFAULT` or `:=`; answers
whether one was given. -/
def snowflakeAssignment (k : Knots) : Parse Bool := do
  if (← either (keyword "DEFAULT") (symbol .assignment)) then
    discard (k.expr 0)
    return true
  return false

/-- One Snowflake declaration after its name: a cursor for a query or an
expression, a result set with an optional value, an exception with an
optional code and message, or a variable with a value, or a type and then
an optional value. -/
def snowflakeDeclaration (k : Knots) : Parse Unit := do
  if (← keyword "CURSOR") then
    expectKw "FOR"
    if (← peekKw "SELECT") then discard k.query else discard (k.expr 0)
  else if (← keyword "RESULTSET") then
    if !(← peekSym .semicolon) then discard (snowflakeAssignment k)
  else if (← keyword "EXCEPTION") then
    if (← peekSym .lParen) then discard (k.expr 0)
  else if !(← snowflakeAssignment k) then
    match (← peek).token with
    | .word _ =>
      discard (dataTypeText k)
      discard (snowflakeAssignment k)
    | _ => pure ()

/-- A Snowflake DECLARE after its keyword, as its first name: declarations
separated by semicolons. A semicolon followed by a word that is no keyword
starts the next declaration; any other semicolon ends the statement and is
left to end it. -/
def snowflakeDeclare (k : Knots) : Parse Ident := do
  let name ← ident
  snowflakeDeclaration k
  let rec more : Nat → Parse Unit
    | 0 => return
    | j + 1 => do
      if !(← symbol .semicolon) then return
      let fresh := match (← peek).token with
        | .word w => (Keyword.ofWord w.value).isNone
        | _ => false
      if !fresh then
        back
        return
      let _ ← ident
      snowflakeDeclaration k
      more j
  more (← rounds)
  return name

/-- One SQL Server declaration: a variable whose name starts with `@`, then
`CURSOR` or a type after an optional `AS`, and an optional `= value`. -/
def msSqlDeclaration (k : Knots) : Parse Ident := do
  let name ← ident
  if !name.value.startsWith "@" then fail "Invalid MsSql variable declaration."
  if !(← keyword "CURSOR") then
    let _ ← keyword "AS"
    discard (dataTypeText k)
  if (← symbol .eq) then discard (k.expr 0)
  return name

/-- A DECLARE after its keyword, as the text that names it. Most dialects
declare a cursor over a query; BigQuery, Snowflake and SQL Server declare
variables in forms of their own. -/
def declareStatement (k : Knots) : Parse String := do
  match (← dialect) with
  | .bigquery => return "DECLARE " ++ commaList ((← bigQueryDeclare k).map Ident.render)
  | .snowflake => return "DECLARE " ++ (← snowflakeDeclare k).render
  | .mssql =>
    match (← listOf (msSqlDeclaration k)) with
    | name :: _ => return "DECLARE " ++ name.render
    | [] => return "DECLARE"
  | _ => pure ()
  let name ← ident
  let _ ← keyword "BINARY"
  let _ ← either (keyword "INSENSITIVE") (keyword "ASENSITIVE")
  let _ ← either (keyword "SCROLL") (keywords ["NO", "SCROLL"])
  expectKw "CURSOR"
  if (← oneOf ["WITH", "WITHOUT"]).isSome then expectKw "HOLD"
  expectKw "FOR"
  let q ← k.query
  return "DECLARE " ++ name.render ++ " CURSOR FOR " ++ q.render

/-- Which rows a FETCH takes, as its text. -/
def fetchDirection : Parse String := do
  for w in ["NEXT", "PRIOR", "FIRST", "LAST"] do
    if (← keyword w) then return w
  if (← keyword "ABSOLUTE") then return "ABSOLUTE " ++ (← numberValue)
  if (← keyword "RELATIVE") then return "RELATIVE " ++ (← numberValue)
  for w in ["FORWARD", "BACKWARD"] do
    if (← keyword w) then
      if (← keyword "ALL") then return w ++ " ALL"
      return w ++ " " ++ (← numberValue)
  if (← keyword "ALL") then return "ALL"
  numberValue

/-- A FETCH after its keyword: the rows, the cursor and an optional target. -/
def fetchStatement : Parse String := do
  let direction ← fetchDirection
  let _ ← expectOneOf ["FROM", "IN"]
  let name ← ident
  let into ← if (← keyword "INTO") then (" INTO " ++ renderName ·) <$> objectName else pure ""
  return "FETCH " ++ direction ++ " IN " ++ name.render ++ into

/-- A CLOSE after its keyword: one cursor, or all of them. -/
def closeStatement : Parse String := do
  if (← keyword "ALL") then return "CLOSE ALL"
  return "CLOSE " ++ (← ident).render

/-- `SET [LOCAL | SESSION] ROLE name`, after the modifier. -/
def setRole (modifier : Option String) : Parse String := do
  expectKw "ROLE"
  let role ← if (← keyword "NONE") then pure "NONE" else Ident.render <$> ident
  let context := match modifier with
    | some "LOCAL" => " LOCAL"
    | some "SESSION" => " SESSION"
    | _ => ""
  return "SET" ++ context ++ " ROLE " ++ role

/-- The values after `=` or `TO` in a SET, separated by commas: a query
that starts with SELECT or WITH, or an expression. -/
def setValues (k : Knots) : Parse (List String) := do
  let n ← rounds
  let rec go : Nat → List String → Parse (List String)
    | 0, acc => return acc.reverse
    | j + 1, acc => do
      let v ←
        if (← peekKw "SELECT") || (← peekKw "WITH") then
          (fun q => "(" ++ Query.render q ++ ")") <$> k.query
        else
          match (← optional (k.expr 0)) with
          | some e => pure e.render
          | none =>
            let _ ← next
            expected "variable value" (← peek)
      if (← symbol .comma) then go j (v :: acc) else return (v :: acc).reverse
  go n []

/-- A SET after its keyword: a role, a variable or a parenthesized list of
them given values, the names or the time zone of the session, or the
characteristics of a transaction. -/
def setStatement (k : Knots) : Parse String := do
  let d ← dialect
  let modifier ← oneOf ["SESSION", "LOCAL", "HIVEVAR"]
  if modifier == some "HIVEVAR" then expectSym .colon
  else
    match (← optional (setRole modifier)) with
    | some text => return text
    | none => pure ()
  let isLocal := modifier == some "LOCAL"
  let setTargets : Sum (List Ident) ObjectName ← do
    if (← keywords ["TIME", "ZONE"]) then pure (.inr [{ value := "TIMEZONE" }])
    else if (← given d.parenthesizedSetVariables (symbol .lParen)) then
      let names ← listOf ident
      expectSym .rParen
      pure (.inl names)
    else .inr <$> objectName
  let name := match setTargets with
    | .inr n => some (renderName n)
    | .inl _ => none
  if (name.map String.toUpper == some "NAMES") && (d == .mysql || d == .generic) then
    if (← keyword "DEFAULT") then return "SET NAMES DEFAULT"
    let charset ← literalString
    let collation ← if (← keyword "COLLATE") then (" COLLATE " ++ ·) <$> literalString else pure ""
    return "SET NAMES " ++ charset ++ collation
  if (← either (symbol .eq) (keyword "TO")) then
    if name.isNone then expectSym .lParen
    let values ← setValues k
    if name.isNone then expectSym .rParen
    let (target, shown) := match setTargets with
      | .inr n => (renderName n, commaList values)
      | .inl names => ("(" ++ commaList (names.map Ident.render) ++ ")", "(" ++ commaList values ++ ")")
    return "SET " ++ flagWord isLocal "LOCAL" ++
      (if modifier == some "HIVEVAR" then "HIVEVAR:" else "") ++ target ++ " = " ++ shown
  match name with
  | none => expected "set variable" (← peek)
  | some text =>
    if text.toUpper == "TIMEZONE" then
      match (← optional (k.expr 0)) with
      | some e => return "SET " ++ flagWord isLocal "LOCAL" ++ "TIME ZONE " ++ e.render
      | none =>
        let _ ← next
        expected "timezone value" (← peek)
    else if text == "CHARACTERISTICS" then
      expectKws ["AS", "TRANSACTION"]
      return "SET SESSION CHARACTERISTICS AS TRANSACTION" ++ (← transactionModes)
    else if text == "TRANSACTION" && modifier.isNone then
      if (← keyword "SNAPSHOT") then return "SET TRANSACTION SNAPSHOT " ++ (← value).render
      return "SET TRANSACTION" ++ (← transactionModes)
    else expected "equals sign or TO" (← peek)

/-- The filter of a SHOW: `LIKE`, `ILIKE` or `WHERE`, or a bare pattern. -/
def showFilter (k : Knots) : Parse Unit := do
  if (← keyword "LIKE") then discard literalString
  else if (← keyword "ILIKE") then discard literalString
  else if (← keyword "WHERE") then discard (k.expr 0)
  else discard (optional literalString)

/-- Whether the keywords `ks` come next, none of them taken. -/
def peekKws (ks : List String) : Parse Bool := do
  let start ← get
  let found ← keywords ks
  set start
  return found

/-- Where a SHOW looks: `FROM` or `IN` a kind of parent with an optional
name, or a table name with an optional database after another `FROM`. -/
def showIn : Parse Unit := do
  if (← oneOf ["FROM", "IN"]).isNone then return
  match (← oneOf ["ACCOUNT", "DATABASE", "SCHEMA", "TABLE", "VIEW"]) with
  | some kind =>
    if (kind == "DATABASE" || kind == "SCHEMA") &&
        ((← peekKws ["STARTS", "WITH"]) || (← peekKw "LIMIT")) then
      return
    discard (optional objectName)
  | none =>
    let _ ← objectName
    if (← oneOf ["FROM", "IN"]).isSome then discard ident

/-- The options of a SHOW that lists objects: where to look and a filter,
the filter first in Snowflake, then `STARTS WITH`, `LIMIT` and `FROM`. -/
def showOptions (k : Knots) : Parse Unit := do
  if (← dialect) == .snowflake then
    showFilter k
    showIn
  else
    showIn
    showFilter k
  if (← keywords ["STARTS", "WITH"]) then discard value
  if (← keyword "LIMIT") then
    if !(← keyword "ALL") then discard (k.expr 0)
  if (← keyword "FROM") then discard value

/-- The words of `SHOW name ...`: every word up to `=` or the end of the
text, other tokens passed over. -/
def showWords : Parse (List String) := do
  let n ← rounds
  let rec go : Nat → List String → Parse (List String)
    | 0, acc => return acc.reverse
    | j + 1, acc => do
      let t ← peek
      match t.token with
      | .eof | .sym .eq => return acc.reverse
      | .word w =>
        let _ ← next
        go j (Ident.render { value := w.value, quote := w.quote } :: acc)
      | _ =>
        let _ ← next
        go j acc
  go n []

/-- A SHOW after its keyword. -/
def showStatement (k : Knots) : Parse String := do
  let d ← dialect
  let terse ← keyword "TERSE"
  let extended ← keyword "EXTENDED"
  let full ← keyword "FULL"
  let session ← keyword "SESSION"
  let isGlobal ← keyword "GLOBAL"
  let external ← keyword "EXTERNAL"
  if (← oneOf ["COLUMNS", "FIELDS"]).isSome then
    showOptions k
    return "SHOW " ++ flagWord extended "EXTENDED" ++ flagWord full "FULL" ++ "COLUMNS"
  if (← keyword "TABLES") then
    let _ ← if external then pure false else keyword "HISTORY"
    showOptions k
    return "SHOW " ++ flagWord terse "TERSE" ++ flagWord extended "EXTENDED" ++
      flagWord full "FULL" ++ flagWord external "EXTERNAL" ++ "TABLES"
  if (← keywords ["MATERIALIZED", "VIEWS"]) then
    showOptions k
    return "SHOW " ++ flagWord terse "TERSE" ++ "MATERIALIZED VIEWS"
  if (← keyword "VIEWS") then
    showOptions k
    return "SHOW " ++ flagWord terse "TERSE" ++ "VIEWS"
  if (← keyword "FUNCTIONS") then
    showFilter k
    return "SHOW FUNCTIONS"
  if extended || full then fail "EXTENDED/FULL are not supported with this type of SHOW query"
  if (← keyword "CREATE") then
    let kind ← expectOneOf ["TABLE", "TRIGGER", "FUNCTION", "PROCEDURE", "EVENT", "VIEW"]
    return "SHOW CREATE " ++ kind ++ " " ++ renderName (← objectName)
  if (← keyword "COLLATION") then
    showFilter k
    return "SHOW COLLATION"
  let scope := (if isGlobal then " GLOBAL" else "") ++ (if session then " SESSION" else "")
  if (← keyword "VARIABLES") && (d == .mysql || d == .generic) then
    showFilter k
    return "SHOW" ++ scope ++ " VARIABLES"
  if (← keyword "STATUS") && (d == .mysql || d == .generic) then
    showFilter k
    return "SHOW" ++ scope ++ " STATUS"
  for w in ["DATABASES", "SCHEMAS"] do
    if (← keyword w) then
      let _ ← keyword "HISTORY"
      showOptions k
      return "SHOW " ++ flagWord terse "TERSE" ++ w
  let words ← showWords
  return "SHOW" ++ String.join (words.map (" " ++ ·))

/-- A value a PRAGMA sets: a string, a number or a placeholder. -/
def pragmaValue : Parse String := do
  let v ← value
  match v with
  | .singleQuoted _ | .doubleQuoted _ | .number _ _ | .placeholder _ => return v.render
  | _ =>
    back
    expected "number or string or ? placeholder" (← peek)

/-- A PRAGMA after its keyword: a name, with a value in parentheses or after
`=`. -/
def pragmaStatement : Parse String := do
  let name ← renderName <$> objectName
  if (← symbol .lParen) then
    let v ← pragmaValue
    expectSym .rParen
    return "PRAGMA " ++ name ++ "(" ++ v ++ ")"
  if (← symbol .eq) then return "PRAGMA " ++ name ++ " = " ++ (← pragmaValue)
  return "PRAGMA " ++ name

/-- An ASSERT after its keyword: a condition and an optional message. -/
def assertStatement (k : Knots) : Parse String := do
  let condition ← k.expr 0
  let message ← if (← keyword "AS") then (" AS " ++ Expr.render ·) <$> k.expr 0 else pure ""
  return "ASSERT " ++ condition.render ++ message

/-- A DEALLOCATE after its keyword. -/
def deallocateStatement : Parse String := do
  let prepare ← keyword "PREPARE"
  return "DEALLOCATE " ++ flagWord prepare "PREPARE" ++ (← ident).render

/-- A PREPARE after its keyword: a name, the types of its parameters and
the statement prepared. -/
def prepareStatement (k : Knots) : Parse String := do
  let name ← ident
  if (← symbol .lParen) then
    let _ ← listOf do
      let (ty, shift) ← k.dataType
      if shift then fail ("unmatched > after parsing data type " ++ ty.text ++ (← peek).token.text)
    expectSym .rParen
  expectKw "AS"
  let s ← k.statement
  return "PREPARE " ++ name.render ++ " AS " ++ s.render

/-- A LOAD after its keyword: an extension, or in Hive a file loaded into a
table. -/
def loadStatement (k : Knots) : Parse String := do
  let d ← dialect
  if d.loadsExtensions then return "LOAD " ++ (← ident).render
  if (← keyword "DATA") && d == .hive then
    let isLocal ← keyword "LOCAL"
    expectKw "INPATH"
    let path ← literalString
    let overwrite ← keyword "OVERWRITE"
    expectKw "INTO"
    expectKw "TABLE"
    let name ← objectName
    if (← keyword "PARTITION") then
      expectSym .lParen
      let _ ← listOf (k.expr 0)
      expectSym .rParen
    if (← keyword "INPUTFORMAT") then
      let _ ← k.expr 0
      expectKw "SERDE"
      let _ ← k.expr 0
    return "LOAD DATA " ++ flagWord isLocal "LOCAL" ++ "INPATH '" ++ path ++ "' " ++
      flagWord overwrite "OVERWRITE" ++ "INTO TABLE " ++ renderName name
  expected "`DATA` or an extension name after `LOAD`" (← peek)

/-- The options in parentheses after an attached DuckDB database. -/
def attachOptions : Parse Unit := do
  if !(← symbol .lParen) then return
  let n ← rounds
  let rec go : Nat → Parse Unit
    | 0 => pure ()
    | j + 1 => do
      if (← keyword "READ_ONLY") then
        let _ ← either (keyword "TRUE") (keyword "FALSE")
      else if (← keyword "TYPE") then
        let _ ← ident
      else expected "expected one of: ), READ_ONLY, TYPE" (← peek)
      if (← symbol .rParen) then return
      if (← symbol .comma) then go j
      else expected "expected one of: ')', ','" (← peek)
  go n

/-- An ATTACH after its keyword: in DuckDB a database path with an optional
alias and options, elsewhere a file expression and the schema it becomes. -/
def attachStatement (k : Knots) : Parse String := do
  let database ← keyword "DATABASE"
  if (← dialect) == .duckdb then
    let ifNotExists ← keywords ["IF", "NOT", "EXISTS"]
    let path ← ident
    let aliasName ← if (← keyword "AS") then (" AS " ++ Ident.render ·) <$> ident else pure ""
    attachOptions
    return "ATTACH" ++ (if database then " DATABASE" else "") ++
      (if ifNotExists then " IF NOT EXISTS" else "") ++ " " ++ path.render ++ aliasName
  let file ← k.expr 0
  expectKw "AS"
  let schema ← ident
  return "ATTACH " ++ flagWord database "DATABASE" ++ file.render ++ " AS " ++ schema.render

/-- A DETACH after its keyword. -/
def detachStatement : Parse String := do
  let database ← keyword "DATABASE"
  let ifExists ← keywords ["IF", "EXISTS"]
  let name ← ident
  return "DETACH" ++ (if database then " DATABASE" else "") ++ (if ifExists then " IF EXISTS" else "") ++
    " " ++ name.render

/-- An OPTIMIZE after its keyword: a table with an optional cluster,
partition, `FINAL` and deduplication. -/
def optimizeStatement (k : Knots) : Parse String := do
  expectKw "TABLE"
  let name ← objectName
  if (← keywords ["ON", "CLUSTER"]) then
    let _ ← ident
  if (← keyword "PARTITION") then
    if (← keyword "ID") then discard ident else discard (k.expr 0)
  let _ ← keyword "FINAL"
  if (← keyword "DEDUPLICATE") then
    if (← keyword "BY") then discard (k.expr 0)
  return "OPTIMIZE TABLE " ++ renderName name

/-- A COMMENT after its keyword: the object commented on and the comment,
or `NULL` to remove it. -/
def commentStatement : Parse String := do
  let ifExists ← keywords ["IF", "EXISTS"]
  expectKw "ON"
  let t ← next
  let kind ← match t.token with
    | .word w =>
      match w.keyword with
      | some kw =>
        if ["COLUMN", "TABLE", "EXTENSION", "SCHEMA"].contains kw then pure kw
        else expected "comment object_type" t
      | none => expected "comment object_type" t
    | _ => expected "comment object_type" t
  let name ← objectName
  expectKw "IS"
  let comment ← if (← keyword "NULL") then pure "NULL"
    else (fun s => "'" ++ s ++ "'") <$> literalString
  return "COMMENT " ++ flagWord ifExists "IF EXISTS" ++ "ON " ++ kind ++ " " ++ renderName name ++
    " IS " ++ comment

end Parse

end ColumnLineage.Sql
