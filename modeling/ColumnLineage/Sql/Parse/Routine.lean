import ColumnLineage.Sql.Parse.Schema
/-
ColumnLineage/Sql/Parse/Routine.lean

Reading the statements that define code run by the database: functions,
macros, triggers and procedures, and the statement that raises an error.
Each dialect writes a function its own way: Hive names the class that
implements it, PostgreSQL gives a body and properties in any order,
BigQuery an expression, and DuckDB a macro; other dialects have none.

A procedure's body is a list of statements between `BEGIN` and `END`, read
as the statements of a whole text are: separated by semicolons, where an
`END` right after a statement closes the list.
-/

namespace ColumnLineage.Sql

namespace Parse

/-- Takes semicolons; answers whether it took any. -/
def semicolons : Parse Bool := do
  let n ← rounds
  let rec go : Nat → Bool → Parse Bool
    | 0, took => return took
    | j + 1, took => do
      if (← symbol .semicolon) then go j true else return took
  go n false

/-- Statements separated by semicolons, up to the end of the text. Empty
statements are skipped, and after a statement a lone `END` also ends the
list. -/
def statements (k : Knots) : Parse (List Statement) := do
  let n ← rounds
  let rec go : Nat → List Statement → Bool → Parse (List Statement)
    | 0, acc, _ => return acc.reverse
    | j + 1, acc, expecting => do
      let expecting := if (← semicolons) then false else expecting
      let t ← peek
      match t.token with
      | .eof => return acc.reverse
      | .word w => if expecting && w.isKw "END" then return acc.reverse
      | _ => pure ()
      if expecting then expected "end of statement" t
      let s ← k.statement
      go j (s :: acc) true
  go n [] false

/-- The body of a function as a string: dollar-quoted in PostgreSQL, or a
literal string. -/
def functionBody : Parse Unit := do
  let d ← dialect
  match (← peek).token with
  | .dollarQuoted _ _ =>
    if d == .postgresql || d == .generic then discard next else discard literalString
  | _ => discard literalString

/-- A Hive function after `FUNCTION`: its name, the class that implements
it, and an optional resource to load it from. -/
def hiveFunction : Parse Unit := do
  let _ ← objectName
  expectKw "AS"
  functionBody
  if (← keyword "USING") then
    let _ ← expectOneOf ["JAR", "FILE", "ARCHIVE"]
    discard literalString

/-- The properties of a PostgreSQL function, in any order, each at most
once: its body, language, volatility, handling of null input, parallel
safety, or a returned expression, which is a body too. -/
def functionProperties (k : Knots) : Nat → List String → Parse Unit
  | 0, _ => return
  | j + 1, seen => do
    let once (field name : String) : Parse Unit :=
      if seen.contains field then fail (name ++ " specified more than once") else pure ()
    let volatility := "IMMUTABLE | STABLE | VOLATILE"
    let nullInput := "CALLED ON NULL INPUT | RETURNS NULL ON NULL INPUT | STRICT"
    let field ← do
      if (← keyword "AS") then do
        once "body" "AS"
        functionBody
        pure (some "body")
      else if (← keyword "LANGUAGE") then do
        once "language" "LANGUAGE"
        discard ident
        pure (some "language")
      else if (← oneOf ["IMMUTABLE", "STABLE", "VOLATILE"]).isSome then do
        once "volatility" volatility
        pure (some "volatility")
      else if (← keywords ["CALLED", "ON", "NULL", "INPUT"]) then do
        once "null" nullInput
        pure (some "null")
      else if (← keywords ["RETURNS", "NULL", "ON", "NULL", "INPUT"]) then do
        once "null" nullInput
        pure (some "null")
      else if (← keyword "STRICT") then do
        once "null" nullInput
        pure (some "null")
      else if (← keyword "PARALLEL") then do
        once "parallel" "PARALLEL \x7b UNSAFE | RESTRICTED | SAFE \x7d"
        if (← oneOf ["UNSAFE", "RESTRICTED", "SAFE"]).isNone then
          expected "one of UNSAFE | RESTRICTED | SAFE" (← peek)
        pure (some "parallel")
      else if (← keyword "RETURN") then do
        once "body" "RETURN"
        discard (k.expr 0)
        pure (some "body")
      else pure none
    match field with
    | some f => functionProperties k j (f :: seen)
    | none => return

/-- A PostgreSQL function after `FUNCTION`: its name, its parameters, the
type it returns, and its properties. -/
def postgresFunction (k : Knots) : Parse Unit := do
  let _ ← objectName
  expectSym .lParen
  if !(← peekSym .rParen) then discard (listOf (routineParam k))
  expectSym .rParen
  if (← keyword "RETURNS") then discard (dataTypeText k)
  functionProperties k (← rounds) []

/-- Options in parentheses after `OPTIONS`, when that word comes next;
answers whether it did. -/
def maybeOptions (k : Knots) : Parse Bool := do
  if (← peekKw "OPTIONS") then
    sqlOptions k "OPTIONS"
    return true
  return false

/-- A BigQuery function after `FUNCTION`: its name, typed parameters, result
type, determinism, language and remote connection, then unless it is remote
the expression it computes; its options may stand before or after that. -/
def bigQueryFunction (k : Knots) : Parse Unit := do
  let _ ← keywords ["IF", "NOT", "EXISTS"]
  let _ ← objectName
  expectSym .lParen
  let _ ← listOf0 (do
    let _ ← ident
    discard (dataTypeText k)) .rParen
  expectSym .rParen
  if (← keyword "RETURNS") then discard (dataTypeText k)
  if !(← keyword "DETERMINISTIC") then discard (keywords ["NOT", "DETERMINISTIC"])
  if (← keyword "LANGUAGE") then discard ident
  let remote ← keywords ["REMOTE", "WITH", "CONNECTION"]
  if remote then discard objectName
  let options ← maybeOptions k
  if !remote then
    expectKw "AS"
    let _ ← k.expr 0
    if !options then discard (maybeOptions k)

/-- A CREATE MACRO after its keyword, which DuckDB has: the name, the
parameters with optional defaults, and after `AS` an expression or a
`TABLE` query. -/
def createMacro (k : Knots) (orReplace temporary : Bool) : Parse String := do
  let d ← dialect
  if d != .duckdb && d != .generic then
    back
    expected "an object type after CREATE" (← peek)
  let _ ← objectName
  expectSym .lParen
  if !(← peekSym .rParen) then
    discard (listOf do
      let _ ← ident
      if (← either (symbol .assignment) (symbol .rArrow)) then discard (k.expr 0))
  expectSym .rParen
  expectKw "AS"
  if (← keyword "TABLE") then discard k.query else discard (k.expr 0)
  return "CREATE " ++ flagWord orReplace "OR REPLACE" ++ flagWord temporary "TEMPORARY" ++ "MACRO"

/-- A CREATE FUNCTION after `FUNCTION`, in the way of the dialect; DuckDB's
functions are macros. -/
def createFunction (k : Knots) (orReplace temporary : Bool) : Parse String := do
  let text := "CREATE " ++ flagWord orReplace "OR REPLACE" ++ flagWord temporary "TEMPORARY" ++
    "FUNCTION"
  match (← dialect) with
  | .hive =>
    hiveFunction
    return text
  | .postgresql | .generic =>
    postgresFunction k
    return text
  | .duckdb => createMacro k orReplace temporary
  | .bigquery =>
    bigQueryFunction k
    return text
  | _ =>
    back
    expected "an object type after CREATE" (← peek)

/-- The events of a trigger, separated by `OR`: `INSERT`, `UPDATE` with
optional columns, `DELETE` or `TRUNCATE`. -/
def triggerEvents : Nat → Parse Unit
  | 0 => return
  | j + 1 => do
    if (← expectOneOf ["INSERT", "UPDATE", "DELETE", "TRUNCATE"]) == "UPDATE" then
      if (← keyword "OF") then discard (listOf ident)
    if (← keyword "OR") then triggerEvents j

/-- The transition tables after `REFERENCING`: `OLD TABLE` or `NEW TABLE`
and a name each. A lone `OLD` or `NEW` is taken and ends them. -/
def transitionTables : Parse Unit := do
  loopN (← rounds) do
    if (← oneOf ["OLD", "NEW"]).isNone then return false
    if !(← keyword "TABLE") then return false
    let _ ← keyword "AS"
    discard objectName
    return true

/-- A CREATE TRIGGER after `TRIGGER`, which PostgreSQL has: when it fires and
on which events and table, its characteristics and transition tables, for
each row or statement, an optional condition, and the routine it runs. -/
def createTrigger (k : Knots) (orReplace isConstraint : Bool) : Parse String := do
  let d ← dialect
  if d != .postgresql && d != .generic then
    back
    expected "an object type after CREATE" (← peek)
  let _ ← objectName
  if (← expectOneOf ["BEFORE", "AFTER", "INSTEAD"]) == "INSTEAD" then expectKw "OF"
  triggerEvents (← rounds)
  expectKw "ON"
  let _ ← objectName
  if (← keyword "FROM") then looseName
  let _ ← constraintCharacteristics
  if (← keyword "REFERENCING") then transitionTables
  expectKw "FOR"
  let _ ← keyword "EACH"
  let _ ← expectOneOf ["ROW", "STATEMENT"]
  if (← keyword "WHEN") then discard (k.expr 0)
  expectKw "EXECUTE"
  let _ ← expectOneOf ["FUNCTION", "PROCEDURE"]
  routineDesc k
  return "CREATE " ++ flagWord orReplace "OR REPLACE" ++ flagWord isConstraint "CONSTRAINT" ++
    "TRIGGER"

/-- The parameters of a procedure after their parenthesis: a name and a type
each, separated by commas; a comma may trail and an entry may be empty. -/
def procedureParams (k : Knots) : Nat → Parse Unit
  | 0 => return
  | j + 1 => do
    match (← peek).token with
    | .word _ =>
      let _ ← ident
      discard (dataTypeText k)
    | _ => pure ()
    let comma ← symbol .comma
    if (← symbol .rParen) then return
    if !comma then expected "',' or ')' after parameter definition" (← peek)
    procedureParams k j

/-- A CREATE PROCEDURE after `PROCEDURE`: the name, optional parameters, and
the body between `AS BEGIN` and `END`. -/
def createProcedure (k : Knots) (orAlter : Bool) : Parse String := do
  let _ ← objectName
  if (← symbol .lParen) then
    if !(← symbol .rParen) then procedureParams k (← rounds)
  expectKw "AS"
  expectKw "BEGIN"
  let _ ← statements k
  expectKw "END"
  return "CREATE " ++ flagWord orAlter "OR ALTER" ++ "PROCEDURE"

/-- A RAISERROR after its keyword, as its text: the message, severity and
state, further arguments, and options after `WITH`. -/
def raiseError (k : Knots) : Parse String := do
  expectSym .lParen
  let msg ← k.expr 0
  expectSym .comma
  let severity ← k.expr 0
  expectSym .comma
  let state ← k.expr 0
  let args ← if (← symbol .comma) then listOf (k.expr 0) else pure []
  expectSym .rParen
  let options ←
    if (← keyword "WITH") then listOf (expectOneOf ["LOG", "NOWAIT", "SETERROR"]) else pure []
  return "RAISERROR(" ++ msg.render ++ ", " ++ severity.render ++ ", " ++ state.render ++
    (if args.isEmpty then "" else ", " ++ Expr.renderList args) ++ ")" ++
    (if options.isEmpty then "" else " WITH " ++ commaList options)

end Parse

end ColumnLineage.Sql
