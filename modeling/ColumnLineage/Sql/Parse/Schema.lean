import ColumnLineage.Sql.Parse.Command
/-
ColumnLineage/Sql/Parse/Schema.lean

Reading the statements that define, change and remove the objects around
tables: schemas, databases, sequences, user-defined types, extensions,
virtual tables, roles, row-level security policies and secrets, the renaming
of tables and the removal of functions and procedures. Lineage reads none of
them; each is read through to check it and kept as the text that names it.

A few parts of these statements are allowed to fail without failing the
statement: the name after `CLONE`, `LIKE` or `FROM` in some of them. Such a
part still takes the tokens it read up to the one it could not use.
-/

namespace ColumnLineage.Sql

namespace Parse

/-- An identifier whose absence is no failure: the next token is taken
either way, and the answer is whether it was an identifier. -/
def looseIdent : Parse Bool := do
  match (← next).token with
  | .word _ | .singleQuoted _ | .doubleQuoted _ => return true
  | _ => return false

/-- A dotted name whose absence is no failure: its parts are taken up to and
including the first token that is no identifier. -/
def looseName : Parse Unit := do
  let d ← dialect
  let rec go : Nat → Nat → Parse Unit
    | 0, _ => return
    | j + 1, parts => do
      let parts ←
        if (← given (d == .snowflake && parts == 1) (symbol .period)) then pure 2 else pure parts
      if (← both looseIdent (symbol .period)) then go j (parts + 1)
  go (← rounds) 0

/-- A CREATE SCHEMA after its keyword: `AUTHORIZATION` and an owner, or a
name with an optional owner. -/
def createSchema : Parse String := do
  let _ ← keywords ["IF", "NOT", "EXISTS"]
  if (← keyword "AUTHORIZATION") then
    discard ident
  else
    let _ ← objectName
    if (← keyword "AUTHORIZATION") then discard ident
  return "CREATE SCHEMA"

/-- A CREATE DATABASE after its keyword: the name, then any number of
`LOCATION` and `MANAGEDLOCATION` strings. -/
def createDatabase : Parse String := do
  let _ ← keywords ["IF", "NOT", "EXISTS"]
  let _ ← objectName
  loopN (← rounds) do
    match (← oneOf ["LOCATION", "MANAGEDLOCATION"]) with
    | some _ =>
      discard literalString
      return true
    | none => return false
  return "CREATE DATABASE"

/-- A CREATE SEQUENCE after its keyword: the name, its type, and its options
in their fixed order, each at most once: increment, bounds, start, cache,
cycling and owner. -/
def createSequence (k : Knots) (temporary : Bool) : Parse String := do
  let _ ← keywords ["IF", "NOT", "EXISTS"]
  let _ ← objectName
  if (← keyword "AS") then discard (dataTypeText k)
  let _ ← sequenceOptions
  if (← keywords ["OWNED", "BY"]) then
    if !(← keyword "NONE") then discard objectName
  return "CREATE " ++ flagWord temporary "TEMPORARY" ++ "SEQUENCE"

/-- The attributes of a composite type after its parenthesis: a name, a type
and an optional collation each, separated by commas; a comma may trail. -/
def typeAttributes (k : Knots) : Nat → Parse Unit
  | 0 => return
  | j + 1 => do
    let _ ← ident
    let _ ← dataTypeText k
    if (← keyword "COLLATE") then discard objectName
    let comma ← symbol .comma
    if (← symbol .rParen) then return
    if !comma then expected "',' or ')' after attribute definition" (← peek)
    typeAttributes k j

/-- A CREATE TYPE after its keyword: the name and `AS`, then the attributes
of a composite type in parentheses, which may be missing or empty. -/
def createType (k : Knots) : Parse String := do
  let _ ← objectName
  expectKw "AS"
  if (← symbol .lParen) then
    if !(← symbol .rParen) then typeAttributes k (← rounds)
  return "CREATE TYPE"

/-- A PostgreSQL `CREATE TYPE name AS ENUM (labels)`, when the statement
starts with those words; otherwise nothing is taken. -/
def enumType : Parse (Option String) := do
  let head ← optional do
    expectKw "CREATE"
    expectKw "TYPE"
    let name ← objectName
    expectKw "AS"
    expectKw "ENUM"
    return name
  match head with
  | none => return none
  | some name =>
    if !(← symbol .lParen) then expected "'(' after CREATE TYPE AS ENUM" (← peek)
    let labels ← listOf0 ident .rParen
    expectSym .rParen
    return some ("CREATE TYPE " ++ renderName name ++ " AS ENUM (" ++
      commaList (labels.map Ident.render) ++ ")")

/-- A CREATE EXTENSION after its keyword: the name, then after `WITH` an
optional schema, version and `CASCADE`. -/
def createExtension : Parse String := do
  let _ ← keywords ["IF", "NOT", "EXISTS"]
  let _ ← ident
  if (← keyword "WITH") then
    if (← keyword "SCHEMA") then discard ident
    if (← keyword "VERSION") then discard ident
    discard (keyword "CASCADE")
  return "CREATE EXTENSION"

/-- A CREATE VIRTUAL TABLE after `VIRTUAL`: the table, the module it is made
with, and the module's arguments as a list of names. -/
def createVirtualTable : Parse String := do
  expectKw "TABLE"
  let _ ← keywords ["IF", "NOT", "EXISTS"]
  let _ ← objectName
  expectKw "USING"
  let _ ← ident
  discard (columnList true false)
  return "CREATE VIRTUAL TABLE"

/-- A password of a role: `NULL` or a value. -/
def rolePassword : Parse Unit := do
  if !(← keyword "NULL") then discard value

/-- The options of a CREATE ROLE, each at most once: in MS SQL an owner, in
PostgreSQL rights, a password, a connection limit, an expiry and
memberships. A repeated option fails at its keyword. -/
def roleOptions : Parse Unit := do
  let d ← dialect
  let words : List String :=
    if d == .mssql then ["AUTHORIZATION"]
    else if d == .postgresql then
      ["LOGIN", "NOLOGIN", "INHERIT", "NOINHERIT", "BYPASSRLS", "NOBYPASSRLS", "PASSWORD",
        "CREATEDB", "NOCREATEDB", "CREATEROLE", "NOCREATEROLE", "SUPERUSER", "NOSUPERUSER",
        "REPLICATION", "NOREPLICATION", "CONNECTION", "VALID", "IN", "ROLE", "ADMIN", "USER"]
    else []
  let rec go : Nat → List String → Parse Unit
    | 0, _ => return
    | j + 1, seen => do
      let at_ ← peek
      let once (group : String) : Parse Unit :=
        if seen.contains group then fail ("Found multiple " ++ group ++ at_.suffix)
        else pure ()
      let flag (yes no : String) : Parse String := do
        let group := yes ++ " or " ++ no
        once group
        return group
      match (← oneOf words) with
      | none => return
      | some kw =>
        let group ← match kw with
          | "AUTHORIZATION" => do
            once kw
            discard objectName
            pure kw
          | "LOGIN" | "NOLOGIN" => flag "LOGIN" "NOLOGIN"
          | "INHERIT" | "NOINHERIT" => flag "INHERIT" "NOINHERIT"
          | "BYPASSRLS" | "NOBYPASSRLS" => flag "BYPASSRLS" "NOBYPASSRLS"
          | "CREATEDB" | "NOCREATEDB" => flag "CREATEDB" "NOCREATEDB"
          | "CREATEROLE" | "NOCREATEROLE" => flag "CREATEROLE" "NOCREATEROLE"
          | "SUPERUSER" | "NOSUPERUSER" => flag "SUPERUSER" "NOSUPERUSER"
          | "REPLICATION" | "NOREPLICATION" => flag "REPLICATION" "NOREPLICATION"
          | "PASSWORD" => do
            once kw
            rolePassword
            pure kw
          | "CONNECTION" => do
            expectKw "LIMIT"
            once "CONNECTION LIMIT"
            discard numberValue
            pure "CONNECTION LIMIT"
          | "VALID" => do
            expectKw "UNTIL"
            once "VALID UNTIL"
            discard value
            pure "VALID UNTIL"
          | "IN" => do
            let group ← do
              if (← keyword "ROLE") then pure "IN ROLE"
              else if (← keyword "GROUP") then pure "IN GROUP"
              else expected "ROLE or GROUP after IN" (← peek)
            once group
            discard (listOf ident)
            pure group
          | _ => do
            once kw
            discard (listOf ident)
            pure kw
        go j (group :: seen)
  go (← rounds) []

/-- A CREATE ROLE after its keyword: the names, an optional `WITH`, and the
options of the dialect. -/
def createRole : Parse String := do
  let _ ← keywords ["IF", "NOT", "EXISTS"]
  let _ ← listOf objectName
  let _ ← keyword "WITH"
  roleOptions
  return "CREATE ROLE"

/-- One option of a PostgreSQL ALTER ROLE. -/
def roleOption : Parse Unit := do
  let words := ["BYPASSRLS", "NOBYPASSRLS", "CONNECTION", "CREATEDB", "NOCREATEDB",
    "CREATEROLE", "NOCREATEROLE", "INHERIT", "NOINHERIT", "LOGIN", "NOLOGIN", "PASSWORD",
    "REPLICATION", "NOREPLICATION", "SUPERUSER", "NOSUPERUSER", "VALID"]
  match (← oneOf words) with
  | some "CONNECTION" =>
    expectKw "LIMIT"
    discard numberValue
  | some "PASSWORD" => rolePassword
  | some "VALID" =>
    expectKw "UNTIL"
    discard value
  | some _ => pure ()
  | none => expected "option" (← peek)

/-- A PostgreSQL ALTER ROLE after the role's name: a new name, a setting to
set or reset, or options. A setting's value that is no expression fails
after the token it stopped at. -/
def alterRolePostgres (k : Knots) : Parse Unit := do
  let _ ← ident
  if (← keywords ["IN", "DATABASE"]) then looseName
  if (← keyword "RENAME") then
    if (← keyword "TO") then discard ident
    else expected "TO after RENAME" (← peek)
  else if (← keyword "SET") then
    let _ ← objectName
    if (← keywords ["FROM", "CURRENT"]) then pure ()
    else if (← either (symbol .eq) (keyword "TO")) then
      if !(← keyword "DEFAULT") then
        if (← optional (k.expr 0)).isNone then
          let _ ← next
          expected "config value" (← peek)
    else expected "'TO' or '=' or 'FROM CURRENT'" (← peek)
  else if (← keyword "RESET") then
    if !(← keyword "ALL") then discard objectName
  else
    let _ ← keyword "WITH"
    let n ← rounds
    let rec options : Nat → Nat → Parse Nat
      | 0, count => return count
      | j + 1, count => do
        if (← optional roleOption).isSome then options j (count + 1) else return count
    if (← options n 0) == 0 then expected "option" (← peek)

/-- An MS SQL ALTER ROLE after its keyword: a member added or dropped, or a
new name. -/
def alterRoleMsSql : Parse Unit := do
  let _ ← ident
  if (← keywords ["ADD", "MEMBER"]) then discard ident
  else if (← keywords ["DROP", "MEMBER"]) then discard ident
  else if (← keywords ["WITH", "NAME"]) then
    if (← symbol .eq) then discard ident
    else expected "= after WITH NAME " (← peek)
  else expected "'ADD' or 'DROP' or 'WITH NAME'" (← peek)

/-- An ALTER ROLE after its keyword, which only PostgreSQL and MS SQL have. -/
def alterRole (k : Knots) : Parse String := do
  match (← dialect) with
  | .postgresql => alterRolePostgres k
  | .mssql => alterRoleMsSql
  | _ => fail "ALTER ROLE is only support for PostgreSqlDialect, MsSqlDialect"
  return "ALTER ROLE"

/-- An owner a policy applies to: the current or session user or role, or
a name. A missing name fails with the reason wrapped in the message. -/
def policyOwner : Parse Unit := do
  if (← oneOf ["CURRENT_USER", "CURRENT_ROLE", "SESSION_USER"]).isSome then return
  tryCatch (discard ident) fun e =>
    match e with
    | .grammar m =>
      fail ("Expected: CURRENT_USER, CURRENT_ROLE, SESSION_USER or identifier after OWNER " ++
        "TO. sql parser error: " ++ m)
    | _ => throw e

/-- The owners, the row filter after `USING` and the check after `WITH CHECK`
of a policy, each optional. -/
def policyClauses (k : Knots) : Parse Unit := do
  if (← keyword "TO") then discard (listOf policyOwner)
  if (← keyword "USING") then
    expectSym .lParen
    let _ ← k.expr 0
    expectSym .rParen
  if (← keywords ["WITH", "CHECK"]) then
    expectSym .lParen
    let _ ← k.expr 0
    expectSym .rParen

/-- A CREATE POLICY after its keyword: its name and table, whether it is
permissive, the command it is for, and its clauses. -/
def createPolicy (k : Knots) : Parse String := do
  let _ ← ident
  expectKw "ON"
  let _ ← objectName
  if (← keyword "AS") then discard (expectOneOf ["PERMISSIVE", "RESTRICTIVE"])
  if (← keyword "FOR") then
    discard (expectOneOf ["ALL", "SELECT", "INSERT", "UPDATE", "DELETE"])
  policyClauses k
  return "CREATE POLICY"

/-- An ALTER POLICY after its keyword: its name and table, then a new name
or new clauses. -/
def alterPolicy (k : Knots) : Parse String := do
  let _ ← ident
  expectKw "ON"
  let _ ← objectName
  if (← keyword "RENAME") then
    expectKw "TO"
    discard ident
  else policyClauses k
  return "ALTER POLICY"

/-- A DROP POLICY after its keyword: its name, its table and an optional
`CASCADE` or `RESTRICT`. -/
def dropPolicy : Parse String := do
  let _ ← keywords ["IF", "EXISTS"]
  let _ ← ident
  expectKw "ON"
  let _ ← objectName
  discard (oneOf ["CASCADE", "RESTRICT"])
  return "DROP POLICY"

/-- How a secret is kept, in the words its statements are shown with. -/
def secretKeeping (temporary persistent : Bool) : String :=
  if temporary then "TEMPORARY " else if persistent then "PERSISTENT " else ""

/-- A CREATE SECRET after its keyword: an optional name and storage, then in
parentheses its type and key-value options. A secret cannot be both
temporary and persistent, which is found only at its end. -/
def createSecret (orReplace temporary persistent : Bool) : Parse String := do
  let _ ← keywords ["IF", "NOT", "EXISTS"]
  if !(← peekSym .lParen) then
    let stored ←
      if (← keyword "IN") then looseIdent
      else do
        let _ ← looseIdent
        pure false
    if !stored && !(← peekSym .lParen) then
      if (← keyword "IN") then discard looseIdent
  expectSym .lParen
  expectKw "TYPE"
  let _ ← ident
  if (← symbol .comma) then
    discard (listOf do
      let _ ← ident
      discard ident)
  expectSym .rParen
  if temporary && persistent then expected "TEMPORARY or PERSISTENT" (← peek)
  return "CREATE " ++ flagWord orReplace "OR REPLACE" ++ secretKeeping temporary persistent ++
    "SECRET"

/-- A DROP SECRET after its keyword: the name and an optional storage. -/
def dropSecret (temporary persistent : Bool) : Parse String := do
  let _ ← keywords ["IF", "EXISTS"]
  let _ ← ident
  if (← keyword "FROM") then discard looseIdent
  if temporary && persistent then expected "TEMPORARY or PERSISTENT" (← peek)
  return "DROP " ++ secretKeeping temporary persistent ++ "SECRET"

/-- A DROP EXTENSION after its keyword: the names and an optional `CASCADE`
or `RESTRICT`. -/
def dropExtension : Parse String := do
  let _ ← keywords ["IF", "EXISTS"]
  let _ ← listOf ident
  discard (oneOf ["CASCADE", "RESTRICT"])
  return "DROP EXTENSION"

/-- A parameter of a function: an optional mode, an optional name, a type,
and an optional default after `DEFAULT` or `=`. A first type that names no
built-in type is the parameter's name, and the type follows it. -/
def routineParam (k : Knots) : Parse Unit := do
  let _ ← oneOf ["IN", "OUT", "INOUT"]
  match (← dataTypeOf k) with
  | .custom _ => discard (dataTypeOf k)
  | _ => pure ()
  if (← either (keyword "DEFAULT") (symbol .eq)) then discard (k.expr 0)

/-- A function or procedure named by its name and, optionally, its
parameters in parentheses. -/
def routineDesc (k : Knots) : Parse Unit := do
  let _ ← objectName
  if (← symbol .lParen) then
    if !(← symbol .rParen) then
      let _ ← listOf (routineParam k)
      expectSym .rParen

/-- A DROP FUNCTION or DROP PROCEDURE after its keyword: the routines and an
optional `CASCADE` or `RESTRICT`. -/
def dropRoutine (k : Knots) (kind : String) : Parse String := do
  let _ ← keywords ["IF", "EXISTS"]
  let _ ← listOf (routineDesc k)
  discard (oneOf ["CASCADE", "RESTRICT"])
  return "DROP " ++ kind

/-- A DROP TRIGGER after its keyword, which only PostgreSQL has: the
trigger, its table, and an optional `CASCADE` or `RESTRICT`. -/
def dropTrigger : Parse String := do
  let d ← dialect
  if d != .postgresql && d != .generic then
    back
    expected "an object type after DROP" (← peek)
  let _ ← keywords ["IF", "EXISTS"]
  let _ ← objectName
  expectKw "ON"
  let _ ← objectName
  discard (oneOf ["CASCADE", "RESTRICT"])
  return "DROP TRIGGER"

/-- An ALTER INDEX after its keyword: the index, renamed. -/
def alterIndex : Parse String := do
  let _ ← objectName
  if (← keyword "RENAME") then
    if (← keyword "TO") then discard objectName
    else expected "TO after RENAME" (← peek)
  else expected "RENAME after ALTER INDEX" (← peek)
  return "ALTER INDEX"

/-- A RENAME after its keyword: `TABLE`, then `old TO new` pairs. -/
def renameStatement : Parse String := do
  if !(← peekKw "TABLE") then expected "KEYWORD `TABLE` after RENAME" (← peek)
  expectKw "TABLE"
  let _ ← listOf do
    let _ ← objectName
    expectKw "TO"
    discard objectName
  return "RENAME TABLE"

end Parse

end ColumnLineage.Sql
