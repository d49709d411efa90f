import ColumnLineage.Sql.Parse.Cursor
/-
ColumnLineage/Sql/Parse/Column.lean

Reading column definitions, as they appear in CREATE TABLE and in the fields
of a `Nested(...)` type: a name, a data type, a collation and options such as
`NOT NULL`, `DEFAULT e` or `REFERENCES t (c)`. A definition is kept as its
canonical text, the options in the order they were written.

Some options belong to a few dialects only. Their keyword is read before the
dialect is asked, so in another dialect the keyword is consumed and the
search for an option goes on after it.
-/

namespace ColumnLineage.Sql

namespace Parse

/-- Constraint characteristics such as `DEFERRABLE INITIALLY DEFERRED`, each
kind at most once, written in a fixed order: deferrability, initial mode,
enforcement. -/
def constraintCharacteristics : Parse (Option String) := do
  let n ← rounds
  let rec go : Nat → Option String → Option String → Option String → Parse (List String)
    | 0, d, i, e => return [d, i, e].filterMap id
    | j + 1, d, i, e => do
      if (← given d.isNone (keywords ["NOT", "DEFERRABLE"])) then
        go j (some "NOT DEFERRABLE") i e
      else if (← given d.isNone (keyword "DEFERRABLE")) then go j (some "DEFERRABLE") i e
      else if (← given i.isNone (keyword "INITIALLY")) then
        if (← keyword "DEFERRED") then go j d (some "INITIALLY DEFERRED") e
        else if (← keyword "IMMEDIATE") then go j d (some "INITIALLY IMMEDIATE") e
        else expected "one of DEFERRED or IMMEDIATE" (← peek)
      else if (← given e.isNone (keyword "ENFORCED")) then go j d i (some "ENFORCED")
      else if (← given e.isNone (keywords ["NOT", "ENFORCED"])) then
        go j d i (some "NOT ENFORCED")
      else return [d, i, e].filterMap id
  match (← go n none none none) with
  | [] => return none
  | parts => return some (" ".intercalate parts)

/-- `name` followed by the characteristics, if there are any. -/
def withCharacteristics (name : String) (c : Option String) : String :=
  match c with
  | some text => name ++ " " ++ text
  | none => name

/-- A referential action after `ON DELETE` or `ON UPDATE`. -/
def referentialAction : Parse String := do
  if (← keyword "RESTRICT") then return "RESTRICT"
  if (← keyword "CASCADE") then return "CASCADE"
  if (← keywords ["SET", "NULL"]) then return "SET NULL"
  if (← keywords ["NO", "ACTION"]) then return "NO ACTION"
  if (← keywords ["SET", "DEFAULT"]) then return "SET DEFAULT"
  expected "one of RESTRICT, CASCADE, SET NULL, NO ACTION or SET DEFAULT" (← peek)

/-- The `ON DELETE` and `ON UPDATE` actions of a foreign key, each at most
once and in either order, written delete first. -/
def referentialActions : Parse String := do
  let n ← rounds
  let rec go : Nat → Option String → Option String → Parse String
    | 0, del, upd => return text del upd
    | j + 1, del, upd => do
      if (← given del.isNone (keywords ["ON", "DELETE"])) then
        go j (some (← referentialAction)) upd
      else if (← given upd.isNone (keywords ["ON", "UPDATE"])) then
        go j del (some (← referentialAction))
      else return text del upd
  go n none none
where
  text (del upd : Option String) : String :=
    (match del with | some a => " ON DELETE " ++ a | none => "") ++
      (match upd with | some a => " ON UPDATE " ++ a | none => "")

/-- The MS SQL table option `PARTITION (column RANGE [LEFT | RIGHT] FOR
VALUES (values))`, as its text. -/
def partitionOption (k : Knots) : Parse String := do
  expectKw "PARTITION"
  expectSym .lParen
  let column ← ident
  expectKw "RANGE"
  let direction ← oneOf ["LEFT", "RIGHT"]
  expectKws ["FOR", "VALUES"]
  expectSym .lParen
  let values ← listOf (k.expr 0)
  expectSym .rParen
  expectSym .rParen
  return "PARTITION (" ++ column.render ++ " RANGE" ++
    (match direction with | some w => " " ++ w | none => "") ++ " FOR VALUES (" ++
    Expr.renderList values ++ "))"

/-- The MS SQL table option that clusters it, as its text: a columnstore
index, ordered by columns or not, or an index on columns with their
directions. -/
def clusteredOption : Parse String := do
  if (← keywords ["CLUSTERED", "COLUMNSTORE", "INDEX", "ORDER"]) then
    let cols ← columnList false false
    return "CLUSTERED COLUMNSTORE INDEX ORDER (" ++ commaList (cols.map Ident.render) ++ ")"
  else if (← keywords ["CLUSTERED", "COLUMNSTORE", "INDEX"]) then
    return "CLUSTERED COLUMNSTORE INDEX"
  else if (← keywords ["CLUSTERED", "INDEX"]) then
    expectSym .lParen
    let items ← listOf do
      let name ← ident
      match (← oneOf ["ASC", "DESC"]) with
      | some w => pure (name.render ++ " " ++ w)
      | none => pure name.render
    expectSym .rParen
    return "CLUSTERED INDEX (" ++ commaList items ++ ")"
  else fail "invalid CLUSTERED sequence"

/-- One option of a statement, as its text: `name = value`, or in MS SQL
one of its table options `HEAP`, `PARTITION` and `CLUSTERED`. -/
def sqlOption (k : Knots) : Parse String := do
  let d ← dialect
  let msSql := d == .mssql || d == .generic
  let t ← peek
  if msSql && t.token.isKw "HEAP" then return (← ident).render
  else if msSql && t.token.isKw "PARTITION" then partitionOption k
  else if msSql && t.token.isKw "CLUSTERED" then clusteredOption
  else
    let name ← ident
    expectSym .eq
    return name.render ++ " = " ++ (← k.expr 0).render

/-- Options in parentheses after a keyword such as `WITH`: `name = value`. -/
def sqlOptions (k : Knots) (kw : String) : Parse Unit := do
  if (← keyword kw) then
    expectSym .lParen
    let _ ← listOf0 (sqlOption k) .rParen
    expectSym .rParen

/-- A tag of an object, as its text: a name, an equals sign and a literal
string. -/
def tag : Parse String := do
  let name ← ident
  expectSym .eq
  return name.render ++ "='" ++ (← literalString) ++ "'"

/-- The options of a sequence, as their text, each after a blank: at most
one of each and in this order, the increment, the lower and upper bounds,
the start, the cache and whether it cycles. -/
def sequenceOptions : Parse String := do
  let increment ← do
    if (← keyword "INCREMENT") then
      let by_ ← keyword "BY"
      pure (" INCREMENT" ++ (if by_ then " BY " else " ") ++ (← signedNumber))
    else pure ""
  let lower ← do
    if (← keyword "MINVALUE") then pure (" MINVALUE " ++ (← signedNumber))
    else if (← keywords ["NO", "MINVALUE"]) then pure " NO MINVALUE"
    else pure ""
  let upper ← do
    if (← keyword "MAXVALUE") then pure (" MAXVALUE " ++ (← signedNumber))
    else if (← keywords ["NO", "MAXVALUE"]) then pure " NO MAXVALUE"
    else pure ""
  let start ← do
    if (← keyword "START") then
      let with_ ← keyword "WITH"
      pure (" START" ++ (if with_ then " WITH " else " ") ++ (← signedNumber))
    else pure ""
  let cache ← do
    if (← keyword "CACHE") then pure (" CACHE " ++ (← signedNumber)) else pure ""
  let cycle ← do
    if (← keywords ["NO", "CYCLE"]) then pure " NO CYCLE"
    else if (← keyword "CYCLE") then pure " CYCLE"
    else pure ""
  return increment ++ lower ++ upper ++ start ++ cache ++ cycle

/-- The seed, increment and order of an identity column after `IDENTITY` or
`AUTOINCREMENT`, as their text: the numbers in parentheses or after `START`
and `INCREMENT`, then `ORDER` or `NOORDER`, each part optional. -/
def identityProperty : Parse String := do
  let numbers ← do
    if (← symbol .lParen) then
      let seed ← signedNumber
      expectSym .comma
      let step ← signedNumber
      expectSym .rParen
      pure ("(" ++ seed ++ ", " ++ step ++ ")")
    else if (← keyword "START") then
      let seed ← signedNumber
      expectKw "INCREMENT"
      let step ← signedNumber
      pure (" START " ++ seed ++ " INCREMENT " ++ step)
    else pure ""
  match (← oneOf ["ORDER", "NOORDER"]) with
  | some w => return numbers ++ " " ++ w
  | none => return numbers

/-- The policy of a column after `MASKING POLICY` or `PROJECTION POLICY`, as
its text after a blank: its name and the columns it is given after `USING`. -/
def policyProperty : Parse String := do
  let name ← ident
  if (← keyword "USING") then
    expectSym .lParen
    let cols ← listOf ident
    expectSym .rParen
    return " " ++ name.render ++ " USING (" ++ commaList (cols.map Ident.render) ++ ")"
  return " " ++ name.render

/-- A column option of Snowflake's, if one comes next, as its text: an
identity, a masking or projection policy, or tags, the last three after an
optional `WITH` that their text keeps. When none of them comes, nothing is
taken, not even a `WITH`. -/
def snowflakeColumnOption : Parse (Option String) := do
  let start ← get
  let withWord := if (← keyword "WITH") then "WITH " else ""
  if (← keyword "IDENTITY") then return some ("IDENTITY" ++ (← identityProperty))
  if (← keyword "AUTOINCREMENT") then return some ("AUTOINCREMENT" ++ (← identityProperty))
  if (← keywords ["MASKING", "POLICY"]) then
    return some (withWord ++ "MASKING POLICY" ++ (← policyProperty))
  if (← keywords ["PROJECTION", "POLICY"]) then
    return some (withWord ++ "PROJECTION POLICY" ++ (← policyProperty))
  if (← keyword "TAG") then
    expectSym .lParen
    let tags ← listOf tag
    expectSym .rParen
    return some (withWord ++ "TAG (" ++ commaList tags ++ ")")
  set start
  return none

/-- A generated column after `GENERATED`, as its text: an identity
`ALWAYS` or `BY DEFAULT`, with sequence options in parentheses, or a value
`ALWAYS AS (e)`, stored or virtual, where PostgreSQL requires `STORED`.
`none` when neither comes, after the words it took. -/
def generatedOption (k : Knots) : Parse (Option String) := do
  let identity (kind : String) : Parse String := do
    let head := "GENERATED " ++ kind ++ " AS IDENTITY"
    if (← symbol .lParen) then
      let opts ← sequenceOptions
      expectSym .rParen
      return head ++ (if opts.isEmpty then "" else " (" ++ opts ++ " )")
    return head
  if (← keywords ["ALWAYS", "AS", "IDENTITY"]) then return some (← identity "ALWAYS")
  if (← keywords ["BY", "DEFAULT", "AS", "IDENTITY"]) then return some (← identity "BY DEFAULT")
  if !(← keywords ["ALWAYS", "AS"]) then return none
  if !(← symbol .lParen) then return none
  let e ← k.expr 0
  expectSym .rParen
  let storage ← do
    if (← keyword "STORED") then pure " STORED"
    else if (← dialect) == .postgresql then expected "STORED" (← peek)
    else if (← keyword "VIRTUAL") then pure " VIRTUAL"
    else pure ""
  return some ("GENERATED ALWAYS AS (" ++ e.render ++ ")" ++ storage)

/-- One option of a column definition, as its text, if one comes next. -/
def columnOption (k : Knots) : Parse (Option String) := do
  let d ← dialect
  if d == .snowflake then
    if let some o ← snowflakeColumnOption then return some o
  if (← keywords ["CHARACTER", "SET"]) then
    return some ("CHARACTER SET " ++ renderName (← objectName))
  if (← keywords ["NOT", "NULL"]) then return some "NOT NULL"
  if (← keyword "COMMENT") then
    let t ← next
    match t.token with
    | .singleQuoted s => return some ("COMMENT '" ++ Text.doubleQuotes '\'' s ++ "'")
    | _ => expected "string" t
  if (← keyword "NULL") then return some "NULL"
  if (← keyword "DEFAULT") then return some ("DEFAULT " ++ (← k.expr 0).render)
  if d == .clickhouse || d == .generic then
    if (← keyword "MATERIALIZED") then return some ("MATERIALIZED " ++ (← k.expr 0).render)
    if (← keyword "ALIAS") then return some ("ALIAS " ++ (← k.expr 0).render)
    if (← keyword "EPHEMERAL") then
      if (← peekSym .comma) || (← peekSym .rParen) then return some "EPHEMERAL"
      return some ("EPHEMERAL " ++ (← k.expr 0).render)
  if (← keywords ["PRIMARY", "KEY"]) then
    return some (withCharacteristics "PRIMARY KEY" (← constraintCharacteristics))
  if (← keyword "UNIQUE") then
    return some (withCharacteristics "UNIQUE" (← constraintCharacteristics))
  if (← keyword "REFERENCES") then
    let table ← objectName
    let cols ← columnList true false
    let actions ← referentialActions
    let text := "REFERENCES " ++ renderName table ++
      (if cols.isEmpty then "" else " (" ++ commaList (cols.map Ident.render) ++ ")") ++ actions
    return some (withCharacteristics text (← constraintCharacteristics))
  if (← keyword "CHECK") then
    expectSym .lParen
    let e ← k.expr 0
    expectSym .rParen
    return some ("CHECK (" ++ e.render ++ ")")
  if (← keyword "AUTO_INCREMENT") && (d == .mysql || d == .generic) then
    return some "AUTO_INCREMENT"
  if (← keyword "AUTOINCREMENT") && (d == .sqlite || d == .generic) then
    return some "AUTOINCREMENT"
  if (← keyword "ASC") && (d == .sqlite || d == .generic) then return some "ASC"
  if (← keyword "DESC") && (d == .sqlite || d == .generic) then return some "DESC"
  if (← keywords ["ON", "UPDATE"]) && (d == .mysql || d == .generic) then
    return some ("ON UPDATE " ++ (← k.expr 0).render)
  if (← keyword "GENERATED") then return (← generatedOption k)
  if d == .bigquery || d == .generic then
    if (← keyword "OPTIONS") then
      expectSym .lParen
      let opts ← listOf0 (sqlOption k) .rParen
      expectSym .rParen
      return some ("OPTIONS(" ++ commaList opts ++ ")")
  if (← keyword "AS") && (d == .mysql || d == .sqlite || d == .duckdb || d == .generic) then
    expectSym .lParen
    let e ← k.expr 0
    expectSym .rParen
    let storage ← do
      if (← keyword "STORED") then pure " STORED"
      else if (← keyword "VIRTUAL") then pure " VIRTUAL"
      else pure ""
    return some ("AS (" ++ e.render ++ ")" ++ storage)
  if (← keyword "IDENTITY") && (d == .mssql || d == .generic) then
    if (← symbol .lParen) then
      let seed ← signedNumber
      expectSym .comma
      let step ← signedNumber
      expectSym .rParen
      return some ("IDENTITY(" ++ seed ++ ", " ++ step ++ ")")
    return some "IDENTITY"
  if d == .sqlite || d == .generic then
    if (← keywords ["ON", "CONFLICT"]) then
      return some ("ON CONFLICT " ++ (← expectOneOf ["ROLLBACK", "ABORT", "FAIL", "IGNORE", "REPLACE"]))
  return none

/-- Whether a SQLite column definition leaves out its type: the name is
followed by no word, or by a word that starts an option. -/
def typeLeftOut : Parse Bool := do
  if (← dialect) != .sqlite then return false
  match (← peek).token with
  | .word w =>
    let starts := ["CONSTRAINT", "PRIMARY", "NOT", "UNIQUE", "CHECK", "DEFAULT", "COLLATE",
      "REFERENCES", "GENERATED", "AS"]
    return starts.any (w.keyword == some ·)
  | _ => return true

/-- A column definition: its name, and its text with the type, collation and
options. In SQLite the type may be left out. -/
def columnDef (k : Knots) : Parse (Ident × String) := do
  let d ← dialect
  let name ← ident
  let typeText ←
    if (← typeLeftOut) then pure ""
    else do
      let (ty, shift) ← k.dataType
      if shift then fail ("unmatched > after parsing data type " ++ ty.text ++ (← peek).token.text)
      pure (" " ++ ty.text)
  let first ← if (← keyword "COLLATE") then some <$> objectName else pure none
  let n ← rounds
  let rec options : Nat → Option ObjectName → List String →
      Parse (Option ObjectName × List String)
    | 0, c, acc => return (c, acc.reverse)
    | j + 1, c, acc => do
      if (← keyword "CONSTRAINT") then
        let cname ← ident
        match (← columnOption k) with
        | some o => options j c (("CONSTRAINT " ++ cname.render ++ " " ++ o) :: acc)
        | none => expected "constraint details after CONSTRAINT <name>" (← peek)
      else
        match (← columnOption k) with
        | some o => options j c (o :: acc)
        | none =>
          if (← given (d == .mysql || d == .snowflake || d == .generic) (keyword "COLLATE")) then
            options j (some (← objectName)) acc
          else return (c, acc.reverse)
  let (collation, opts) ← options n first []
  let text := name.render ++ typeText ++
    (match collation with | some c => " COLLATE " ++ renderName c | none => "") ++
    String.join (opts.map (" " ++ ·))
  return (name, text)

end Parse

end ColumnLineage.Sql
