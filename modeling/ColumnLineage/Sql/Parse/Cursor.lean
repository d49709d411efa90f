import ColumnLineage.Sql.Lexer
import ColumnLineage.Sql.Render
import ColumnLineage.Sql.Dialect
/-
ColumnLineage/Sql/Parse/Cursor.lean

The machinery of the statement reader: a cursor over the tokens of the text,
the primitive moves on it (look at the next token, take it, step back), the
failures it can meet with their messages, and the bounded repetition every
loop of the reader goes through.

A failure names what was expected and the token found, with its line and
column; the end of the text has no location. Attempts that may fail are made
with `attempt` or `optional`, which put the cursor back where it was. Nesting
is bounded twice over: by a budget of fifty statements, queries and
subexpressions open at once, which a reader of real SQL reports as too deep;
and by `Knots`, the recursive entry points, built in layers so that every
function of the reader is total.
-/

namespace ColumnLineage.Sql

/-- Why SQL text could not be read. -/
inductive ParseError where
  /-- the text has a malformed token -/
  | lexical (message : String)
  /-- the tokens do not form a statement -/
  | grammar (message : String)
  /-- statements, queries or expressions are nested too deeply -/
  | tooDeep
  deriving DecidableEq, Repr, Inhabited

/-- The message of a reading failure. -/
def ParseError.message : ParseError → String
  | .lexical m => "sql parser error: " ++ m
  | .grammar m => "sql parser error: " ++ m
  | .tooDeep => "sql parser error: recursion limit exceeded"

/-- A token with the place it was read from, and whether a blank or a
comment stands right before it; the end of the text has no place. -/
structure Found where
  token : Token
  loc : Option Location := none
  spaced : Bool := false
  deriving Repr, Inhabited

/-- The end of the text. -/
def Found.eof : Found := { token := .eof }

/-- How a found token's place is appended to a message. -/
def Found.suffix (f : Found) : String :=
  match f.loc with
  | some l => l.suffix
  | none => ""

/-- What the reader sees: the dialect, the tokens, and how many more
statements, queries and expressions may be opened inside the current one. -/
structure Env where
  dialect : Dialect
  tokens : Array Found
  budget : Nat
  /-- whether the reader is inside the relationships of a `CONNECT BY` -/
  connectBy : Bool := false

/-- A reader of statements: it reads the environment, moves the index of the
next token, and may fail. -/
abbrev Parse := ReaderT Env (StateT Nat (Except ParseError))

/-- A data type as the reader needs it: `INTERVAL`, which a typed literal
turns into an interval; a type named by the user, which never starts a typed
literal; or any other type, with its canonical text. -/
inductive SqlType where
  | interval
  | custom (text : String)
  | builtin (text : String)
  deriving Repr, Inhabited

/-- The canonical text of a data type. -/
def SqlType.text : SqlType → String
  | .interval => "INTERVAL"
  | .custom t => t
  | .builtin t => t

/-- The recursive entry points of the reader. A reader at one layer reaches
nested constructs only through the entry points of the layer below, which
makes the layers a well-founded tower. `expr p` reads an expression whose
operators bind tighter than `p`; `body p` a query body whose set operators
bind tighter than `p`; `dataType` yields the type and whether it consumed the
first half of a closing `>>`. -/
structure Knots where
  expr : Nat → Parse Expr
  leading : Parse Expr
  query : Parse Query
  body : Nat → Parse SetExpr
  factor : Parse TableFactor
  tableJoins : Parse TableWithJoins
  dataType : Parse (SqlType × Bool)
  statement : Parse Statement

namespace Parse

/-- Fails with a message. -/
def fail (message : String) : Parse α := throw (.grammar message)

/-- The dialect being read. -/
def dialect : Parse Dialect := return (← read).dialect

/-- The token at index `i`, or the end of the text. -/
def tokenAt (i : Nat) : Parse Found := do
  return (← read).tokens.getD i Found.eof

/-- The next token, not taken. -/
def peek : Parse Found := do tokenAt (← get)

/-- The token `n` places after the next one, not taken. -/
def peekNth (n : Nat) : Parse Found := do tokenAt ((← get) + n)

/-- Takes the next token; past the end the index keeps growing and the token
is the end of the text. -/
def next : Parse Found := do
  let i ← get
  set (i + 1)
  tokenAt i

/-- Steps back over the last token taken. -/
def back : Parse Unit := modify (· - 1)

/-- How many tokens are left, plus one: a bound on the rounds of any loop
that takes a token each round. -/
def rounds : Parse Nat := do
  return (← read).tokens.size - (← get) + 1

/-- Fails with "Expected: what, found: token". -/
def expected (what : String) (found : Found) : Parse α :=
  fail ("Expected: " ++ what ++ ", found: " ++ found.token.text ++ found.suffix)

/-- Whether the next token is the keyword `k`. -/
def peekKw (k : String) : Parse Bool := return (← peek).token.isKw k

/-- Takes the keyword `k` when it is next. -/
def keyword (k : String) : Parse Bool := do
  if (← peekKw k) then
    let _ ← next
    return true
  else return false

/-- Takes the keywords `ks` when they come next, all of them, or nothing. -/
def keywords (ks : List String) : Parse Bool := do
  let start ← get
  for k in ks do
    unless (← keyword k) do
      set start
      return false
  return true

/-- Takes the next token when it is one of the keywords `ks`, and tells which. -/
def oneOf (ks : List String) : Parse (Option String) := do
  match (← peek).token with
  | .word w =>
    match w.keyword with
    | some k =>
      if ks.contains k then
        let _ ← next
        return some k
      else return none
    | none => return none
  | _ => return none

/-- Takes the keyword `k` or fails. -/
def expectKw (k : String) : Parse Unit := do
  unless (← keyword k) do expected k (← peek)

/-- Takes the keywords `ks` one after another or fails at the first missing. -/
def expectKws (ks : List String) : Parse Unit := do
  for k in ks do expectKw k

/-- Takes one of the keywords `ks` or fails naming them all. -/
def expectOneOf (ks : List String) : Parse String := do
  match (← oneOf ks) with
  | some k => return k
  | none => expected ("one of " ++ " or ".intercalate ks) (← peek)

/-- Whether the next token is the symbol `s`. -/
def peekSym (s : Symbol) : Parse Bool := return (← peek).token == .sym s

/-- Takes the symbol `s` when it is next. -/
def symbol (s : Symbol) : Parse Bool := do
  if (← peekSym s) then
    let _ ← next
    return true
  else return false

/-- Takes the symbol `s` or fails. -/
def expectSym (s : Symbol) : Parse Unit := do
  unless (← symbol s) do expected s.text (← peek)

/-- Runs `p`; when it fails, the cursor goes back to where it was and the
failure stands. -/
def attempt (p : Parse α) : Parse α := do
  let start ← get
  tryCatch p fun e => do
    set start
    throw e

/-- Runs `p` only when `c` holds, answering `false` without taking a token
otherwise: the short-circuiting `c && p` of a reader. -/
def given (c : Bool) (p : Parse Bool) : Parse Bool := if c then p else pure false

/-- Runs `q` only when `p` answers `true`: the short-circuiting `p && q`. -/
def both (p q : Parse Bool) : Parse Bool := do
  if (← p) then q else return false

/-- Runs `q` only when `p` answers `false`: the short-circuiting `p || q`. -/
def either (p q : Parse Bool) : Parse Bool := do
  if (← p) then return true
  q

/-- Runs `p`; when it fails, the cursor goes back and the answer is `none`.
Nesting too deep is not a failure of `p` alone, so it stands. -/
def optional (p : Parse α) : Parse (Option α) := do
  let start ← get
  tryCatch (some <$> p) fun e =>
    match e with
    | .tooDeep => throw e
    | _ => do
      set start
      return none

/-- Runs `p` one level deeper, failing when the nesting budget is spent. -/
def nested (p : Parse α) : Parse α := do
  let env ← read
  match env.budget with
  | 0 => throw .tooDeep
  | b + 1 => withReader (fun e => { e with budget := b }) p

/-- Runs `body` until it answers `false`, at most `n` times. -/
def loopN : Nat → Parse Bool → Parse Unit
  | 0, _ => pure ()
  | n + 1, body => do
    if (← body) then loopN n body

/-- Items read by `item` and separated by commas. With `trailing`, a comma
followed by a closing token, the end of the text or one of the keywords
`stops` ends the list. -/
def listOfWith (trailing : Bool) (stops : List String) (item : Parse α) :
    Parse (List α) := do
  let n ← rounds
  let rec go : Nat → List α → Parse (List α)
    | 0, acc => return acc.reverse
    | k + 1, acc => do
      let v ← item
      if !(← symbol .comma) then return (v :: acc).reverse
      if trailing then
        let t ← peek
        let ends := match t.token with
          | .word w => match w.keyword with
            | some kw => stops.contains kw
            | none => false
          | .sym .rParen | .sym .semicolon | .sym .rBracket | .sym .rBrace | .eof => true
          | _ => false
        if ends then return (v :: acc).reverse
      go k (v :: acc)
  go n []

/-- Whether commas may trail every list in this dialect. -/
def trailingCommas : Parse Bool := do
  return (← dialect) == .duckdb

/-- Items separated by commas. -/
def listOf (item : Parse α) : Parse (List α) := do
  listOfWith (← trailingCommas) Keyword.reservedForColumnAlias item

/-- Items separated by commas, or none when `close` comes first. -/
def listOf0 (item : Parse α) (close : Symbol) : Parse (List α) := do
  if (← peekSym close) then return []
  if (← trailingCommas) then
    if (← peek).token == .sym .comma && (← peekNth 1).token == .sym close then
      let _ ← next
      return []
  listOf item

/-- An identifier: a word, or a string in single or double quotes. -/
def ident : Parse Ident := do
  let t ← next
  match t.token with
  | .word w => return { value := w.value, quote := w.quote }
  | .singleQuoted s => return { value := s, quote := some '\'' }
  | .doubleQuoted s => return { value := s, quote := some '"' }
  | _ => expected "identifier" t

/-- A dotted name whose parts `part` reads. BigQuery splits quoted parts at
their dots; Snowflake allows an empty schema, `db..table`. -/
def nameOf (part : Parse Ident) : Parse ObjectName := do
  let n ← rounds
  let rec go : Nat → List Ident → Parse (List Ident)
    | 0, acc => return acc.reverse
    | k + 1, acc => do
      let acc ←
        if (← dialect) == .snowflake && acc.length == 1 then
          if (← symbol .period) then pure ({ value := "" } :: acc) else pure acc
        else pure acc
      let i ← part
      if (← symbol .period) then go k (i :: acc) else return (i :: acc).reverse
  let parts ← go n []
  if (← dialect) == .bigquery && parts.any (fun i => i.value.contains '.') then
    return parts.flatMap fun i =>
      (i.value.splitOn ".").map fun v => { i with value := v }
  return parts

/-- A dotted name. -/
def objectName : Parse ObjectName := nameOf ident

/-- A part of a table name in BigQuery, where unquoted words joined by
hyphens with nothing between them make one part, as in `my-project`. A
part may end in a number, as in `logs-2024`, only at the end of the text. -/
def hyphenatedIdent : Parse Ident := do
  let t ← peek
  match t.token with
  | .word w =>
    if w.quote.isSome then return (← ident)
    let _ ← next
    let continuation := "continuation of hyphenated identifier"
    let rec go : Nat → String → Bool → Parse (String × Bool)
      | 0, acc, numeric => return (acc, numeric)
      | j + 1, acc, numeric => do
        let m ← peek
        if m.token != .sym .minus || m.spaced then return (acc, numeric)
        let _ ← next
        let u ← peek
        if u.spaced && u.token != .eof then
          expected continuation
            { token := .char ' ', loc := m.loc.map fun l => { l with column := l.column + 1 } }
        let _ ← next
        match u.token with
        | .word v =>
          if v.quote.isNone then go j (acc ++ "-" ++ v.value) false else expected continuation u
        | .number digits false =>
          if digits.all Char.isDigit then go j (acc ++ "-" ++ digits) true
          else expected continuation u
        | _ => expected continuation u
    let (value, numeric) ← go (← rounds) w.value false
    if numeric then
      let z ← next
      if z.token != .eof then expected "whitespace following hyphenated identifier" z
    return { value }
  | _ => ident

/-- The name of a table where one is read in a FROM clause or created: in
BigQuery its parts may hold hyphens. -/
def tableName : Parse ObjectName := do
  if (← dialect) == .bigquery then nameOf hyphenatedIdent else objectName

/-- Identifiers in parentheses, separated by commas. -/
def parenIdents : Parse (List Ident) := do
  expectSym .lParen
  let ids ← listOf ident
  expectSym .rParen
  return ids

/-- A parenthesized list of column names; when `optional` it may be missing,
and when `allowEmpty` it may be `()`. -/
def columnList (optional allowEmpty : Bool) : Parse (List Ident) := do
  if (← symbol .lParen) then
    if allowEmpty && (← peekSym .rParen) then
      let _ ← next
      return []
    let cols ← listOf ident
    expectSym .rParen
    return cols
  else if optional then return []
  else expected "a list of columns in parentheses" (← peek)

/-- An unsigned integer literal below 2^64, as written without leading zeros. -/
def literalNat : Parse Nat := do
  let t ← next
  match t.token with
  | .number digits _ =>
    match digits.toNat? with
    | some n =>
      if n < 18446744073709551616 then return n
      fail ("Could not parse '" ++ digits ++
        "' as u64: number too large to fit in target type" ++ t.suffix)
    | none =>
      fail ("Could not parse '" ++ digits ++ "' as u64: invalid digit found in string" ++
        t.suffix)
  | _ => expected "literal int" t

/-- The digits of a number as a count below 2^32; an error names the place
of `at_`. -/
def count32 (digits : String) (at_ : Found) : Parse Nat :=
  match digits.toNat? with
  | some n =>
    if n < 4294967296 then return n
    else fail ("Could not parse '" ++ digits ++
      "' as u32: number too large to fit in target type" ++ at_.suffix)
  | none => fail ("Could not parse '" ++ digits ++ "' as u32: invalid digit found in string" ++
      at_.suffix)

/-- A literal value. -/
def value : Parse Value := do
  let t ← next
  let d ← dialect
  match t.token with
  | .word w =>
    match w.keyword with
    | some "TRUE" => if d.booleanLiterals then return .boolean true else expected "a concrete value" t
    | some "FALSE" => if d.booleanLiterals then return .boolean false else expected "a concrete value" t
    | some "NULL" => return .null
    | some _ => expected "a concrete value" t
    | none =>
      match w.quote with
      | some '"' => return .doubleQuoted w.value
      | some '\'' => return .singleQuoted w.value
      | some _ => expected "A value?" t
      | none => expected "a concrete value" t
  | .number n l => return .number n l
  | .singleQuoted s => return .singleQuoted s
  | .doubleQuoted s => return .doubleQuoted s
  | .dollarQuoted v tag => return .dollarQuoted v tag
  | .bytes s dbl => return .bytes s dbl
  | .raw s dbl => return .raw s dbl
  | .tripleQuoted k s dbl => return .tripleQuoted k s dbl
  | .national s => return .national s
  | .escaped s => return .escaped s
  | .unicode s => return .unicode s
  | .hex s => return .hex s
  | .placeholder s => return .placeholder s
  | .sym .colon | .sym .atSign =>
    let u ← next
    match u.token with
    | .word w => return .placeholder (t.token.text ++ w.value)
    | .number n false => return .placeholder (t.token.text ++ n)
    | _ => expected "placeholder" u
  | _ => expected "a value" t

/-- A literal number, or a placeholder standing for one, as its text. -/
def numberValue : Parse String := do
  let v ← value
  match v with
  | .number _ _ | .placeholder _ => return v.render
  | _ =>
    back
    expected "literal number" (← peek)

/-- A literal number with an optional sign, as its text. -/
def signedNumber : Parse String := do
  if (← symbol .plus) then return "+" ++ (← numberValue)
  if (← symbol .minus) then return "-" ++ (← numberValue)
  numberValue

/-- A string literal, or a bare word that is no keyword. -/
def literalString : Parse String := do
  let t ← next
  match t.token with
  | .word w => if w.keyword.isNone then return w.value else expected "literal string" t
  | .singleQuoted s => return s
  | .doubleQuoted s => return s
  | .escaped s =>
    match (← dialect) with
    | .postgresql | .generic => return s
    | _ => expected "literal string" t
  | .unicode s => return s
  | _ => expected "literal string" t

/-- An identifier when one comes next; otherwise nothing is taken. -/
def optionalIdent : Parse (Option Ident) := optional ident

end Parse

end ColumnLineage.Sql
