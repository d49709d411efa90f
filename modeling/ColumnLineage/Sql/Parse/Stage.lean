import ColumnLineage.Sql.Parse.Routine
/-
ColumnLineage/Sql/Parse/Stage.lean

Reading Snowflake's statements about stages, the places files are loaded
from and unloaded to: CREATE STAGE, COPY INTO a table from a stage, and the
LIST and REMOVE commands on the files of a stage.

A stage is named like `@db.schema.stage/path/file`: the characters `@`, `~`,
`%` and `/` and words run together, and the name ends at the first blank,
so its tokens are read with attention to what stands between them.
-/

namespace ColumnLineage.Sql

namespace Parse

/-- One dotted part of a stage name, after the text `acc` read so far: the
characters `@ ~ % /` and words, while no blank or comment comes between
them (`first` excuses the first token). A semicolon ends the part and is
taken; a period or a closing parenthesis ends it and is left. -/
def stagePart : Nat → Bool → String → Parse String
  | 0, _, acc => return acc
  | j + 1, first, acc => do
    let t ← peek
    if t.spaced && !first then return acc
    let piece : Option String := match t.token with
      | .sym .atSign => some "@"
      | .sym .tilde => some "~"
      | .sym .mod => some "%"
      | .sym .div => some "/"
      | .word w => some w.text
      | _ => none
    match piece with
    | some p =>
      let _ ← next
      stagePart j false (acc ++ p)
    | none =>
      match t.token with
      | .eof | .sym .period | .sym .rParen => return acc
      | .sym .semicolon =>
        let _ ← next
        return acc
      | _ =>
        let _ ← next
        expected "stage name identifier" (← peek)

/-- The name of a stage as it is shown: parts after `@` joined by periods,
or a plain dotted name. -/
def stageName : Parse String := do
  if !(← peekSym .atSign) then return renderName (← objectName)
  let rec parts : Nat → Bool → List String → Parse (List String)
    | 0, _, acc => return acc.reverse
    | j + 1, first, acc => do
      let p ← stagePart (← rounds) first ""
      if (← symbol .period) then parts j false (p :: acc) else return (p :: acc).reverse
  return ".".intercalate (← parts (← rounds) true [])

/-- Options in parentheses without commas: `name = value`, each value `TRUE`,
`FALSE`, a string or a word. -/
def bareOptions : Parse Unit := do
  expectSym .lParen
  loopN (← rounds) do
    let t ← next
    match t.token with
    | .sym .rParen => return false
    | .word _ =>
      expectSym .eq
      if (← either (keyword "TRUE") (keyword "FALSE")) then return true
      match (← next).token with
      | .singleQuoted _ | .word _ => return true
      | _ => expected "expected option value" (← peek)
    | _ => expected "another option or ')'" (← peek)

/-- `keyword = (options)`, when the keyword comes next. -/
def optionsAfter (kw : String) : Parse Unit := do
  if (← keyword kw) then
    expectSym .eq
    bareOptions

/-- `keyword = 'string'`, when the keyword comes next; anything but a string
fails naming `what`, at the token after it. -/
def stringAfter (kw what : String) : Parse Unit := do
  if (← keyword kw) then
    expectSym .eq
    match (← next).token with
    | .singleQuoted _ => pure ()
    | _ => expected what (← peek)

/-- Where a stage keeps its files and how it reaches them: its URL, storage
integration, endpoint, credentials and encryption, each optional, in this
order. -/
def stageParams : Parse Unit := do
  stringAfter "URL" "a URL statement"
  if (← keyword "STORAGE_INTEGRATION") then
    expectSym .eq
    discard next
  stringAfter "ENDPOINT" "an endpoint statement"
  optionsAfter "CREDENTIALS"
  optionsAfter "ENCRYPTION"

/-- A CREATE STAGE after `STAGE`: the name, its parameters, directory table,
file format, copy options and comment. -/
def createStage (orReplace temporary : Bool) : Parse String := do
  let _ ← keywords ["IF", "NOT", "EXISTS"]
  let _ ← objectName
  stageParams
  optionsAfter "DIRECTORY"
  optionsAfter "FILE_FORMAT"
  optionsAfter "COPY_OPTIONS"
  stringAfter "COMMENT" "a comment statement"
  return "CREATE " ++ flagWord orReplace "OR REPLACE" ++ flagWord temporary "TEMPORARY" ++ "STAGE"

/-- The number of a file column, written `$n`: a number below 2^31. -/
def fileColumn (w : String) : Parse Unit :=
  let digits := w.drop 1
  let why :=
    if digits.isEmpty then some "cannot parse integer from empty string"
    else match digits.toNat? with
      | some n => if n < 2147483648 then none else some "number too large to fit in target type"
      | none => some "invalid digit found in string"
  match why with
  | some e => fail ("Could not parse '" ++ w ++ "' as i32: " ++ e)
  | none => pure ()

/-- The columns loaded from a stage's files: `$n` or `alias.$n`, an optional
element after a colon, and an optional alias, separated by commas. -/
def loadItems : Parse Unit := do
  loopN (← rounds) do
    let t ← next
    match t.token with
    | .placeholder w => fileColumn w
    | .word _ =>
      expectSym .period
      let c ← next
      match c.token with
      | .placeholder w => fileColumn w
      | _ => expected "file_col_num" c
    | _ => expected "alias or file_col_num" t
    if (← symbol .colon) then
      match (← next).token with
      | .word _ => pure ()
      | _ => expected "file_col_num" (← peek)
    if (← keyword "AS") then
      match (← next).token with
      | .word _ => pure ()
      | _ => expected "column item alias" (← peek)
    symbol .comma

/-- An alias of a stage after `AS`, when that word comes next. -/
def stageAlias : Parse Unit := do
  if (← keyword "AS") then
    match (← next).token with
    | .word _ => pure ()
    | _ => expected "stage alias" (← peek)

/-- A COPY INTO after its keywords: the table, the stage it loads from,
directly or through a selection of file columns in parentheses, then the
files, pattern, file format, copy options and validation mode. -/
def copyInto : Parse String := do
  let _ ← stageName
  expectKw "FROM"
  if (← symbol .lParen) then
    expectKw "SELECT"
    loadItems
    expectKw "FROM"
    let _ ← stageName
    stageParams
    stageAlias
    expectSym .rParen
  else
    let _ ← stageName
    stageParams
    stageAlias
  if (← keyword "FILES") then
    expectSym .eq
    expectSym .lParen
    loopN (← rounds) do
      let t ← next
      match t.token with
      | .singleQuoted _ => symbol .comma
      | _ => expected "file token" t
    expectSym .rParen
  if (← keyword "PATTERN") then
    expectSym .eq
    let t ← next
    match t.token with
    | .singleQuoted _ => pure ()
    | _ => expected "pattern" t
  optionsAfter "FILE_FORMAT"
  optionsAfter "COPY_OPTIONS"
  if (← keyword "VALIDATION_MODE") then
    expectSym .eq
    discard next
  return "COPY INTO"

/-- LIST or REMOVE after its keyword, as its text: the stage and an optional
pattern of file names. -/
def stagingCommand (command : String) : Parse String := do
  let stage ← stageName
  let pattern ←
    if (← keyword "PATTERN") then do
      expectSym .eq
      pure (" PATTERN='" ++ (← literalString) ++ "'")
    else pure ""
  return command ++ " " ++ stage ++ pattern

end Parse

end ColumnLineage.Sql
