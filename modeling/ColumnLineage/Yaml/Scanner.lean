/-
ColumnLineage/Yaml/Scanner.lean

Splitting YAML text into tokens, the way libyaml does it, so that malformed
text fails with the same message at the same place.

The scanner is pulled by the parser: `Scanner.peek` produces tokens until the
first one waiting in the queue can no longer change. A plain or quoted scalar
may turn out to be a key when a `:` follows it on the same line; the scanner
keeps such a "simple key" open, and once the `:` is seen it inserts a KEY
token (and, if the key starts a deeper indentation, a BLOCK-MAPPING-START)
before the scalar. Block collections open when a line starts deeper than the
current indentation and close, with BLOCK-END tokens, when a line starts
shallower.

Every step takes at least one character or ends the stream, so a bound of
the text's length on the number of steps is enough; the functions take that
bound as fuel.
-/

namespace ColumnLineage.Yaml

/-- A place in the text: the index of a character, its line and column, all
counted from zero. -/
structure Mark where
  index : Nat := 0
  line : Nat := 0
  column : Nat := 0
  deriving DecidableEq, Repr, Inhabited

/-- `line L column C`, counted from one. -/
def Mark.render (m : Mark) : String :=
  "line " ++ toString (m.line + 1) ++ " column " ++ toString (m.column + 1)

/-- Whether a mark is the very start of the text, which messages leave out. -/
def Mark.isStart (m : Mark) : Bool := m.line == 0 && m.column == 0

/-- Why YAML text could not be read: the problem and where it was met, and
what was being read and where that started. A failure found before the text
is split into tokens has no place but the byte `offset` it was found at. -/
structure Error where
  problem : String
  mark : Mark
  context : Option (String × Mark) := none
  offset : Nat := 0
  deriving Repr, Inhabited

/-- The message of a reading failure: the problem with its place, then the
context with its place unless that is the same one. A failure without a
place shows its byte offset, unless that is the start of the text. -/
def Error.message (e : Error) : String :=
  let place :=
    if !e.mark.isStart then " at " ++ e.mark.render
    else if e.offset != 0 then " at position " ++ toString e.offset
    else ""
  let base := e.problem ++ place
  match e.context with
  | none => base
  | some (c, m) =>
    base ++ ", " ++ c ++
      (if !m.isStart && (m.line != e.mark.line || m.column != e.mark.column) then
        " at " ++ m.render else "")

/-- How a scalar was written. -/
inductive ScalarStyle where
  | plain | singleQuoted | doubleQuoted | literal | folded
  deriving DecidableEq, Repr, Inhabited

/-- The kinds of tokens. -/
inductive TokenKind where
  | streamStart | streamEnd | documentStart | documentEnd
  | versionDirective (major minor : Nat) | tagDirective (handle pfx : String)
  | blockSequenceStart | blockMappingStart | blockEnd
  | flowSequenceStart | flowSequenceEnd | flowMappingStart | flowMappingEnd
  | blockEntry | flowEntry | key | value
  | reference (name : String) | anchor (name : String) | tag (handle suffix : String)
  | scalar (value : String) (style : ScalarStyle)
  deriving DecidableEq, Repr, Inhabited

/-- A token and the places it starts and ends. -/
structure Token where
  kind : TokenKind
  start : Mark
  stop : Mark
  deriving Repr, Inhabited

/-- A scalar that may yet turn out to be a key: whether it still may, whether
it must (a key at the indentation of a block mapping), the number of its
token, and where it starts. -/
structure SimpleKey where
  possible : Bool := false
  required : Bool := false
  tokenNumber : Nat := 0
  mark : Mark := {}
  deriving Repr, Inhabited

/-- The state of the scanner. `keys` holds one possible simple key per flow
level, the innermost last. -/
structure Scanner where
  chars : Array Char
  mark : Mark := {}
  queue : List Token := []
  parsed : Nat := 0
  started : Bool := false
  ended : Bool := false
  flowLevel : Nat := 0
  indent : Int := -1
  indents : List Int := []
  keyAllowed : Bool := false
  keys : Array SimpleKey := #[]
  deriving Repr, Inhabited

/-- Line breaks. -/
def isBreak (c : Char) : Bool :=
  c == '\r' || c == '\n' || c.toNat == 0x85 || c.toNat == 0x2028 || c.toNat == 0x2029

/-- Blanks. -/
def isBlank (c : Char) : Bool := c == ' ' || c == '\t'

/-- The character that stands for the end of the text. -/
def endChar : Char := Char.ofNat 0

/-- A line break or the end of the text. -/
def isBreakZ (c : Char) : Bool := isBreak c || c == endChar

/-- A blank, a line break or the end of the text. -/
def isBlankZ (c : Char) : Bool := isBlank c || isBreakZ c

/-- Whether YAML allows a character in its text: tab, line feed, carriage
return, the printable characters of ASCII, next line, and every character
from U+00A0 up but U+FFFE and U+FFFF. -/
def isAllowedChar (c : Char) : Bool :=
  let n := c.toNat
  n == 0x09 || n == 0x0A || n == 0x0D || (0x20 ≤ n && n ≤ 0x7E) || n == 0x85 ||
    (0xA0 ≤ n && n ≤ 0xD7FF) || (0xE000 ≤ n && n ≤ 0xFFFD) || 0x10000 ≤ n

/-- The failure of a text that holds a character YAML does not allow, at the
byte offset of the first one. The whole text is checked before any of it is
split into tokens. -/
def disallowedChar? (text : String) : Option Error :=
  go text.toList 0
where
  /-- The first disallowed character of `cs`, whose first byte is at `offset`. -/
  go : List Char → Nat → Option Error
    | [], _ => none
    | c :: cs, offset =>
      if isAllowedChar c then go cs (offset + c.utf8Size)
      else some { problem := "control characters are not allowed", mark := {}, offset }

/-- Letters, digits, `_` and `-`, which anchors are made of. -/
def isWordChar (c : Char) : Bool := c.isAlphanum || c == '_' || c == '-'

/-- The value of a hexadecimal digit. -/
def hexValue (c : Char) : Option Nat :=
  if c.isDigit then some (c.toNat - 48)
  else if 'a' ≤ c && c ≤ 'f' then some (c.toNat - 87)
  else if 'A' ≤ c && c ≤ 'F' then some (c.toNat - 55)
  else none

namespace Scanner

/-- A scanner at the start of `text`. -/
def ofString (text : String) : Scanner := { chars := text.toList.toArray }

/-- The character `k` places ahead, or the end character. -/
def ahead (s : Scanner) (k : Nat) : Char := s.chars.getD (s.mark.index + k) endChar

/-- The current character. -/
def cur (s : Scanner) : Char := s.ahead 0

/-- How many characters are left; a bound on the steps of any loop. -/
def left (s : Scanner) : Nat := s.chars.size - s.mark.index + 1

/-- Steps over one character of a line. -/
def skip (s : Scanner) : Scanner :=
  { s with mark := { s.mark with index := s.mark.index + 1, column := s.mark.column + 1 } }

/-- Steps over a line break (`\r\n` counts as one). -/
def skipLine (s : Scanner) : Scanner :=
  if s.cur == '\r' && s.ahead 1 == '\n' then
    { s with mark := { index := s.mark.index + 2, line := s.mark.line + 1, column := 0 } }
  else if isBreak s.cur then
    { s with mark := { index := s.mark.index + 1, line := s.mark.line + 1, column := 0 } }
  else s

/-- Reads a line break, normalized: `\r`, `\n`, `\r\n` and next line read
as `\n`, the line and paragraph separators as themselves. -/
def readBreak (s : Scanner) : String × Scanner :=
  if s.cur == '\r' || s.cur == '\n' || s.cur.toNat == 0x85 then ("\n", s.skipLine)
  else (String.singleton s.cur, s.skipLine)

/-- Appends a token. -/
def push (s : Scanner) (kind : TokenKind) (start stop : Mark) : Scanner :=
  { s with queue := s.queue ++ [{ kind, start, stop }] }

/-- The innermost possible simple key. -/
def topKey (s : Scanner) : SimpleKey := s.keys.back?.getD {}

/-- Replaces the innermost possible simple key. -/
def setTopKey (s : Scanner) (k : SimpleKey) : Scanner :=
  if s.keys.isEmpty then s else { s with keys := s.keys.set! (s.keys.size - 1) k }

/-- The failure of a required simple key that found no `:`. -/
def keyError (s : Scanner) (k : SimpleKey) : Error :=
  { problem := "could not find expected ':'", mark := s.mark,
    context := some ("while scanning a simple key", k.mark) }

/-- Drops keys that can no longer be keys: a key must end on its line and
within 1024 characters. A required one that cannot fails. -/
def staleKeys (s : Scanner) : Except Error Scanner := do
  let keys ← s.keys.mapM fun k =>
    if k.possible && (k.mark.line < s.mark.line || k.mark.index + 1024 < s.mark.index) then
      if k.required then throw (s.keyError k) else pure { k with possible := false }
    else pure k
  pure { s with keys }

/-- Forgets the innermost possible key; a required one fails. -/
def removeKey (s : Scanner) : Except Error Scanner :=
  let k := s.topKey
  if k.possible && k.required then throw (s.keyError k)
  else pure (s.setTopKey { k with possible := false })

/-- Records that the token about to be produced may be a key. -/
def saveKey (s : Scanner) : Except Error Scanner := do
  let required := s.flowLevel == 0 && s.indent == (s.mark.column : Int)
  if s.keyAllowed then
    let k : SimpleKey :=
      { possible := true, required, tokenNumber := s.parsed + s.queue.length, mark := s.mark }
    let s ← s.removeKey
    pure (s.setTopKey k)
  else pure s

/-- Opens a block collection at `column` when it is deeper than the current
indentation: its start token goes at token number `number`, or at the end. -/
def rollIndent (s : Scanner) (column : Nat) (number : Option Nat) (kind : TokenKind)
    (mark : Mark) : Scanner :=
  if s.flowLevel > 0 then s
  else if s.indent < (column : Int) then
    let s := { s with indents := s.indent :: s.indents, indent := column }
    let t : Token := { kind, start := mark, stop := mark }
    match number with
    | none => { s with queue := s.queue ++ [t] }
    | some n =>
      let i := n - s.parsed
      { s with queue := s.queue.take i ++ [t] ++ s.queue.drop i }
  else s

/-- Closes the block collections deeper than `column`. -/
def unrollIndent (s : Scanner) (column : Int) : Scanner :=
  if s.flowLevel > 0 then s
  else
    let rec go : List Int → Scanner → Scanner
      | [], s => s
      | i :: rest, s =>
        if s.indent > column then
          go rest ({ s.push .blockEnd s.mark s.mark with indent := i, indents := rest })
        else s
    go s.indents s

/-- Skips blanks, comments and line breaks up to the next token. A line
break in block context lets a simple key start again. -/
def toNextToken (s : Scanner) : Scanner :=
  let rec go : Nat → Scanner → Scanner
    | 0, s => s
    | n + 1, s =>
      let s := if s.mark.column == 0 && s.cur.toNat == 0xFEFF then s.skip else s
      let rec blanks : Nat → Scanner → Scanner
        | 0, s => s
        | m + 1, s =>
          if s.cur == ' ' || ((s.flowLevel > 0 || !s.keyAllowed) && s.cur == '\t') then
            blanks m s.skip
          else s
      let s := blanks s.left s
      let rec comment : Nat → Scanner → Scanner
        | 0, s => s
        | m + 1, s => if isBreakZ s.cur then s else comment m s.skip
      let s := if s.cur == '#' then comment s.left s else s
      if isBreak s.cur then
        let s := s.skipLine
        go n (if s.flowLevel == 0 then { s with keyAllowed := true } else s)
      else s
  go s.left s

/-- Starts the stream. -/
def streamStart (s : Scanner) : Scanner :=
  { s.push .streamStart s.mark s.mark with
    indent := -1, keys := #[{}], keyAllowed := true, started := true }

/-- Ends the stream. -/
def streamEnd (s : Scanner) : Except Error Scanner := do
  let s := if s.mark.column != 0 then
      { s with mark := { s.mark with column := 0, line := s.mark.line + 1 } }
    else s
  let s := s.unrollIndent (-1)
  let s ← s.removeKey
  pure { s.push .streamEnd s.mark s.mark with keyAllowed := false, ended := true }

/-- The characters from the current one while `p` holds, and the scanner
after them. -/
def takeWhile (p : Char → Bool) (s : Scanner) : Scanner × String :=
  let rec go : Nat → Scanner → List Char → Scanner × List Char
    | 0, s, acc => (s, acc)
    | n + 1, s, acc =>
      if s.cur != endChar && p s.cur then go n s.skip (s.cur :: acc) else (s, acc)
  let (s, cs) := go s.left s []
  (s, String.ofList cs.reverse)

/-- Steps over blanks. -/
def skipBlanks (s : Scanner) : Scanner := (s.takeWhile isBlank).1

/-- A failure at the current place, while reading what started at `start`. -/
def failure (s : Scanner) (context : String) (start : Mark) (problem : String) : Error :=
  { problem, mark := s.mark, context := some (context, start) }

/-- A number of a `%YAML` directive: one to nine digits. -/
def versionNumber (s : Scanner) (start : Mark) : Except Error (Scanner × Nat) :=
  let context := "while scanning a %YAML directive"
  let rec go : Nat → Scanner → Nat → Nat → Except Error (Scanner × Nat × Nat)
    | 0, s, len, v => .ok (s, len, v)
    | n + 1, s, len, v =>
      if s.cur.isDigit then
        if len + 1 > 9 then .error (s.failure context start "found extremely long version number")
        else go n s.skip (len + 1) (v * 10 + (s.cur.toNat - 48))
      else .ok (s, len, v)
  match go s.left s 0 0 with
  | .error e => .error e
  | .ok (s, len, v) =>
    if len == 0 then .error (s.failure context start "did not find expected version number")
    else .ok (s, v)

/-- A tag handle: `!`, `!word!`, or, outside a directive, `!word` that turns
out to begin a tag's text. -/
def tagHandle (s : Scanner) (directive : Bool) (start : Mark) : Except Error (Scanner × String) := do
  if s.cur != '!' then
    throw (s.failure (if directive then "while scanning a tag directive" else "while scanning a tag")
      start "did not find expected '!'")
  let (s, word) := s.skip.takeWhile isWordChar
  if s.cur == '!' then pure (s.skip, "!" ++ word ++ "!")
  else if directive && !word.isEmpty then
    throw (s.failure "while parsing a tag directive" start "did not find expected '!'")
  else pure (s, "!" ++ word)

/-- The characters a tag's text is made of; flow indicators only in a
verbatim tag. -/
def isUriChar (verbatim : Bool) (c : Char) : Bool :=
  isWordChar c || ";/?:@&=+$.%!~*'()".toList.contains c ||
    (verbatim && (c == ',' || c == '[' || c == ']'))

/-- One character written as `%XX` escapes of its UTF-8 bytes. -/
def uriEscape (s : Scanner) (context : String) (start : Mark) : Except Error (Scanner × Char) := do
  let octet := fun (s : Scanner) =>
    if s.cur == '%' then
      (hexValue (s.ahead 1)).bind fun a => (hexValue (s.ahead 2)).map fun b => a * 16 + b
    else none
  let some lead := octet s
    | throw (s.failure context start "did not find URI escaped octet")
  let width := if lead < 0x80 then 1 else if lead / 32 == 6 then 2
    else if lead / 16 == 14 then 3 else if lead / 8 == 30 then 4 else 0
  if width == 0 then throw (s.failure context start "found an incorrect leading UTF-8 octet")
  let rec trail : Nat → Scanner → Nat → Except Error (Scanner × Nat)
    | 0, s, code => .ok (s, code)
    | k + 1, s, code =>
      match octet s with
      | none => .error (s.failure context start "did not find URI escaped octet")
      | some o =>
        if o / 64 != 2 then .error (s.failure context start "found an incorrect trailing UTF-8 octet")
        else trail k s.skip.skip.skip (code * 64 + o % 64)
  let first := if width == 1 then lead else if width == 2 then lead % 32
    else if width == 3 then lead % 16 else lead % 8
  let (s, code) ← trail (width - 1) s.skip.skip.skip first
  pure (s, if code.isValidChar then Char.ofNat code else Char.ofNat 0xFFFD)

/-- The text of a tag, after `head` (whose leading `!` is not kept). -/
def tagUri (s : Scanner) (verbatim directive : Bool) (head : String) (start : Mark) :
    Except Error (Scanner × String) := do
  let context := if directive then "while parsing a %TAG directive" else "while parsing a tag"
  let rec go : Nat → Scanner → String → Nat → Except Error (Scanner × String × Nat)
    | 0, s, out, len => .ok (s, out, len)
    | n + 1, s, out, len =>
      if isUriChar verbatim s.cur then
        if s.cur == '%' then
          match uriEscape s context start with
          | .ok (s', c) => go n s' (out.push c) (len + 1)
          | .error e => .error e
        else go n s.skip (out.push s.cur) (len + 1)
      else .ok (s, out, len)
  let (s, out, len) ← go s.left s (if head.length > 1 then (head.drop 1).toString else "") head.length
  if len == 0 then throw (s.failure context start "did not find expected tag URI")
  pure (s, out)

/-- A `%YAML` or `%TAG` directive, with the rest of its line. -/
def directive (s : Scanner) : Except Error Scanner := do
  let s := s.unrollIndent (-1)
  let s ← s.removeKey
  let s := { s with keyAllowed := false }
  let start := s.mark
  let (s, name) := s.skip.takeWhile isWordChar
  if name.isEmpty then
    throw (s.failure "while scanning a directive" start "could not find expected directive name")
  if !isBlankZ s.cur then
    throw (s.failure "while scanning a directive" start "found unexpected non-alphabetical character")
  let (s, kind) ←
    if name == "YAML" then do
      let (s, major) ← versionNumber s.skipBlanks start
      if s.cur != '.' then
        throw (s.failure "while scanning a %YAML directive" start
          "did not find expected digit or '.' character")
      let (s, minor) ← versionNumber s.skip start
      pure (s, TokenKind.versionDirective major minor)
    else if name == "TAG" then do
      let (s, handle) ← tagHandle s.skipBlanks true start
      if !isBlank s.cur then
        throw (s.failure "while scanning a %TAG directive" start "did not find expected whitespace")
      let (s, pfx) ← tagUri s.skipBlanks true true "" start
      if !isBlankZ s.cur then
        throw (s.failure "while scanning a %TAG directive" start
          "did not find expected whitespace or line break")
      pure (s, TokenKind.tagDirective handle pfx)
    else throw (s.failure "while scanning a directive" start "found unknown directive name")
  let stop := s.mark
  let s := s.skipBlanks
  let s := if s.cur == '#' then (s.takeWhile (fun c => !isBreakZ c)).1 else s
  if !isBreakZ s.cur then
    throw (s.failure "while scanning a directive" start "did not find expected comment or line break")
  pure (s.push kind start stop).skipLine

/-- `---` or `...`. -/
def documentIndicator (s : Scanner) (kind : TokenKind) : Except Error Scanner := do
  let s := s.unrollIndent (-1)
  let s ← s.removeKey
  let start := s.mark
  let s := { s.skip.skip.skip with keyAllowed := false }
  pure (s.push kind start s.mark)

/-- `[` or `{`. -/
def flowStart (s : Scanner) (kind : TokenKind) : Except Error Scanner := do
  let s ← s.saveKey
  let s := { s with flowLevel := s.flowLevel + 1, keys := s.keys.push {}, keyAllowed := true }
  let start := s.mark
  let s := s.skip
  pure (s.push kind start s.mark)

/-- `]` or `}`. -/
def flowEnd (s : Scanner) (kind : TokenKind) : Except Error Scanner := do
  let s ← s.removeKey
  let s := if s.flowLevel > 0 then
      { s with flowLevel := s.flowLevel - 1, keys := s.keys.pop }
    else s
  let start := s.mark
  let s := { s.skip with keyAllowed := false }
  pure (s.push kind start s.mark)

/-- `,` in a flow collection. -/
def flowEntry (s : Scanner) : Except Error Scanner := do
  let s ← s.removeKey
  let start := s.mark
  let s := { s.skip with keyAllowed := true }
  pure (s.push .flowEntry start s.mark)

/-- `-` starting an entry of a block sequence. -/
def blockEntry (s : Scanner) : Except Error Scanner := do
  let s ← if s.flowLevel == 0 then
      if !s.keyAllowed then
        throw { problem := "block sequence entries are not allowed in this context",
                mark := s.mark }
      else pure (s.rollIndent s.mark.column none .blockSequenceStart s.mark)
    else pure s
  let s ← s.removeKey
  let start := s.mark
  let s := { s.skip with keyAllowed := true }
  pure (s.push .blockEntry start s.mark)

/-- `?` starting an explicit key. -/
def explicitKey (s : Scanner) : Except Error Scanner := do
  let s ← if s.flowLevel == 0 then
      if !s.keyAllowed then
        throw { problem := "mapping keys are not allowed in this context", mark := s.mark }
      else pure (s.rollIndent s.mark.column none .blockMappingStart s.mark)
    else pure s
  let s ← s.removeKey
  let start := s.mark
  let s := { s.skip with keyAllowed := s.flowLevel == 0 }
  pure (s.push .key start s.mark)

/-- `:` after a key: the key's scalar, if it was a possible simple key, gets
its KEY token (and a mapping start) inserted before it. -/
def value (s : Scanner) : Except Error Scanner := do
  let k := s.topKey
  let s ← if k.possible then
      let i := k.tokenNumber - s.parsed
      let t : Token := { kind := .key, start := k.mark, stop := k.mark }
      let s := { s with queue := s.queue.take i ++ [t] ++ s.queue.drop i }
      let s := s.rollIndent k.mark.column (some k.tokenNumber) .blockMappingStart k.mark
      pure { s.setTopKey { k with possible := false } with keyAllowed := false }
    else if s.flowLevel == 0 then
      if !s.keyAllowed then
        throw { problem := "mapping values are not allowed in this context", mark := s.mark }
      else
        pure { s.rollIndent s.mark.column none .blockMappingStart s.mark with keyAllowed := true }
    else pure { s with keyAllowed := false }
  let start := s.mark
  let s := s.skip
  pure (s.push .value start s.mark)

/-- `&anchor` or `*alias`. -/
def anchorOrAlias (s : Scanner) (isAlias : Bool) : Except Error Scanner := do
  let s ← s.saveKey
  let s := { s with keyAllowed := false }
  let start := s.mark
  let rec go : Nat → Scanner → List Char → Scanner × List Char
    | 0, s, acc => (s, acc)
    | n + 1, s, acc => if isWordChar s.cur then go n s.skip (s.cur :: acc) else (s, acc)
  let (s, name) := go s.left s.skip []
  let c := s.cur
  if name.isEmpty || !(isBlankZ c || c == '?' || c == ':' || c == ',' || c == ']' || c == '}' ||
      c == '%' || c == '@' || c == '`') then
    throw { problem := "did not find expected alphabetic or numeric character", mark := s.mark,
            context := some (if isAlias then "while scanning an alias" else "while scanning an anchor",
              start) }
  let text := String.ofList name.reverse
  pure (s.push (if isAlias then .reference text else .anchor text) start s.mark)

/-- A tag: `!<text>`, `!handle!text`, `!text`, or `!` alone, kept as its
handle and text. -/
def tag (s : Scanner) : Except Error Scanner := do
  let s ← s.saveKey
  let s := { s with keyAllowed := false }
  let start := s.mark
  let (s, handle, suffix) ←
    if s.ahead 1 == '<' then do
      let (s, suffix) ← tagUri s.skip.skip true false "" start
      if s.cur != '>' then throw (s.failure "while scanning a tag" start "did not find the expected '>'")
      pure (s.skip, "", suffix)
    else do
      let (s, h) ← tagHandle s false start
      if h.length > 1 && h.endsWith "!" then
        let (s, suffix) ← tagUri s false false "" start
        pure (s, h, suffix)
      else
        let (s, suffix) ← tagUri s false false h start
        pure (if suffix.isEmpty then (s, "", "!") else (s, "!", suffix))
  if !isBlankZ s.cur && !(s.flowLevel > 0 && s.cur == ',') then
    throw (s.failure "while scanning a tag" start "did not find expected whitespace or line break")
  pure (s.push (.tag handle suffix) start s.mark)

/-- Spaces and line breaks before the lines of a block scalar, which fix its
indentation when no indicator gave one. -/
def blockBreaks (s : Scanner) (indent : Nat) (start : Mark) :
    Except Error (Scanner × Nat × String × Mark) := do
  let rec go : Nat → Scanner → Nat → String → Mark → Except Error (Scanner × Nat × String × Mark)
    | 0, s, maxIndent, breaks, stop => pure (s, maxIndent, breaks, stop)
    | n + 1, s, maxIndent, breaks, stop => do
      let rec spaces : Nat → Scanner → Scanner
        | 0, s => s
        | m + 1, s => if (indent == 0 || s.mark.column < indent) && s.cur == ' ' then spaces m s.skip else s
      let s := spaces s.left s
      let maxIndent := max maxIndent s.mark.column
      if (indent == 0 || s.mark.column < indent) && s.cur == '\t' then
        throw { problem := "found a tab character where an indentation space is expected",
                mark := s.mark, context := some ("while scanning a block scalar", start) }
      if !isBreak s.cur then pure (s, maxIndent, breaks, stop)
      else
        let (b, s) := s.readBreak
        go n s maxIndent (breaks ++ b) s.mark
  let (s, maxIndent, breaks, stop) ← go s.left s 0 "" s.mark
  let indent := if indent == 0 then
      let i := max maxIndent (Int.toNat (s.indent + 1))
      max i 1
    else indent
  pure (s, indent, breaks, stop)

/-- A literal (`|`) or folded (`>`) block scalar. -/
def blockScalar (s : Scanner) (literal : Bool) : Except Error Scanner := do
  let s ← s.removeKey
  let s := { s with keyAllowed := true }
  let start := s.mark
  let s := s.skip
  let ctx := "while scanning a block scalar"
  let zeroError := fun (s : Scanner) =>
    ({ problem := "found an indentation indicator equal to 0", mark := s.mark, context := some (ctx, start) } : Error)
  let (chomping, increment, s) ← (do
    if s.cur == '+' || s.cur == '-' then
      let chomping : Int := if s.cur == '+' then 1 else -1
      let s := s.skip
      if s.cur.isDigit then
        if s.cur == '0' then throw (zeroError s)
        pure (chomping, s.cur.toNat - 48, s.skip)
      else pure (chomping, 0, s)
    else if s.cur.isDigit then
      if s.cur == '0' then throw (zeroError s)
      let increment := s.cur.toNat - 48
      let s := s.skip
      if s.cur == '+' || s.cur == '-' then
        pure ((if s.cur == '+' then 1 else -1 : Int), increment, s.skip)
      else pure (0, increment, s)
    else pure (0, 0, s) : Except Error (Int × Nat × Scanner))
  let rec blanks : Nat → Scanner → Scanner
    | 0, s => s
    | m + 1, s => if isBlank s.cur then blanks m s.skip else s
  let s := blanks s.left s
  let rec comment : Nat → Scanner → Scanner
    | 0, s => s
    | m + 1, s => if isBreakZ s.cur then s else comment m s.skip
  let s := if s.cur == '#' then comment s.left s else s
  if !isBreakZ s.cur then
    throw { problem := "did not find expected comment or line break", mark := s.mark,
            context := some (ctx, start) }
  let s := if isBreak s.cur then s.skipLine else s
  let indent := if increment > 0 then
      (if s.indent >= 0 then Int.toNat s.indent + increment else increment)
    else 0
  let (s, indent, trailing, stop) ← blockBreaks s indent start
  let rec lines : Nat → Scanner → String → String → String → Bool → Mark →
      Except Error (Scanner × String × String × String × Mark)
    | 0, s, out, leading, trailing, _, stop => pure (s, out, leading, trailing, stop)
    | n + 1, s, out, leading, trailing, leadingBlank, stop => do
      if !(s.mark.column == indent && s.cur != endChar) then
        pure (s, out, leading, trailing, stop)
      else
        let trailingBlank := isBlank s.cur
        let out :=
          if !literal && leading.startsWith "\n" && !leadingBlank && !trailingBlank then
            (if trailing.isEmpty then out ++ " " else out)
          else out ++ leading
        let out := out ++ trailing
        let leadingBlank := isBlank s.cur
        let rec text : Nat → Scanner → String → Scanner × String
          | 0, s, acc => (s, acc)
          | m + 1, s, acc => if isBreakZ s.cur then (s, acc) else text m s.skip (acc.push s.cur)
        let (s, out) := text s.left s out
        let (b, s) := if s.cur == endChar then ("", s) else s.readBreak
        let (s, _, trailing, stop) ← blockBreaks s indent start
        lines n s out b trailing leadingBlank stop
  let (s, out, leading, trailing, stop) ← lines s.left s "" "" trailing false stop
  let out := if chomping != -1 then out ++ leading else out
  let out := if chomping == 1 then out ++ trailing else out
  pure (s.push (.scalar out (if literal then .literal else .folded)) start stop)

/-- Joins the line breaks and blanks between two pieces of a folded scalar:
a single line break folds into a space, more breaks are kept. -/
def fold (out leading trailing : String) : String :=
  if leading.startsWith "\n" then
    if trailing.isEmpty then out ++ " " else out ++ trailing
  else out ++ leading ++ trailing

/-- The character an escape in a double-quoted scalar stands for, with the
number of hexadecimal digits that follow it. -/
def escapeOf (c : Char) : Option (Char ⊕ Nat) :=
  match c with
  | '0' => some (.inl (Char.ofNat 0)) | 'a' => some (.inl (Char.ofNat 7))
  | 'b' => some (.inl (Char.ofNat 8)) | 't' => some (.inl '\t') | '\t' => some (.inl '\t')
  | 'n' => some (.inl '\n') | 'v' => some (.inl (Char.ofNat 11))
  | 'f' => some (.inl (Char.ofNat 12)) | 'r' => some (.inl '\r')
  | 'e' => some (.inl (Char.ofNat 27)) | ' ' => some (.inl ' ') | '"' => some (.inl '"')
  | '/' => some (.inl '/') | '\\' => some (.inl '\\')
  | 'N' => some (.inl (Char.ofNat 0x85)) | '_' => some (.inl (Char.ofNat 0xA0))
  | 'L' => some (.inl (Char.ofNat 0x2028)) | 'P' => some (.inl (Char.ofNat 0x2029))
  | 'x' => some (.inr 2) | 'u' => some (.inr 4) | 'U' => some (.inr 8)
  | _ => none

/-- Whether the text at the scanner is a document marker `---` or `...` at
the start of a line. -/
def atDocumentMarker (s : Scanner) : Bool :=
  s.mark.column == 0 &&
    ((s.cur == '-' && s.ahead 1 == '-' && s.ahead 2 == '-') ||
      (s.cur == '.' && s.ahead 1 == '.' && s.ahead 2 == '.')) && isBlankZ (s.ahead 3)

/-- A single- or double-quoted scalar. -/
def quoted (s : Scanner) (single : Bool) : Except Error Scanner := do
  let s ← s.saveKey
  let s := { s with keyAllowed := false }
  let start := s.mark
  let q := if single then '\'' else '"'
  let ctx := "while scanning a quoted scalar"
  let rec body : Nat → Scanner → String → Except Error (Scanner × String × Bool)
    | 0, s, out => pure (s, out, false)
    | n + 1, s, out => do
      if isBlankZ s.cur then pure (s, out, false)
      else if single && s.cur == '\'' && s.ahead 1 == '\'' then body n s.skip.skip (out.push '\'')
      else if s.cur == q then pure (s, out, false)
      else if !single && s.cur == '\\' && isBreak (s.ahead 1) then
        pure (s.skip.skipLine, out, true)
      else if !single && s.cur == '\\' then
        match escapeOf (s.ahead 1) with
        | none =>
          throw { problem := "found unknown escape character", mark := s.mark,
                  context := some ("while parsing a quoted scalar", start) }
        | some (.inl c) => body n s.skip.skip (out.push c)
        | some (.inr digits) =>
          let s := s.skip.skip
          let rec hex : Nat → Scanner → Nat → Except Error (Scanner × Nat)
            | 0, s, v => pure (s, v)
            | m + 1, s, v =>
              match hexValue s.cur with
              | some d => hex m s.skip (v * 16 + d)
              | none => throw { problem := "did not find expected hexdecimal number",
                                mark := s.mark,
                                context := some ("while parsing a quoted scalar", start) }
          let (s', v) ← hex digits s 0
          if (0xD800 ≤ v && v ≤ 0xDFFF) || v > 0x10FFFF then
            throw { problem := "found invalid Unicode character escape code", mark := s.mark,
                    context := some ("while parsing a quoted scalar", start) }
          body n s' (out.push (Char.ofNat v))
      else body n s.skip (out.push s.cur)
  let rec whitespace : Nat → Scanner → Bool → String → String → String →
      Scanner × Bool × String × String × String
    | 0, s, lb, ws, leading, trailing => (s, lb, ws, leading, trailing)
    | n + 1, s, lb, ws, leading, trailing =>
      if isBlank s.cur then
        whitespace n s.skip lb (if lb then ws else ws.push s.cur) leading trailing
      else if isBreak s.cur then
        let (b, s') := s.readBreak
        if lb then whitespace n s' lb ws leading (trailing ++ b)
        else whitespace n s' true "" b trailing
      else (s, lb, ws, leading, trailing)
  let rec go : Nat → Scanner → String → Except Error (Scanner × String)
    | 0, s, out => pure (s, out)
    | n + 1, s, out => do
      if s.atDocumentMarker then
        throw { problem := "found unexpected document indicator", mark := s.mark,
                context := some (ctx, start) }
      if s.cur == endChar then
        throw { problem := "found unexpected end of stream", mark := s.mark,
                context := some (ctx, start) }
      let (s, out, escapedBreak) ← body s.left s out
      if s.cur == q then pure (s, out)
      else
        let (s, lb, ws, leading, trailing) := whitespace s.left s escapedBreak "" "" ""
        let out := if lb then fold out leading trailing else out ++ ws
        go n s out
  let (s, out) ← go s.left s.skip ""
  let s := s.skip
  pure (s.push (.scalar out (if single then .singleQuoted else .doubleQuoted)) start s.mark)

/-- A plain scalar: it runs to a `: `, a comment, a flow indicator in flow
context, or a line that is not indented deeper than the current block. -/
def plain (s : Scanner) : Except Error Scanner := do
  let s ← s.saveKey
  let s := { s with keyAllowed := false }
  let start := s.mark
  let indent : Int := s.indent + 1
  let ctx := "while scanning a plain scalar"
  let isFlowIndicator := fun (c : Char) => c == ',' || c == '[' || c == ']' || c == '{' || c == '}'
  let rec chars : Nat → Scanner → String → Bool → String → String → String → Mark →
      Except Error (Scanner × String × Bool × String × Mark)
    | 0, s, out, lb, ws, _, _, stop => pure (s, out, lb, ws, stop)
    | n + 1, s, out, lb, ws, leading, trailing, stop => do
      if isBlankZ s.cur then pure (s, out, lb, ws, stop)
      else
        if s.flowLevel > 0 && s.cur == ':' &&
            (s.ahead 1 == ',' || s.ahead 1 == '?' || s.ahead 1 == '[' || s.ahead 1 == ']' ||
              s.ahead 1 == '{' || s.ahead 1 == '}') then
          throw { problem := "found unexpected ':'", mark := s.mark, context := some (ctx, start) }
        if (s.cur == ':' && isBlankZ (s.ahead 1)) || (s.flowLevel > 0 && isFlowIndicator s.cur) then
          pure (s, out, lb, ws, stop)
        else
          let out := if lb then fold out leading trailing else out ++ ws
          let s' := s.skip
          chars n s' (out.push s.cur) false "" "" "" s'.mark
  let rec spaces : Nat → Scanner → Bool → String → String → String →
      Except Error (Scanner × Bool × String × String × String)
    | 0, s, lb, ws, leading, trailing => pure (s, lb, ws, leading, trailing)
    | n + 1, s, lb, ws, leading, trailing => do
      if isBlank s.cur then
        if lb && (s.mark.column : Int) < indent && s.cur == '\t' then
          throw { problem := "found a tab character that violates indentation", mark := s.mark,
                  context := some (ctx, start) }
        spaces n s.skip lb (if lb then ws else ws.push s.cur) leading trailing
      else if isBreak s.cur then
        let (b, s') := s.readBreak
        if lb then spaces n s' lb ws leading (trailing ++ b)
        else spaces n s' true "" b ""
      else pure (s, lb, ws, leading, trailing)
  let rec go : Nat → Scanner → String → Bool → String → String → String → Mark →
      Except Error (Scanner × String × Bool × Mark)
    | 0, s, out, lb, _, _, _, stop => pure (s, out, lb, stop)
    | n + 1, s, out, lb, ws, leading, trailing, stop => do
      if s.atDocumentMarker || s.cur == '#' then pure (s, out, lb, stop)
      else
        let (s, out, lb, ws, stop) ← chars s.left s out lb ws leading trailing stop
        let (leading, trailing) := if lb then (leading, trailing) else ("", "")
        if !(isBlank s.cur || isBreak s.cur) then pure (s, out, lb, stop)
        else
          let (s, lb, ws, leading, trailing) ← spaces s.left s lb ws leading trailing
          if s.flowLevel == 0 && (s.mark.column : Int) < indent then pure (s, out, lb, stop)
          else go n s out lb ws leading trailing stop
  let (s, out, lb, stop) ← go s.left s "" false "" "" "" start
  let s := s.push (.scalar out .plain) start stop
  pure (if lb then { s with keyAllowed := true } else s)

/-- Produces the next token or tokens. -/
def fetchNext (s : Scanner) : Except Error Scanner := do
  if !s.started then return s.streamStart
  let s := s.toNextToken
  let s ← s.staleKeys
  let s := s.unrollIndent s.mark.column
  let c := s.cur
  if c == endChar then return (← s.streamEnd)
  if s.mark.column == 0 && c == '%' then return (← s.directive)
  if s.mark.column == 0 && c == '-' && s.ahead 1 == '-' && s.ahead 2 == '-' && isBlankZ (s.ahead 3) then
    return (← s.documentIndicator .documentStart)
  if s.mark.column == 0 && c == '.' && s.ahead 1 == '.' && s.ahead 2 == '.' && isBlankZ (s.ahead 3) then
    return (← s.documentIndicator .documentEnd)
  if c == '[' then return (← s.flowStart .flowSequenceStart)
  if c == '{' then return (← s.flowStart .flowMappingStart)
  if c == ']' then return (← s.flowEnd .flowSequenceEnd)
  if c == '}' then return (← s.flowEnd .flowMappingEnd)
  if c == ',' then return (← s.flowEntry)
  if c == '-' && isBlankZ (s.ahead 1) then return (← s.blockEntry)
  if c == '?' && (s.flowLevel > 0 || isBlankZ (s.ahead 1)) then return (← s.explicitKey)
  if c == ':' && (s.flowLevel > 0 || isBlankZ (s.ahead 1)) then return (← s.value)
  if c == '*' then return (← s.anchorOrAlias true)
  if c == '&' then return (← s.anchorOrAlias false)
  if c == '!' then return (← s.tag)
  if c == '|' && s.flowLevel == 0 then return (← s.blockScalar true)
  if c == '>' && s.flowLevel == 0 then return (← s.blockScalar false)
  if c == '\'' then return (← s.quoted true)
  if c == '"' then return (← s.quoted false)
  let indicator := isBlankZ c || "-?:,[]\x7b\x7d#&*!|>'\"%@`".toList.contains c
  if !indicator || (c == '-' && !isBlank (s.ahead 1)) ||
      (s.flowLevel == 0 && (c == '?' || c == ':') && !isBlankZ (s.ahead 1)) then
    return (← s.plain)
  throw { problem := "found character that cannot start any token", mark := s.mark,
          context := some ("while scanning for the next token", s.mark) }

/-- Whether the first queued token may still change: it is a possible simple
key, or nothing is queued. -/
def needMore (s : Scanner) : Bool :=
  s.queue.isEmpty || s.keys.any fun k => k.possible && k.tokenNumber == s.parsed

/-- Produces tokens until the first queued one is settled, and answers it. -/
def peek (s : Scanner) : Except Error (Token × Scanner) := do
  let rec go : Nat → Scanner → Except Error Scanner
    | 0, s => pure s
    | n + 1, s => do
      if s.ended && !s.queue.isEmpty then
        let s ← s.staleKeys
        pure s
      else
        let s ← if s.queue.isEmpty then pure s else s.staleKeys
        if s.needMore && !s.ended then go n (← s.fetchNext) else pure s
  let s ← go (2 * s.left + 8) s
  match s.queue with
  | t :: _ => pure (t, s)
  | [] => pure ({ kind := .streamEnd, start := s.mark, stop := s.mark }, s)

/-- Takes the first queued token. -/
def take (s : Scanner) : Scanner :=
  match s.queue with
  | [] => s
  | _ :: rest => { s with queue := rest, parsed := s.parsed + 1 }

end Scanner

end ColumnLineage.Yaml
