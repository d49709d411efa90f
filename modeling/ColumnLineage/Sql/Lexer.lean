import ColumnLineage.Sql.Token
/-
ColumnLineage/Sql/Lexer.lean

Splitting SQL text into tokens. Each step reads one token, or one run of
blanks or one comment, that begins with the first character of the remaining
text, and returns a suffix of the characters after that first one; the whole
scan therefore ends, by the length of the text. Blanks and comments are
dropped; every token keeps the offset at which it started.

A scan fails only on text that cannot end a token: a string, quoted
identifier or block comment left open at the end of the text.
-/

namespace ColumnLineage.Sql

/-- Why a scan stopped: the message and the offset it points at. -/
structure LexError where
  message : String
  offset : Nat
  deriving Repr

namespace Lexer

open ColumnLineage.Text

/-- What remains after a scanner: a suffix of the characters it was given. -/
abbrev Rest (cs : List Char) := { r : List Char // r <:+ cs }

/-- The whole input as its own remainder. -/
def Rest.self (cs : List Char) : Rest cs := ⟨cs, List.suffix_refl cs⟩

/-- A remainder of the tail is a remainder of the list. -/
def Rest.cons {c : Char} {cs : List Char} (r : Rest cs) : Rest (c :: cs) :=
  ⟨r.1, r.2.trans (List.suffix_cons c cs)⟩

/-- Characters while `p` holds, and the remainder. -/
def spanWhile (p : Char → Bool) (cs : List Char) : List Char × Rest cs :=
  (cs.takeWhile p, ⟨cs.dropWhile p, List.dropWhile_suffix p⟩)

/-- The character that a backslash and `d` stand for in a string that takes
backslash escapes. -/
def escapeChar (d : Char) : Char :=
  match d with
  | '0' => Char.ofNat 0 | 'a' => Char.ofNat 7 | 'b' => Char.ofNat 8
  | 'f' => Char.ofNat 12 | 'n' => '\n' | 'r' => '\r' | 't' => '\t'
  | 'Z' => Char.ofNat 26 | x => x

/-- The body of a quoted string after its opening quote `q`, up to the closing
one. A doubled quote stands for one quote; with `escapes`, a backslash takes
the next character. `none` when the text ends first. -/
def quotedBody (q : Char) (escapes : Bool) : (cs : List Char) → Option (List Char × Rest cs)
  | [] => none
  | c :: rest =>
    if c == q then
      match rest with
      | d :: rest' =>
        if d == q then
          (quotedBody q escapes rest').map fun (s, r) => (q :: s, Rest.cons (Rest.cons r))
        else some ([], Rest.cons (Rest.self (d :: rest')))
      | [] => some ([], Rest.cons (Rest.self []))
    else if c == '\\' && escapes then
      match rest with
      | d :: rest' =>
        (quotedBody q escapes rest').map fun (s, r) => (escapeChar d :: s, Rest.cons (Rest.cons r))
      | [] => none
    else
      (quotedBody q escapes rest).map fun (s, r) => (c :: s, Rest.cons r)

/-- The body of a string opened by three quotes `q`, after them, through the
three that close it; the result still ends with the first two of those.
`run` counts the quotes just read, which belong to the text while fewer than
three stand in a row; with `escapes`, a backslash takes the next character. -/
def tripleBody (q : Char) (escapes : Bool) (run : Nat) :
    (cs : List Char) → Option (List Char × Rest cs)
  | [] => none
  | c :: rest =>
    if c == q && run == 2 then some ([], Rest.cons (Rest.self rest))
    else if c == '\\' && escapes then
      match rest with
      | d :: rest' =>
        (tripleBody q escapes 0 rest').map fun (s, r) => (escapeChar d :: s, Rest.cons (Rest.cons r))
      | [] => none
    else
      (tripleBody q escapes (if c == q then run + 1 else 0) rest).map fun (s, r) =>
        (c :: s, Rest.cons r)

/-- Hexadecimal digits, upper or lower case. -/
def isHexDigit (c : Char) : Bool :=
  c.isDigit || ('a' ≤ c && c ≤ 'f') || ('A' ≤ c && c ≤ 'F')

/-- The value of digits in base `radix`, a leading `+` allowed before at
least one digit; `none` if a character is no such digit. -/
def radixValue (radix : Nat) (cs : List Char) : Option Nat :=
  let digits := match cs with
    | '+' :: r => r
    | r => r
  if digits.isEmpty then none
  else digits.foldlM (fun n c =>
    let v := if c.isDigit then some (c.toNat - 48)
      else if 'a' ≤ c && c ≤ 'z' then some (c.toNat - 87)
      else if 'A' ≤ c && c ≤ 'Z' then some (c.toNat - 55)
      else none
    match v with
    | some v => if v < radix then some (n * radix + v) else none
    | none => none) 0

/-- The character of a byte written in octal or hexadecimal inside an
`E'...'` string: the byte's low eight bits, which must be ASCII. -/
def byteChar (n : Nat) : Option Char :=
  let b := n % 256
  if b ≤ 127 then some (Char.ofNat b) else none

/-- The escape after a backslash in an `E'...'` string, given the character
`e` that follows the backslash: the character it stands for and the rest.
`\b`, `\f`, `\n`, `\r`, `\t` are control characters; `\u` and `\U` take
four and eight characters of a code point in hexadecimal; `\x` takes up to
two hexadecimal digits and an octal digit up to two more, for an ASCII byte.
`none` for a code or byte out of range, and for the character NUL. -/
def escapeSequence (e : Char) (cs : List Char) : Option (Char × Rest cs) :=
  let coded := fun (n : Nat) =>
    if cs.length < n then none
    else match radixValue 16 (cs.take n) with
      | some v => if v.isValidChar then some (Char.ofNat v, ⟨cs.drop n, List.drop_suffix n cs⟩)
        else none
      | none => none
  let result : Option (Char × Rest cs) :=
    match e with
    | 'b' => some (Char.ofNat 8, Rest.self cs)
    | 'f' => some (Char.ofNat 12, Rest.self cs)
    | 'n' => some ('\n', Rest.self cs)
    | 'r' => some ('\r', Rest.self cs)
    | 't' => some ('\t', Rest.self cs)
    | 'u' => coded 4
    | 'U' => coded 8
    | 'x' =>
      let hs := (cs.takeWhile isHexDigit).take 2
      if hs.isEmpty then some ('x', Rest.self cs)
      else (radixValue 16 hs).bind fun v =>
        (byteChar v).map fun ch => (ch, ⟨cs.drop hs.length, List.drop_suffix _ cs⟩)
    | x =>
      if '0' ≤ x && x ≤ '7' then
        let os := (cs.takeWhile fun c => '0' ≤ c && c ≤ '7').take 2
        (radixValue 8 (x :: os)).bind fun v =>
          (byteChar v).map fun ch => (ch, ⟨cs.drop os.length, List.drop_suffix _ cs⟩)
      else some (x, Rest.self cs)
  result.bind fun (ch, r) => if ch.val == 0 then none else some (ch, r)

/-- The body of an `E'...'` string after its opening quote: a doubled quote
stands for one, and a backslash starts an escape. `none` when the text ends
first or an escape is invalid. -/
def escapedBody : (cs : List Char) → Option (List Char × Rest cs)
  | [] => none
  | c :: rest =>
    if c == '\'' then
      match rest with
      | d :: rest' =>
        if d == '\'' then
          (escapedBody rest').map fun (s, r) => ('\'' :: s, Rest.cons (Rest.cons r))
        else some ([], Rest.cons (Rest.self (d :: rest')))
      | [] => some ([], Rest.cons (Rest.self []))
    else if c == '\\' then
      match rest with
      | e :: rest' =>
        match escapeSequence e rest' with
        | some (ch, r) =>
          have : r.1.length < (c :: e :: rest').length := by
            have := r.2.length_le
            simp only [List.length_cons]
            omega
          (escapedBody r.1).map fun (s, r') =>
            (ch :: s, ⟨r'.1, r'.2.trans (r.2.trans ((List.suffix_cons _ _).trans (List.suffix_cons _ _)))⟩)
        | none => none
      | [] => none
    else
      (escapedBody rest).map fun (s, r) => (c :: s, Rest.cons r)
termination_by cs => cs.length
decreasing_by all_goals (simp only [List.length_cons] at *; omega)

/-- The value of a hexadecimal digit, in either case. -/
def hexDigitValue (c : Char) : Option Nat :=
  if c.isDigit then some (c.toNat - '0'.toNat)
  else if 'a' ≤ c && c ≤ 'f' then some (c.toNat - 'a'.toNat + 10)
  else if 'A' ≤ c && c ≤ 'F' then some (c.toNat - 'A'.toNat + 10)
  else none

/-- The code written by `n` hexadecimal digits at the front of `cs`, added to
`acc` shifted by as many digits; on failure, the message and how many
characters were read up to it. -/
def hexCode : Nat → Nat → List Char → Except (String × Nat) Nat
  | 0, acc, _ => .ok acc
  | _ + 1, _, [] => .error ("Unexpected EOF while parsing hex digit in escaped unicode string.", 0)
  | n + 1, acc, c :: r =>
    match hexDigitValue c with
    | some v =>
      match hexCode n (acc * 16 + v) r with
      | .ok code => .ok code
      | .error (m, k) => .error (m, k + 1)
    | none => .error ("Invalid hex digit in escaped unicode string: " ++ String.singleton c, 1)

/-- The character whose code `n` hexadecimal digits at the front of `cs`
write, and the rest; on failure, the message and how many characters were
read up to it. -/
def codedChar (n : Nat) (cs : List Char) : Except (String × Nat) (Char × Rest cs) :=
  match hexCode n 0 cs with
  | .error e => .error e
  | .ok code =>
    if code.isValidChar then .ok (Char.ofNat code, ⟨cs.drop n, List.drop_suffix n cs⟩)
    else .error ("Invalid unicode character: " ++ String.ofList (Nat.toDigits 16 code), n)

/-- The message of a `U&'...'` string left open. -/
def unicodeUnterminated : String := "Unterminated unicode encoded string literal"

/-- The body of a `U&'...'` string after its opening quote, up to the closing
one: a doubled quote is a quote, `\\` a backslash, and a backslash followed
by four hexadecimal digits, or by `+` and six, the character of that code.
On failure, the message and how many characters were read up to it. -/
def unicodeBody : (cs : List Char) → Except (String × Nat) (List Char × Rest cs)
  | [] => .error (unicodeUnterminated, 0)
  | '\'' :: '\'' :: r =>
    match unicodeBody r with
    | .ok (s, q) => .ok ('\'' :: s, Rest.cons (Rest.cons q))
    | .error (m, k) => .error (m, k + 2)
  | '\'' :: r => .ok ([], Rest.cons (Rest.self r))
  | '\\' :: [] => .error (unicodeUnterminated, 1)
  | '\\' :: '\\' :: r =>
    match unicodeBody r with
    | .ok (s, q) => .ok ('\\' :: s, Rest.cons (Rest.cons q))
    | .error (m, k) => .error (m, k + 2)
  | '\\' :: '+' :: r =>
    match codedChar 6 r with
    | .error (m, k) => .error (m, k + 2)
    | .ok (c, q) =>
      have : q.1.length < ('\\' :: '+' :: r).length := by
        have := q.2.length_le
        simp only [List.length_cons]
        omega
      match unicodeBody q.1 with
      | .ok (s, q') => .ok (c :: s, ⟨q'.1, q'.2.trans (q.2.trans ((List.suffix_cons _ _).trans
          (List.suffix_cons _ _)))⟩)
      | .error (m, k) => .error (m, k + 8)
  | '\\' :: d :: r =>
    match codedChar 4 (d :: r) with
    | .error (m, k) => .error (m, k + 1)
    | .ok (c, q) =>
      have : q.1.length < ('\\' :: d :: r).length := by
        have := q.2.length_le
        simp only [List.length_cons] at *
        omega
      match unicodeBody q.1 with
      | .ok (s, q') => .ok (c :: s, ⟨q'.1, q'.2.trans (q.2.trans (List.suffix_cons _ _))⟩)
      | .error (m, k) => .error (m, k + 5)
  | c :: r =>
    match unicodeBody r with
    | .ok (s, q) => .ok (c :: s, Rest.cons q)
    | .error (m, k) => .error (m, k + 1)
termination_by cs => cs.length
decreasing_by all_goals (simp only [List.length_cons] at *; omega)

/-- The body of a delimited identifier up to the closing quote `q`, a doubled
closing quote standing for one. The flag tells whether the quote was found. -/
def identBody (q : Char) : (cs : List Char) → List Char × Rest cs × Bool
  | [] => ([], Rest.self [], false)
  | c :: rest =>
    if c == q then
      match rest with
      | d :: rest' =>
        if d == q then
          let (s, r, ok) := identBody q rest'
          (q :: s, Rest.cons (Rest.cons r), ok)
        else ([], Rest.cons (Rest.self (d :: rest')), true)
      | [] => ([], Rest.cons (Rest.self []), true)
    else
      let (s, r, ok) := identBody q rest
      (c :: s, Rest.cons r, ok)

/-- A block comment after its opening `/*`, up to the matching `*/`; with
`nested`, an inner `/*` opens a comment that must be closed first. `none`
when the text ends first. -/
def blockComment (nested : Bool) (depth : Nat) : (cs : List Char) → Option (Rest cs)
  | [] => none
  | '/' :: '*' :: rest =>
    if nested then (blockComment nested (depth + 1) rest).map fun r => Rest.cons (Rest.cons r)
    else (blockComment nested depth ('*' :: rest)).map Rest.cons
  | '*' :: '/' :: rest =>
    if depth == 0 then some (Rest.cons (Rest.cons (Rest.self rest)))
    else (blockComment nested (depth - 1) rest).map fun r => Rest.cons (Rest.cons r)
  | _ :: rest => (blockComment nested depth rest).map Rest.cons

/-- A line comment runs up to and including the next line feed. -/
def lineComment : (cs : List Char) → Rest cs
  | [] => Rest.self []
  | c :: rest => if c == '\n' then Rest.cons (Rest.self rest) else Rest.cons (lineComment rest)

/-- The body of a `$$` string after its opening `$$`, up to the next `$$`. -/
def dollarBody : (xs : List Char) → Option (List Char × Rest xs)
  | [] => none
  | '$' :: '$' :: r => some ([], Rest.cons (Rest.cons (Rest.self r)))
  | x :: r => (dollarBody r).map fun (s, q) => (x :: s, Rest.cons q)

/-- The body of a `$tag$` string up to the closing `close`. -/
def taggedBody (close : List Char) : (xs : List Char) → Option (List Char × Rest xs)
  | [] => none
  | x :: xr =>
    if close.isPrefixOf (x :: xr) then
      some ([], ⟨(x :: xr).drop close.length, List.drop_suffix _ _⟩)
    else (taggedBody close xr).map fun (s, q) => (x :: s, Rest.cons q)

/-- What follows a `$`: a `$$...$$` or `$tag$...$tag$` string, or a `$name`
placeholder. Where `$` always starts a placeholder, the name runs over
letters, digits, `_` and further `$`. -/
def dollar (d : Dialect) (cs : List Char) : Except String (Token × Rest cs) :=
  if d.dollarPlaceholders then
    let (v, r) := spanWhile (fun x => isAlphanumeric x || x == '_' || x == '$') cs
    .ok (.placeholder ("$" ++ String.ofList v), r)
  else
  match cs with
  | '$' :: rest =>
    match dollarBody rest with
    | some (s, r) => .ok (.dollarQuoted (String.ofList s) none, Rest.cons r)
    | none => .error "Unterminated dollar-quoted string"
  | other =>
    let (tag, r) := spanWhile (fun x => isAlphanumeric x || x == '_') other
    match r with
    | ⟨'$' :: rest, hr⟩ =>
      match taggedBody (['$'] ++ tag ++ ['$']) rest with
      | some (s, q) =>
        .ok (.dollarQuoted (String.ofList s) (some (String.ofList tag)),
          ⟨q.1, q.2.trans ((List.suffix_cons '$' rest).trans hr)⟩)
      | none => .error "Unterminated dollar-quoted, expected $"
    | r => .ok (.placeholder ("$" ++ String.ofList tag), r)

/-- An optional exponent at the front of `cs`: `e` or `E`, an optional sign,
and at least one digit; otherwise nothing is taken. -/
def exponent (cs : List Char) : List Char × Rest cs :=
  match cs with
  | e :: rest =>
    if e == 'e' || e == 'E' then
      let signed : List Char × List Char :=
        match rest with
        | c :: rr => if c == '+' || c == '-' then ([c], rr) else ([], rest)
        | [] => ([], [])
      match signed.2 with
      | c :: _ =>
        if c.isDigit then
          let taken := e :: signed.1 ++ signed.2.takeWhile Char.isDigit
          (taken, ⟨(e :: rest).drop taken.length, List.drop_suffix _ _⟩)
        else ([], Rest.self (e :: rest))
      | [] => ([], Rest.self (e :: rest))
    else ([], Rest.self (e :: rest))
  | [] => ([], Rest.self [])

/-- An optional `L` that marks a long number. -/
def longMark (cs : List Char) : Bool × Rest cs :=
  match cs with
  | 'L' :: r => (true, Rest.cons (Rest.self r))
  | other => (false, Rest.self other)

/-- The number that starts with the digit or point `c`: digits, a point, more
digits and an exponent. A lone point is a period; `0x` opens hexadecimal
digits. With a numeric prefix, a number without exponent that runs into
identifier characters is a word. -/
def number (d : Dialect) (c : Char) (rest : List Char) :
    Token × Rest rest :=
  let (digits, r1) : List Char × Rest rest :=
    if c.isDigit then
      let (ds, r) := spanWhile Char.isDigit rest
      (c :: ds, r)
    else ([], Rest.self rest)
  match digits, r1 with
  | ['0'], ⟨'x' :: rx, hx⟩ =>
    let (h, r) := spanWhile isHexDigit rx
    (.hex (String.ofList h), ⟨r.1, r.2.trans ((List.suffix_cons 'x' rx).trans hx)⟩)
  | _, _ =>
    let (withPoint, r2) : List Char × Rest rest :=
      if c == '.' then (['.'], Rest.self rest)
      else
        match r1 with
        | ⟨'.' :: rp, hp⟩ => (digits ++ ['.'], ⟨rp, (List.suffix_cons '.' rp).trans hp⟩)
        | r => (digits, r)
    let (frac, r3) := spanWhile Char.isDigit r2.1
    let r3 : Rest rest := ⟨r3.1, r3.2.trans r2.2⟩
    let s := withPoint ++ frac
    if s == ['.'] then (.sym .period, r3)
    else
    let (expPart, r4) := exponent r3.1
    let r4 : Rest rest := ⟨r4.1, r4.2.trans r3.2⟩
    let s := s ++ expPart
    let more := if d.numericPrefix && expPart.isEmpty then r4.1.takeWhile (d.isIdentPart ·) else []
    if !more.isEmpty then
      (.word (Word.bare (String.ofList (s ++ more))),
        ⟨r4.1.dropWhile (d.isIdentPart ·), (List.dropWhile_suffix _).trans r4.2⟩)
    else
      let (long, r5) := longMark r4.1
      (.number (String.ofList s) long, ⟨r5.1, r5.2.trans r4.2⟩)

/-- A word made of `first` and the identifier characters that follow it. A
word of digits and points alone is a number. -/
def word (d : Dialect) (first : List Char) (cs : List Char) : Token × Rest cs :=
  let (more, r) := spanWhile (d.isIdentPart ·) cs
  let all := first ++ more
  if all.all (fun c => c.isDigit || c == '.') then (.number (String.ofList all) false, r)
  else (.word (Word.bare (String.ofList all)), r)

/-- What one step of the scan read, given the text after its first
character. -/
inductive Step (rest : List Char) where
  /-- blanks or a comment, dropped -/
  | blank (r : Rest rest)
  /-- a token and what follows it -/
  | token (t : Token) (r : Rest rest)
  /-- the text cannot be read on; the message and the offset, from the first
  character, that it points at -/
  | fail (message : String) (at_ : Nat)

/-- A one-character token. -/
def Step.one {rest : List Char} (s : Symbol) : Step rest :=
  .token (.sym s) (Rest.self rest)

/-- A two-character token. -/
def Step.two {d : Char} {r : List Char} (s : Symbol) : Step (d :: r) :=
  .token (.sym s) (Rest.cons (Rest.self r))

/-- A three-character token. -/
def Step.three {d e : Char} {r : List Char} (s : Symbol) : Step (d :: e :: r) :=
  .token (.sym s) (Rest.cons (Rest.cons (Rest.self r)))

/-- A string whose opening quote `q` is already read; an error points `at_`
characters after the first character of the step. -/
def quotedFrom (escapes : Bool) (mk : String → Token) (q : Char) (at_ : Nat)
    (rest : List Char) : Step rest :=
  match quotedBody q escapes rest with
  | some (s, r) => .token (mk (String.ofList s)) r
  | none => .fail "Unterminated string literal" at_

/-- A string, in a dialect where three quotes open a string that runs to three
closing ones, whose first quote `q` is already read; `base` is the offset of
that quote from the first character of the step. Two quotes are an empty
string. An error points just after the opening quotes. -/
def singleOrTriple (escapes : Bool) (mk1 mk3 : String → Token) (q : Char) (base : Nat) :
    (rest : List Char) → Step rest
  | a :: b :: r =>
    if a == q && b == q then
      match tripleBody q escapes 0 r with
      | some (s, r') =>
        .token (mk3 (String.ofList s.dropLast.dropLast)) (Rest.cons (Rest.cons r'))
      | none => .fail "Unterminated string literal" (base + 3)
    else if a == q then .token (mk1 "") (Rest.cons (Rest.self (b :: r)))
    else quotedFrom escapes mk1 q (base + 1) (a :: b :: r)
  | [a] =>
    if a == q then .token (mk1 "") (Rest.cons (Rest.self []))
    else quotedFrom escapes mk1 q (base + 1) [a]
  | [] => quotedFrom escapes mk1 q (base + 1) []

/-- A step read after one more character. -/
def Step.lift {q : Char} {r : List Char} : Step r → Step (q :: r)
  | .token t r' => .token t (Rest.cons r')
  | .blank r' => .blank (Rest.cons r')
  | .fail m n => .fail m n

/-- A string that follows a one-letter prefix: its quote is the head of
`rest`. With `triple`, three quotes open a string that ends at three. -/
def prefixedString (triple escapes : Bool) (mk1 mk3 : Char → String → Token)
    (rest : List Char) : Step rest :=
  match rest with
  | q :: r =>
    if triple then Step.lift (singleOrTriple escapes (mk1 q) (mk3 q) q 1 r)
    else Step.lift (quotedFrom escapes (mk1 q) q 1 r)
  | [] => .fail "Unterminated string literal" 1

/-- The Unicode blanks beyond the four that end tokens in the usual way. -/
def isOtherBlank (c : Char) : Bool :=
  c.isWhitespace || c.val == 0x0B || c.val == 0x0C || c.val == 0x85 || c.val == 0xA0
    || c.val == 0x1680 || (0x2000 ≤ c.val && c.val ≤ 0x200A) || c.val == 0x2028
    || c.val == 0x2029 || c.val == 0x202F || c.val == 0x205F || c.val == 0x3000

/-- The characters that may continue an operator into a custom one. -/
def isOperatorChar (c : Char) : Bool := "+-*/<>=~!@#%^&|`?".toList.contains c

/-- The operator `s`, written `text`, made of the first character of the step
and `k` characters of `rest`; where operators run on, the operator characters
right after it make it a longer custom operator instead. -/
def operator (d : Dialect) (text : String) (s : Symbol) (k : Nat) (rest : List Char) :
    Step rest :=
  let after : Rest rest := ⟨rest.drop k, List.drop_suffix k rest⟩
  if d.customOperators && (after.1.head?.map isOperatorChar).getD false then
    .token (.customOp (text ++ String.ofList (after.1.takeWhile isOperatorChar)))
      ⟨after.1.dropWhile isOperatorChar, (List.dropWhile_suffix _).trans after.2⟩
  else .token (.sym s) after

/-- Reads what follows `#` outside the dialects where it starts a comment. -/
def afterHash (d : Dialect) (rest : List Char) : Step rest :=
  match rest with
  | '-' :: t => operator d "#-" .hashMinus 1 ('-' :: t)
  | '>' :: '>' :: t => operator d "#>>" .hashLongArrow 2 ('>' :: '>' :: t)
  | '>' :: t => operator d "#>" .hashArrow 1 ('>' :: t)
  | ' ' :: _ => Step.one .sharp
  | s :: r =>
    if d.isIdentStart '#' then
      let (t, q) := word d ['#', s] r
      .token t (Rest.cons q)
    else operator d "#" .sharp 0 (s :: r)
  | [] => Step.one .sharp

/-- Reads what follows `@`. -/
def afterAt (d : Dialect) (rest : List Char) : Step rest :=
  match rest with
  | '>' :: _ => Step.two .atArrow
  | '?' :: _ => Step.two .atQuestion
  | '@' :: ' ' :: _ => Step.two .atAt
  | '@' :: t :: r =>
    if d.isIdentStart '@' then
      let (tok, q) := word d ['@', '@', t] r
      .token tok (Rest.cons (Rest.cons q))
    else Step.two .atAt
  | '@' :: [] => Step.two .atAt
  | ' ' :: _ | '\'' :: _ | '"' :: _ | '`' :: _ => Step.one .atSign
  | s :: r =>
    if d.isIdentStart '@' then
      let (t, q) := word d ['@', s] r
      .token t (Rest.cons q)
    else Step.one .atSign
  | [] => Step.one .atSign

/-- Reads what follows `?`: in PostgreSQL an operator, which takes the
character after it along; elsewhere a placeholder with the digits that
follow. -/
def afterQuestion (d : Dialect) (rest : List Char) : Step rest :=
  if d == .postgresql then
    match rest with
    | '|' :: _ => Step.two .questionPipe
    | '&' :: _ => Step.two .questionAnd
    | _ :: _ => Step.two .question
    | [] => Step.one .question
  else
    let (ds, q) := spanWhile isNumeric rest
    .token (.placeholder ("?" ++ String.ofList ds)) q

/-- Reads a symbol that starts with `c`, or else a word, a `$` form, a blank or
a lone character. -/
def symbolOrOther (d : Dialect) (c : Char) (rest : List Char) : Step rest :=
  match c, rest with
  | '(', _ => Step.one .lParen
  | ')', _ => Step.one .rParen
  | ',', _ => Step.one .comma
  | '-', '-' :: r => .blank (Rest.cons (lineComment r))
  | '-', '>' :: '>' :: t => operator d "->>" .longArrow 2 ('>' :: '>' :: t)
  | '-', '>' :: t => operator d "->" .arrow 1 ('>' :: t)
  | '-', r => operator d "-" .minus 0 r
  | '/', '*' :: r =>
    match blockComment d.nestedComments 0 r with
    | some r' => .blank (Rest.cons r')
    | none => .fail "Unexpected EOF while in a multi-line comment" (2 + r.length)
  | '/', '/' :: r =>
    if d == .snowflake then .blank (Rest.cons (lineComment r))
    else if d.slashSlashDivides then Step.two .intDiv
    else Step.one .div
  | '/', _ => Step.one .div
  | '+', _ => Step.one .plus
  | '*', _ => Step.one .mul
  | '%', r => operator d "%" .mod 0 r
  | '|', '/' :: t => operator d "|/" .squareRoot 1 ('/' :: t)
  | '|', '|' :: '/' :: t => operator d "||/" .cubeRoot 2 ('|' :: '/' :: t)
  | '|', '|' :: t => operator d "||" .concat 1 ('|' :: t)
  | '|', r => operator d "|" .pipe 0 r
  | '=', '>' :: _ => Step.two .rArrow
  | '=', '=' :: _ => Step.two .doubleEq
  | '=', _ => Step.one .eq
  | '!', '=' :: _ => Step.two .neq
  | '!', '!' :: _ => Step.two .doubleBang
  | '!', '~' :: '*' :: _ => Step.three .bangTildeStar
  | '!', '~' :: '~' :: '*' :: r =>
    .token (.sym .bangDoubleTildeStar) (Rest.cons (Rest.cons (Rest.cons (Rest.self r))))
  | '!', '~' :: '~' :: _ => Step.three .bangDoubleTilde
  | '!', '~' :: _ => Step.two .bangTilde
  | '!', _ => Step.one .bang
  | '<', '=' :: '>' :: t => operator d "<=>" .spaceship 2 ('=' :: '>' :: t)
  | '<', '=' :: t => operator d "<=" .ltEq 1 ('=' :: t)
  | '<', '>' :: t => operator d "<>" .neq 1 ('>' :: t)
  | '<', '<' :: t => operator d "<<" .shiftLeft 1 ('<' :: t)
  | '<', '@' :: t => operator d "<@" .arrowAt 1 ('@' :: t)
  | '<', r => operator d "<" .lt 0 r
  | '>', '=' :: t => operator d ">=" .gtEq 1 ('=' :: t)
  | '>', '>' :: t => operator d ">>" .shiftRight 1 ('>' :: t)
  | '>', r => operator d ">" .gt 0 r
  | ':', ':' :: _ => Step.two .doubleColon
  | ':', '=' :: _ => Step.two .assignment
  | ':', _ => Step.one .colon
  | ';', _ => Step.one .semicolon
  | '\\', _ => Step.one .backslash
  | '[', _ => Step.one .lBracket
  | ']', _ => Step.one .rBracket
  | '&', '&' :: t => operator d "&&" .overlap 1 ('&' :: t)
  | '&', r => operator d "&" .ampersand 0 r
  | '^', '@' :: _ => Step.two .caretAt
  | '^', _ => Step.one .caret
  | '{', _ => Step.one .lBrace
  | '}', _ => Step.one .rBrace
  | '~', '*' :: t => operator d "~*" .tildeStar 1 ('*' :: t)
  | '~', '~' :: '*' :: t => operator d "~~*" .doubleTildeStar 2 ('~' :: '*' :: t)
  | '~', '~' :: t => operator d "~~" .doubleTilde 1 ('~' :: t)
  | '~', r => operator d "~" .tilde 0 r
  | '#', r => if d.hashComments then .blank (lineComment r) else afterHash d r
  | '@', r => afterAt d r
  | '?', r => afterQuestion d r
  | _, other =>
    if d.isIdentStart c then
      let (t, r) := word d [c] other
      .token t r
    else if c == '$' then
      match dollar d other with
      | .ok (t, r) => .token t r
      | .error m => .fail m (1 + other.length)
    else if isOtherBlank c then .blank (Rest.self other)
    else .token (.char c) (Rest.self other)

/-- What follows `[` where it may open an identifier that holds a quoted one:
after blanks, a double quote (`some true`), or a character that starts an
identifier (`some false`, a plain bracketed identifier); `none` otherwise. -/
def bracketOpens (d : Dialect) (rest : List Char) : Option Bool :=
  match rest.dropWhile isOtherBlank with
  | c :: _ => if c == '"' then some true else if d.isIdentStart c then some false else none
  | [] => none

/-- An identifier in brackets that holds a quoted one, `[ "name" ]`, after its
`[`: the word keeps the inner quotes and is quoted by the bracket. -/
def nestedBracket (rest : List Char) : Step rest :=
  let (blanks, r1) := spanWhile isOtherBlank rest
  match r1 with
  | ⟨'"' :: r2, h2⟩ =>
    let (s, r3, ok) := identBody '"' r2
    if !ok then .fail "Expected close delimiter '\"' before EOF." (1 + blanks.length)
    else
      match spanWhile isOtherBlank r3.1 with
      | (_, ⟨']' :: r5, h5⟩) =>
        .token (.word (Word.quoted ("\"" ++ String.ofList s ++ "\"") '['))
          ⟨r5, (List.suffix_cons _ _).trans (h5.trans (r3.2.trans ((List.suffix_cons _ _).trans h2)))⟩
      | _ => .fail "Expected close delimiter ']' before EOF." 0
  | _ => .fail "Expected nested delimiter '\"' before EOF." 0

/-- Reads the token, blank run or comment that starts with `c`. -/
def step (d : Dialect) (c : Char) (rest : List Char) : Step rest :=
  let nextIs (x : Char) : Bool := rest.head? == some x
  if c == ' ' || c == '\t' || c == '\n' then .blank (Rest.self rest)
  else if c == '\r' then
    match rest with
    | '\n' :: r => .blank (Rest.cons (Rest.self r))
    | other => .blank (Rest.self other)
  else if (c == 'B' || c == 'b') && d.byteStrings && (nextIs '\'' || nextIs '"') then
    prefixedString d.tripleQuotedStrings false (fun q s => .bytes s (q == '"'))
      (fun q s => .tripleQuoted "B" s (q == '"')) rest
  else if (c == 'R' || c == 'r') && d.rawStrings && (nextIs '\'' || nextIs '"') then
    prefixedString true false (fun q s => .raw s (q == '"'))
      (fun q s => .tripleQuoted "R" s (q == '"')) rest
  else if (c == 'N' || c == 'n') && nextIs '\'' then
    prefixedString false true (fun _ s => .national s) (fun _ s => .national s) rest
  else if (c == 'E' || c == 'e') && d.escapeStrings && nextIs '\'' then
    match rest with
    | _ :: r =>
      match escapedBody r with
      | some (s, r') => .token (.escaped (String.ofList s)) (Rest.cons r')
      | none => .fail "Unterminated encoded string literal" 0
    | [] => .fail "Unterminated encoded string literal" 0
  else if (c == 'U' || c == 'u') && d.unicodeStrings && rest.take 2 == ['&', '\''] then
    match rest with
    | _ :: _ :: r =>
      match unicodeBody r with
      | .ok (s, q) => .token (.unicode (String.ofList s)) (Rest.cons (Rest.cons q))
      | .error (m, k) => .fail m (3 + k)
    | _ => .fail unicodeUnterminated 0
  else if (c == 'X' || c == 'x') && nextIs '\'' then
    prefixedString false true (fun _ s => .hex s) (fun _ s => .hex s) rest
  else if c == '\'' then
    if d.tripleQuotedStrings then
      singleOrTriple d.backslashEscapes .singleQuoted (.tripleQuoted "" · false) '\'' 0 rest
    else quotedFrom d.backslashEscapes .singleQuoted '\'' 0 rest
  else if c == '"' && !d.isDelimitedIdentStart '"' && !d.isIdentStart '"' then
    if d.tripleQuotedStrings then
      singleOrTriple d.backslashEscapes .doubleQuoted (.tripleQuoted "" · true) '"' 0 rest
    else quotedFrom d.backslashEscapes .doubleQuoted '"' 0 rest
  else if d.isDelimitedIdentStart c then
    let close := Word.closingQuote c
    let (s, r, ok) := identBody close rest
    if ok then .token (.word (Word.quoted (String.ofList s) c)) r
    else .fail ("Expected close delimiter '" ++ String.singleton close ++ "' before EOF.") 0
  else if c == '[' && d.nestedBracketQuotes && (bracketOpens d rest).isSome then
    if bracketOpens d rest == some true then nestedBracket rest
    else
      let (s, r, ok) := identBody ']' rest
      if ok then .token (.word (Word.quoted (String.ofList s) '[')) r
      else .fail "Expected close delimiter ']' before EOF." 0
  else if c.isDigit || c == '.' then
    let (t, r) := number d c rest
    .token t r
  else symbolOrOther d c rest

/-- Reads tokens from `cs` until it is empty. `base` is the offset of `cs` in
the whole text, and `spaced` tells whether a blank or a comment was just
read. -/
def scanFrom (d : Dialect) (base : Nat) (spaced : Bool) (acc : Array Lexeme) :
    (cs : List Char) → Except LexError (Array Lexeme)
  | [] => .ok acc
  | c :: rest =>
    match step d c rest with
    | .blank r =>
      have : r.1.length < (c :: rest).length :=
        Nat.lt_succ_of_le r.2.length_le
      scanFrom d (base + (c :: rest).length - r.1.length) true acc r.1
    | .token t r =>
      have : r.1.length < (c :: rest).length :=
        Nat.lt_succ_of_le r.2.length_le
      scanFrom d (base + (c :: rest).length - r.1.length) false
        (acc.push { token := t, offset := base, spaced }) r.1
    | .fail m n => .error { message := m, offset := base + n }
termination_by cs => cs.length
decreasing_by all_goals (simp only [List.length_cons] at *; omega)

end Lexer

/-- The tokens of `text` read in dialect `d`, blanks and comments dropped. -/
def tokenize (d : Dialect) (text : String) : Except LexError (Array Lexeme) :=
  Lexer.scanFrom d 0 false #[] text.toList

end ColumnLineage.Sql
