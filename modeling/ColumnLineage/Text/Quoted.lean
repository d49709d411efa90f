import ColumnLineage.Text.Printable
/-
ColumnLineage/Text/Quoted.lean

How text is written back between quotes in SQL. Inside quotes `q`, a quote
is written twice, so that it does not end the text, with two exceptions that
make the rule safe to apply to text that may already be written that way: a
quote right after a backslash is written once, and a quote followed by a
second quote is taken as already doubled, the pair written as it stands.

Messages show a string in double quotes with its quotes, backslashes and
characters that are not printable escaped.
-/

namespace ColumnLineage.Text

/-- Doubles the quotes `q` in `cs`; `prev` is the character written before.
A quote after a backslash is kept single and keeps the backslash as the
character before; a quote pair is written as one pair. -/
def doubleQuotesAfter (q : Char) (prev : Char) : List Char → List Char
  | [] => []
  | c :: rest =>
    if c == q then
      if prev == '\\' then q :: doubleQuotesAfter q prev rest
      else
        match rest with
        | d :: rest' =>
          if d == q then q :: q :: doubleQuotesAfter q c rest'
          else q :: q :: doubleQuotesAfter q c (d :: rest')
        | [] => [q, q]
    else c :: doubleQuotesAfter q c rest

/-- The text `s` as written between quotes `q`. -/
def doubleQuotes (q : Char) (s : String) : String :=
  String.ofList (doubleQuotesAfter q (Char.ofNat 0) s.toList)

/-- The text of an `E'...'` string: quote, backslash, line feed, tab and
carriage return are written as backslash escapes. -/
def backslashEscape (s : String) : String :=
  String.join (s.toList.map fun c =>
    match c with
    | '\'' => "\\'"
    | '\\' => "\\\\"
    | '\n' => "\\n"
    | '\t' => "\\t"
    | '\r' => "\\r"
    | c => String.singleton c)

/-- Hexadecimal digits of `n` in upper case, padded with zeros to `width`. -/
def upperHex (width n : Nat) : String :=
  let ds := (Nat.toDigits 16 n).map Char.toUpper
  String.ofList (List.replicate (width - ds.length) '0' ++ ds)

/-- The text of a `U&'...'` string: a quote and a backslash are written
twice, other ASCII as it stands, and any other character as a backslash and
four hexadecimal digits, or as `\+` and six beyond the first plane. -/
def unicodeEscape (s : String) : String :=
  String.join (s.toList.map fun c =>
    if c == '\'' then "''"
    else if c == '\\' then "\\\\"
    else if c.val < 128 then String.singleton c
    else if c.val ≤ 0xFFFF then "\\" ++ upperHex 4 c.val.toNat
    else "\\+" ++ upperHex 6 c.val.toNat)

/-- A character as it is shown inside a quoted string: the null character,
tab, line breaks, the quote and the backslash by backslash escapes, every
other character that is not printable (`isPrintable`) by its code point in
lower case hexadecimal, and the rest as it stands. -/
def debugChar (c : Char) : String :=
  match c with
  | '\t' => "\\t" | '\r' => "\\r" | '\n' => "\\n" | '\\' => "\\\\" | '"' => "\\\""
  | c =>
    if c.toNat == 0 then "\\0"
    else if !isPrintable c then
      "\\u\x7b" ++ String.ofList (Nat.toDigits 16 c.toNat) ++ "\x7d"
    else String.singleton c

/-- A string in double quotes with its special characters escaped. -/
def debugString (s : String) : String :=
  "\"" ++ String.join (s.toList.map debugChar) ++ "\""

end ColumnLineage.Text
