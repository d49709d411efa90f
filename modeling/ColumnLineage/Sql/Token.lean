import ColumnLineage.Sql.Keyword
/-
ColumnLineage/Sql/Token.lean

The tokens of SQL text: words (bare or quoted), numbers, the several kinds of
string literal, and the operator and punctuation symbols. Each token knows how
it is written back, which is the text that error messages quote after
"found:". A token read from text also carries the character offset where it
starts, from which the line and column of an error are computed.
-/

namespace ColumnLineage.Sql

/-- A word of SQL text: its characters, the quote around it when it was
delimited, and, for a bare word, the keyword it stands for. -/
structure Word where
  value : String
  quote : Option Char := none
  keyword : Option String := none
  deriving DecidableEq, Repr, Inhabited

namespace Word

/-- A bare word, with its keyword looked up. -/
def bare (value : String) : Word :=
  { value, quote := none, keyword := Keyword.ofWord value }

/-- A delimited word: never a keyword. -/
def quoted (value : String) (q : Char) : Word :=
  { value, quote := some q, keyword := none }

/-- Whether the word is the keyword `k`. -/
def isKw (w : Word) (k : String) : Bool := w.keyword == some k

/-- The quote that closes a delimited word opened by `q`. -/
def closingQuote (q : Char) : Char := if q == '[' then ']' else q

/-- How a word is written in a message: delimited words keep their quotes,
unescaped. -/
def text (w : Word) : String :=
  match w.quote with
  | some q => String.singleton q ++ w.value ++ String.singleton (closingQuote q)
  | none => w.value

end Word

/-- The operator and punctuation symbols of SQL. -/
inductive Symbol where
  | comma | doubleEq | eq | neq | lt | gt | ltEq | gtEq | spaceship
  | plus | minus | mul | div | intDiv | mod | concat
  | lParen | rParen | period | colon | doubleColon | assignment | semicolon | backslash
  | lBracket | rBracket | ampersand | pipe | caret | lBrace | rBrace | rArrow | sharp
  | tilde | tildeStar | bangTilde | bangTildeStar | doubleTilde | doubleTildeStar
  | bangDoubleTilde | bangDoubleTildeStar | shiftLeft | shiftRight | overlap
  | bang | doubleBang | atSign | caretAt | squareRoot | cubeRoot
  | arrow | longArrow | hashArrow | hashLongArrow | atArrow | arrowAt | hashMinus
  | atQuestion | atAt | question | questionAnd | questionPipe
  deriving DecidableEq, Repr, Inhabited

/-- How each symbol is written. -/
def Symbol.text : Symbol → String
  | .comma => "," | .doubleEq => "==" | .eq => "=" | .neq => "<>" | .lt => "<" | .gt => ">"
  | .ltEq => "<=" | .gtEq => ">=" | .spaceship => "<=>" | .plus => "+" | .minus => "-"
  | .mul => "*" | .div => "/" | .intDiv => "//" | .mod => "%" | .concat => "||"
  | .lParen => "(" | .rParen => ")" | .period => "." | .colon => ":" | .doubleColon => "::"
  | .assignment => ":=" | .semicolon => ";" | .backslash => "\\" | .lBracket => "["
  | .rBracket => "]" | .ampersand => "&" | .pipe => "|" | .caret => "^" | .lBrace => "\x7b"
  | .rBrace => "\x7d" | .rArrow => "=>" | .sharp => "#" | .tilde => "~" | .tildeStar => "~*"
  | .bangTilde => "!~" | .bangTildeStar => "!~*" | .doubleTilde => "~~"
  | .doubleTildeStar => "~~*" | .bangDoubleTilde => "!~~" | .bangDoubleTildeStar => "!~~*"
  | .shiftLeft => "<<" | .shiftRight => ">>" | .overlap => "&&" | .bang => "!"
  | .doubleBang => "!!" | .atSign => "@" | .caretAt => "^@" | .squareRoot => "|/"
  | .cubeRoot => "||/" | .arrow => "->" | .longArrow => "->>" | .hashArrow => "#>"
  | .hashLongArrow => "#>>" | .atArrow => "@>" | .arrowAt => "<@" | .hashMinus => "#-"
  | .atQuestion => "@?" | .atAt => "@@" | .question => "?" | .questionAnd => "?&"
  | .questionPipe => "?|"

/-- The name of each symbol in messages that name a token by its kind. -/
def Symbol.kindName : Symbol → String
  | .comma => "Comma" | .doubleEq => "DoubleEq" | .eq => "Eq" | .neq => "Neq" | .lt => "Lt"
  | .gt => "Gt" | .ltEq => "LtEq" | .gtEq => "GtEq" | .spaceship => "Spaceship"
  | .plus => "Plus" | .minus => "Minus" | .mul => "Mul" | .div => "Div"
  | .intDiv => "DuckIntDiv" | .mod => "Mod" | .concat => "StringConcat" | .lParen => "LParen"
  | .rParen => "RParen" | .period => "Period" | .colon => "Colon" | .doubleColon => "DoubleColon"
  | .assignment => "Assignment" | .semicolon => "SemiColon" | .backslash => "Backslash"
  | .lBracket => "LBracket" | .rBracket => "RBracket" | .ampersand => "Ampersand"
  | .pipe => "Pipe" | .caret => "Caret" | .lBrace => "LBrace" | .rBrace => "RBrace"
  | .rArrow => "RArrow" | .sharp => "Sharp" | .tilde => "Tilde" | .tildeStar => "TildeAsterisk"
  | .bangTilde => "ExclamationMarkTilde" | .bangTildeStar => "ExclamationMarkTildeAsterisk"
  | .doubleTilde => "DoubleTilde" | .doubleTildeStar => "DoubleTildeAsterisk"
  | .bangDoubleTilde => "ExclamationMarkDoubleTilde"
  | .bangDoubleTildeStar => "ExclamationMarkDoubleTildeAsterisk"
  | .shiftLeft => "ShiftLeft" | .shiftRight => "ShiftRight" | .overlap => "Overlap"
  | .bang => "ExclamationMark" | .doubleBang => "DoubleExclamationMark" | .atSign => "AtSign"
  | .caretAt => "CaretAt" | .squareRoot => "PGSquareRoot" | .cubeRoot => "PGCubeRoot"
  | .arrow => "Arrow" | .longArrow => "LongArrow" | .hashArrow => "HashArrow"
  | .hashLongArrow => "HashLongArrow" | .atArrow => "AtArrow" | .arrowAt => "ArrowAt"
  | .hashMinus => "HashMinus" | .atQuestion => "AtQuestion" | .atAt => "AtAt"
  | .question => "Question" | .questionAnd => "QuestionAnd" | .questionPipe => "QuestionPipe"

/-- A token of SQL text. -/
inductive Token where
  | eof
  | word (w : Word)
  | number (digits : String) (long : Bool)
  | char (c : Char)
  | singleQuoted (s : String)
  | doubleQuoted (s : String)
  | national (s : String)
  | escaped (s : String)
  | hex (s : String)
  | bytes (s : String) (double : Bool)
  | raw (s : String) (double : Bool)
  /-- a string between three quotes, after the prefix `kind` (empty, `B` or
  `R`); `double` for double quotes -/
  | tripleQuoted (kind : String) (s : String) (double : Bool)
  | dollarQuoted (value : String) (tag : Option String)
  /-- a `U&'...'` string, its escapes read -/
  | unicode (s : String)
  | placeholder (s : String)
  | sym (s : Symbol)
  /-- an operator made of operator characters that has no symbol of its own,
  such as `<->` -/
  | customOp (s : String)
  deriving DecidableEq, Repr, Inhabited

namespace Token

private def q1 (s : String) : String := "'" ++ s ++ "'"
private def q2 (s : String) : String := "\"" ++ s ++ "\""

/-- How a token is written in a message. -/
def text : Token → String
  | .eof => "EOF"
  | .word w => w.text
  | .number n l => if l then n ++ "L" else n
  | .char c => String.singleton c
  | .singleQuoted s => q1 s
  | .doubleQuoted s => q2 s
  | .national s => "N" ++ q1 s
  | .escaped s => "E" ++ q1 s
  | .hex s => "X" ++ q1 s
  | .bytes s d => "B" ++ (if d then q2 s else q1 s)
  | .raw s d => "R" ++ (if d then q2 s else q1 s)
  | .tripleQuoted k s d => k ++ (if d then "\"\"\"" ++ s ++ "\"\"\"" else "'''" ++ s ++ "'''")
  | .dollarQuoted v none => "$$" ++ v ++ "$$"
  | .dollarQuoted v (some t) => "$" ++ t ++ "$" ++ v ++ "$" ++ t ++ "$"
  | .unicode s => "U&" ++ q1 s
  | .placeholder s => s
  | .sym s => s.text
  | .customOp s => s

/-- Whether the token is the keyword `k`. -/
def isKw : Token → String → Bool
  | .word w, k => w.isKw k
  | _, _ => false

end Token

/-- A token with the character offset at which it starts in the text, and
whether a blank or a comment stands right before it. -/
structure Lexeme where
  token : Token
  offset : Nat
  spaced : Bool := false
  deriving Repr, Inhabited

/-- A line and a column of SQL text, both counted from one, the column in
characters. -/
structure Location where
  line : Nat
  column : Nat
  deriving DecidableEq, Repr

/-- The location of the character at `offset`: one line more for each line
feed before it, and the column restarts after each. -/
def Location.ofOffset (text : List Char) (offset : Nat) : Location :=
  (text.take offset).foldl
    (fun loc c => if c == '\n' then { line := loc.line + 1, column := 1 }
      else { loc with column := loc.column + 1 })
    { line := 1, column := 1 }

/-- How a location is appended to a message. -/
def Location.suffix (loc : Location) : String :=
  s!" at Line: {loc.line}, Column: {loc.column}"

end ColumnLineage.Sql
