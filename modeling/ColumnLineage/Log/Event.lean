/-
ColumnLineage/Log/Event.lean

Events logged while a run goes on, and what of them is left in a run's
outcome.

An event has a level, a target that names the part of the program that
logs it, a message and fields. It is written on standard error as one
record: a time stamp, the level, the target, then the message and each
field as `name=value`, separated by blanks. Most values are shown quoted,
with their line breaks escaped, but some are shown as plain text, and those
may hold line breaks: a record can then run over several lines. Plain text
keeps its line breaks but not the characters that steer a terminal, which
are written as escapes (`terminalSafe`).

The first line of a record carries its time stamp, and lines that begin
with a time stamp are not part of a run's outcome; the later lines of a
record are, unless they too happen to begin with a time stamp. So the text
an event leaves (`Event.keptLines`) is its record's lines after the first.
-/

namespace ColumnLineage.Log

/-- How severe an event is, from `error`, the most severe, to `trace`. -/
inductive Level where
  | error | warn | info | debug | trace
  deriving DecidableEq, Repr, Inhabited

/-- The rank of a level: 1 for `error` up to 5 for `trace`. A filter that
lets a rank through lets every smaller rank through too; rank 0 is `off`. -/
def Level.rank : Level → Nat
  | .error => 1 | .warn => 2 | .info => 3 | .debug => 4 | .trace => 5

/-- An event: its level, its target, its message and the fields it shows,
each with its value as written. `hidden` names fields the event carries but
does not show; filters that ask for fields by name see them too. -/
structure Event where
  level : Level
  target : String
  message : String
  fields : List (String × String) := []
  hidden : List String := []
  deriving DecidableEq, Repr, Inhabited

/-- The names of every field of an event, its message included. -/
def Event.fieldNames (e : Event) : List String :=
  "message" :: e.fields.map (·.1) ++ e.hidden

/-- Text as a record writes it: the characters that steer a terminal are
written as escapes, escape, bell, backspace, form feed and delete as `\x1b`,
`\x07`, `\x08`, `\x0c` and `\x7f`, and the controls from U+0080 to U+009F
by their code point in braces. Line breaks and tabs stand as they are. -/
def terminalSafe (s : String) : String :=
  String.join (s.toList.map fun c =>
    match c with
    | '\x1b' => "\\x1b" | '\x07' => "\\x07" | '\x08' => "\\x08" | '\x0c' => "\\x0c"
    | '\x7f' => "\\x7f"
    | c =>
      if 0x80 ≤ c.toNat && c.toNat ≤ 0x9F then
        "\\u\x7b" ++ String.ofList (Nat.toDigits 16 c.toNat) ++ "\x7d"
      else String.singleton c)

/-- The text of a record after its level and target: the message, then each
field as `name=value`, separated by blanks, message and values made safe for
a terminal. -/
def Event.text (e : Event) : String :=
  terminalSafe e.message ++
    String.join (e.fields.map fun (n, v) => " " ++ n ++ "=" ++ terminalSafe v)

/-- Whether `cs` starts with `n` decimal digits. -/
def digitsAhead : Nat → List Char → Bool
  | 0, _ => true
  | n + 1, c :: cs => c.isDigit && digitsAhead n cs
  | _ + 1, [] => false

/-- Whether a line begins with a time stamp in the form of RFC 3339:
`YYYY-MM-DDTHH:MM:SS`. -/
def startsWithTimestamp (line : String) : Bool :=
  let cs := line.toList
  digitsAhead 4 cs && cs[4]? == some '-' && digitsAhead 2 (cs.drop 5) && cs[7]? == some '-' &&
    digitsAhead 2 (cs.drop 8) && (cs[10]? == some 'T' || cs[10]? == some 't') &&
    digitsAhead 2 (cs.drop 11) && cs[13]? == some ':' && digitsAhead 2 (cs.drop 14) &&
    cs[16]? == some ':' && digitsAhead 2 (cs.drop 17)

/-- What a record leaves in a run's outcome: its lines after the first,
each ended by a line break, but for those that begin with a time stamp. -/
def Event.keptLines (e : Event) : String :=
  String.join ((((e.text.splitOn "\n").drop 1).filter (!startsWithTimestamp ·)).map (· ++ "\n"))

end ColumnLineage.Log
