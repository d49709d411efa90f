import ColumnLineage.Log.Event
import ColumnLineage.Text.Numeric
import ColumnLineage.Text.Words
/-
ColumnLineage/Log/Filter.lean

Which events are written: a filter read from directives separated by
commas, as the `RUST_LOG` environment variable gives them.

A directive is read one character at a time, after the white space at its
ends is trimmed; but the positions found in the trimmed text are used to
cut pieces out of the directive as given, so a directive with leading blanks
is cut a little to the left of what was meant. It is `target[span{field}]=level`
with every part optional:

* it starts with a letter, a digit, `-`, `:`, `_` or `[`; anything else
  makes it unreadable;
* the target runs to the first `=` or `[`, blanks included; a directive
  that is a target alone and reads as a level is a level for every target;
* the span part in brackets names a span, or lists one field in braces; this
  program logs no spans, so a span part with a name, even an empty one in
  `[]`, never applies, nor does a field with `=value`;
* the level after `=` is any text a level filter reads, and nothing after
  `=` means `trace`; no `=` at all also means `trace`.

Levels are `off`, `error`, `warn`, `info`, `debug` and `trace`, in any case,
or a number from 0 to 5 with an optional `+` and leading zeros.

An event is written when the first directive that applies to it, most
specific first, lets its level through: a longer target is more specific,
and so is one with more field names. No directive that applies means the
event is not written.

Empty directives are skipped. One that cannot be read makes the whole text
unusable, and the default takes its place: `warn` for every target, or
`debug` under `--verbose`. An empty text has no directives and writes
nothing.
-/

namespace ColumnLineage.Log

/-- A directive that can apply to events: the target it starts, if any, the
fields an event must carry, and the highest rank it lets through. -/
structure Directive where
  target : Option String
  fields : List String
  rank : Nat
  deriving DecidableEq, Repr, Inhabited

/-- The number a run of decimal digits, with an optional leading `+`,
stands for. -/
def unsignedValue? (s : String) : Option Nat :=
  let digits := match s.toList with
    | '+' :: rest => rest
    | cs => cs
  if !digits.isEmpty && digits.all Char.isDigit then
    some (digits.foldl (fun n c => 10 * n + (c.toNat - '0'.toNat)) 0)
  else none

/-- The rank a word names as a level filter: a number from 0 (`off`) to 5
(`trace`), or a level's name in any case; the empty word names `error`. -/
def levelRank? (s : String) : Option Nat :=
  match unsignedValue? s with
  | some n => if n ≤ 5 then some n else none
  | none =>
    match s.toLower with
    | "" => some 1
    | "off" => some 0 | "error" => some 1 | "warn" => some 2 | "info" => some 3
    | "debug" => some 4 | "trace" => some 5
    | _ => none

/-- Where the reader of a directive stands; each offset is the byte at which
the piece being read began. -/
inductive ScanState where
  | start
  | levelOrTarget (offset : Nat)
  | span (offset : Nat)
  | field (offset : Nat)
  | fieldsRead
  | afterSpan
  | level (offset : Nat)
  deriving DecidableEq, Repr, Inhabited

/-- What the reader of a directive has found so far. -/
structure DirectiveScan where
  state : ScanState := .start
  target : Option String := none
  inSpan : Option String := none
  fields : List String := []
  deriving Repr, Inhabited

/-- The piece of a text between two byte offsets, or `none` when an offset
falls inside a character. -/
def cut (text : ByteArray) (lo hi : Nat) : Option String :=
  if lo ≤ hi && hi ≤ text.size then String.fromUTF8? (text.extract lo hi) else none

/-- One step of the reader: the character `c`, found at byte `i` of the
trimmed directive, read in the directive `text` as given. `none` when the
directive cannot be read. -/
def scanStep (text : ByteArray) (s : DirectiveScan) (i : Nat) (c : Char) :
    Option DirectiveScan :=
  match s.state with
  | .start =>
    if c == '[' then some { s with state := .span (i + 1) }
    else if c == '-' || c == ':' || c == '_' || Text.isAlphanumeric c then
      some { s with state := .levelOrTarget i }
    else none
  | .levelOrTarget o =>
    if c == '=' then (cut text o i).map fun t => { s with target := some t, state := .level (i + 1) }
    else if c == '[' then
      (cut text o i).map fun t => { s with target := some t, state := .span (i + 1) }
    else some s
  | .span o =>
    if c == ']' then (cut text o i).map fun n => { s with inSpan := some n, state := .afterSpan }
    else if c == '\x7b' then
      (cut text o i).map fun n =>
        { s with inSpan := if n.isEmpty then none else some n, state := .field (i + 1) }
    else some s
  | .field o =>
    if c == '\x7d' then
      match cut text o i with
      | some f => if f.isEmpty then none else some { s with fields := s.fields ++ [f], state := .fieldsRead }
      | none => none
    else some s
  | .fieldsRead => if c == ']' then some { s with state := .afterSpan } else none
  | .afterSpan => if c == '=' then some { s with state := .level (i + 1) } else none
  | .level _ => some s

/-- The directive a finished reading makes with the level `rank`: `none`
when it names a span or a field value, for then it never applies here. -/
def DirectiveScan.directive (s : DirectiveScan) (rank : Nat) : Option Directive :=
  if s.inSpan.isSome || s.fields.any (·.contains '=') then none
  else some { target := s.target, fields := s.fields, rank }

/-- The end of a reading: a target alone, which may be a level for every
target; a level after `=`, where nothing means `trace`; or a span part.
`none` when the directive cannot be read. -/
def scanEnd (text : ByteArray) (s : DirectiveScan) : Option (Option Directive) :=
  match s.state with
  | .levelOrTarget o =>
    (cut text o text.size).map fun t =>
      if t.isEmpty then some { target := none, fields := [], rank := 5 }
      else match levelRank? t with
        | some r => some { target := none, fields := [], rank := r }
        | none => { s with target := some t }.directive 5
  | .level o =>
    match cut text o text.size with
    | some l =>
      if l.isEmpty then some (s.directive 5) else (levelRank? l).map s.directive
    | none => none
  | .afterSpan => some (s.directive 5)
  | _ => none

/-- Reads one directive; `none` when it cannot be read, `some none` when it
can but never applies to an event of this program. -/
def parseDirective (directive : String) : Option (Option Directive) :=
  let text := directive.toUTF8
  let rec go : List Char → Nat → DirectiveScan → Option DirectiveScan
    | [], _, s => some s
    | c :: cs, i, s => (scanStep text s i c).bind (go cs (i + c.utf8Size))
  (go (Text.trimWhiteSpace directive).toList 0 {}).bind (scanEnd text)

/-- Whether directive `a` is more specific than `b`: a longer target, then
more field names, then the greater target and field names. -/
def Directive.before (a b : Directive) : Bool :=
  let ta := a.target.map String.length
  let tb := b.target.map String.length
  if ta != tb then
    match ta, tb with
    | some x, some y => x > y
    | some _, none => true
    | _, _ => false
  else if a.fields.length != b.fields.length then a.fields.length > b.fields.length
  else if a.target != b.target then
    match a.target, b.target with
    | some x, some y => decide (y < x)
    | _, _ => false
  else decide (b.fields < a.fields)

/-- Adds a directive to a list kept most specific first; one with the same
target and fields as a directive already there takes its place. -/
def insertDirective (d : Directive) : List Directive → List Directive
  | [] => [d]
  | e :: es =>
    if e.target == d.target && e.fields == d.fields then d :: es
    else if d.before e then d :: e :: es
    else e :: insertDirective d es

/-- A filter: its directives that can apply, most specific first. -/
structure Filter where
  directives : List Directive
  deriving DecidableEq, Repr, Inhabited

/-- Reads a filter; `none` when a directive cannot be read. -/
def Filter.parse? (text : String) : Option Filter :=
  if text.isEmpty then some { directives := [] }
  else
    let read := ((text.splitOn ",").filter (!·.isEmpty)).mapM parseDirective
    read.map fun ds => { directives := ds.reduceOption.foldl (fun acc d => insertDirective d acc) [] }

/-- The filter that lets through every event up to `rank`. -/
def Filter.upTo (rank : Nat) : Filter :=
  { directives := [{ target := none, fields := [], rank }] }

/-- The filter of a run: the one `RUST_LOG` gives when it is set and can be
read, else `debug` under `--verbose` and `warn` without it. -/
def Filter.ofSetting (setting : Option String) (verbose : Bool) : Filter :=
  let fallback := Filter.upTo (if verbose then Level.debug.rank else Level.warn.rank)
  match setting with
  | some text => (Filter.parse? text).getD fallback
  | none => fallback

/-- Whether a directive applies to an event: the event's target starts with
the directive's, and the event carries every field the directive names. -/
def Directive.applies (d : Directive) (e : Event) : Bool :=
  (match d.target with
    | some t => t.isPrefixOf e.target
    | none => true) &&
  d.fields.all (e.fieldNames.contains ·)

/-- Whether a filter writes an event: the first directive that applies lets
its level through. -/
def Filter.writes (f : Filter) (e : Event) : Bool :=
  match f.directives.find? (·.applies e) with
  | some d => e.level.rank ≤ d.rank
  | none => false

/-- What the events written by a filter leave in a run's outcome. -/
def Filter.kept (f : Filter) (events : List Event) : String :=
  String.join ((events.filter f.writes).map Event.keptLines)

end ColumnLineage.Log
