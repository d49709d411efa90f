import ColumnLineage.Config.Basic
import ColumnLineage.Text.Float
import ColumnLineage.Text.Quoted
import ColumnLineage.Yaml.Events
/-
ColumnLineage/Config/Yaml.lean

Reading the settings from a YAML document.

The document is read as a stream of events, and the settings are taken
from it field by field: `dialect` a string, `max_depth` a non-negative
integer, `tables` a sequence of tables, each with an optional `database`,
a required `name` and a sequence of `columns`. Keys that name no field are
skipped; a field given twice is refused. A field left out, or a collection
written as nothing at all, takes its default.

A failure names the path of the value it is about (`tables[0].name`), what
was expected and what was found, and the line and column where the value
starts. A scalar that was not expected is described by what it reads as:
null, a boolean, an integer, a floating-point number, or else a string;
quoted scalars are always strings. A failure of the YAML text itself is
reported only if reading the settings did not fail first on the events
before it.
-/

namespace ColumnLineage

open Yaml

/-- The events of a document and the failure that ended them early, if any. -/
structure Document where
  events : Array (Event × Mark)
  error : Option Yaml.Error
  deriving Inhabited

/-- Where reading a document stands: the number of events taken, and how
many times an alias has been followed. -/
structure LoadState where
  position : Nat := 0
  jumps : Nat := 0
  deriving Repr, Inhabited

/-- Taking values from a document; a failure is the final message. -/
abbrev Load := ExceptT String (StateM LoadState)

/-- How a value that was not expected reads. -/
inductive Unexpected where
  | unit
  | bool (b : Bool)
  | unsigned (n : Nat)
  | signed (n : Int)
  | wideUnsigned (n : Nat)
  | wideSigned (n : Int)
  | float (text : String)
  | str (s : String)
  | seq
  | map
  deriving Repr, Inhabited

/-- How an unexpected value is named in a message. -/
def Unexpected.render : Unexpected → String
  | .unit => "unit value"
  | .bool b => "boolean `" ++ toString b ++ "`"
  | .unsigned n => "integer `" ++ toString n ++ "`"
  | .signed n => "integer `" ++ toString n ++ "`"
  | .wideUnsigned n => "integer `" ++ toString n ++ "` as u128"
  | .wideSigned n => "integer `" ++ toString n ++ "` as i128"
  | .float t => "floating point `" ++ t ++ "`"
  | .str s => "string " ++ Text.debugString s
  | .seq => "sequence"
  | .map => "map"

/-- The words YAML reads as null. -/
def isNullWord (s : String) : Bool := s == "~" || s == "null" || s == "Null" || s == "NULL"

/-- The words YAML reads as booleans. -/
def boolWord? (s : String) : Option Bool :=
  if s == "true" || s == "True" || s == "TRUE" then some true
  else if s == "false" || s == "False" || s == "FALSE" then some false
  else none

/-- Digits with a leading zero, which YAML reads as a string. -/
def leadingZeroDigits (s : String) : Bool :=
  let cs := match s.toList with
    | '-' :: r => r
    | '+' :: r => r
    | cs => cs
  cs.length > 1 && cs.head? == some '0' && cs.tail.all Char.isDigit

/-- The value of digits in a radix, with an optional leading `+`. -/
def radixValue? (radix : Nat) (s : String) : Option Nat :=
  let cs := match s.toList with
    | '+' :: r => r
    | cs => cs
  let digit := fun (c : Char) =>
    if c.isDigit then some (c.toNat - 48)
    else if 'a' ≤ c && c ≤ 'z' then some (c.toNat - 87)
    else if 'A' ≤ c && c ≤ 'Z' then some (c.toNat - 55)
    else none
  if cs.isEmpty then none
  else cs.foldlM (fun n c => match digit c with
    | some d => if d < radix then some (n * radix + d) else none
    | none => none) 0

/-- An unsigned integer below `bound`: decimal without a leading zero, or
hexadecimal, octal or binary after `0x`, `0o` or `0b`; `+` may lead. -/
def unsignedValue? (bound : Nat) (s : String) : Option Nat :=
  let unpositive := if s.startsWith "+" then s.drop 1 |>.toString else s
  let withPrefix := fun (p : String) (radix : Nat) =>
    if unpositive.startsWith p then
      let rest := (unpositive.drop p.length).toString
      if rest.startsWith "+" || rest.startsWith "-" then some none
      else match radixValue? radix rest with
        | some n => if n < bound then some (some n) else none
        | none => none
    else none
  match withPrefix "0x" 16 with
  | some r => r
  | none => match withPrefix "0o" 8 with
    | some r => r
    | none => match withPrefix "0b" 2 with
      | some r => r
      | none =>
        if unpositive.startsWith "+" || unpositive.startsWith "-" || leadingZeroDigits s then none
        else match radixValue? 10 unpositive with
          | some n => if n < bound then some n else none
          | none => none

/-- A negative integer (or zero) whose magnitude is at most `bound`. -/
def negativeValue? (bound : Nat) (s : String) : Option Int :=
  let withPrefix := fun (p : String) (radix : Nat) =>
    if s.startsWith p then
      match radixValue? radix (s.drop p.length).toString with
      | some n => if (s.drop p.length).toString.startsWith "+" then none
        else if n ≤ bound then some (-(n : Int)) else none
      | none => none
    else none
  match withPrefix "-0x" 16 with
  | some r => some r
  | none => match withPrefix "-0o" 8 with
    | some r => some r
    | none => match withPrefix "-0b" 2 with
      | some r => some r
      | none =>
        if leadingZeroDigits s then none
        else if s.startsWith "-" then
          match radixValue? 10 (s.drop 1).toString with
          | some n => if (s.drop 1).toString.startsWith "+" then none
            else if n ≤ bound then some (-(n : Int)) else none
          | none => none
        else match radixValue? 10 s with
          | some n => if n < bound then some n else none
          | none => none

/-- A floating-point number, as it prints: `.inf`, `-.inf` and `.nan` in
their spellings, or a decimal literal that is finite as a double. -/
def floatText? (s : String) : Option String :=
  let unpositive := if s.startsWith "+" then (s.drop 1).toString else s
  if s.startsWith "+" && (unpositive.startsWith "+" || unpositive.startsWith "-") then none
  else if unpositive == ".inf" || unpositive == ".Inf" || unpositive == ".INF" then some "inf"
  else if s == "-.inf" || s == "-.Inf" || s == "-.INF" then some "-inf"
  else if s == ".nan" || s == ".NaN" || s == ".NAN" then some "NaN"
  else (DecimalLit.parse? unpositive).bind fun d => d.toDouble?.map Double.render

/-- The integer a scalar reads as: within 64 bits if it fits, else within
128 bits. -/
def integerValue? (value : String) : Option Unexpected :=
  match unsignedValue? (Nat.pow 2 64) value with
  | some n => some (.unsigned n)
  | none => match negativeValue? (Nat.pow 2 63) value with
    | some n => some (.signed n)
    | none => match unsignedValue? (Nat.pow 2 128) value with
      | some n => some (.wideUnsigned n)
      | none => (negativeValue? (Nat.pow 2 127) value).map .wideSigned

/-- How a scalar without a tag reads: plain scalars by their text, quoted
ones always as strings. -/
def classifyScalar (value : String) (style : ScalarStyle) : Unexpected :=
  if style != .plain then .str value
  else if value.isEmpty || isNullWord value then .unit
  else match boolWord? value with
  | some b => .bool b
  | none =>
    match integerValue? value with
    | some u => u
    | none =>
      if leadingZeroDigits value then .str value
      else match floatText? value with
        | some t => .float t
        | none => .str value

/-- A tag of the YAML core schema. -/
def coreTag (name : String) : String := "tag:yaml.org,2002:" ++ name

/-- Why a value does not fit: it is of another kind, or its tag asks for a
kind that its text does not spell. -/
inductive Mismatch where
  | kind (found : Unexpected)
  | text (value : String) (wanted : String)
  deriving Repr, Inhabited

/-- The message of a mismatch with what was `expected`. -/
def Mismatch.render (expected : String) : Mismatch → String
  | .kind u => "invalid type: " ++ u.render ++ ", expected " ++ expected
  | .text v wanted => "invalid value: " ++ (Unexpected.str v).render ++ ", expected " ++ wanted

/-- How a scalar reads when it is not what was expected. A core tag for
booleans, integers, floats or null makes it read as that kind, or fail to;
a local tag leaves a plain scalar to read by its text; any other tag makes
it a string. -/
def scalarMismatch (value : String) (style : ScalarStyle) (tag : Option String) : Mismatch :=
  match tag with
  | none => .kind (classifyScalar value style)
  | some t =>
    if t == coreTag "bool" then
      match boolWord? value with
      | some b => .kind (.bool b)
      | none => .text value "a boolean"
    else if t == coreTag "int" then
      match integerValue? value with
      | some u => .kind u
      | none => .text value "an integer"
    else if t == coreTag "float" then
      match floatText? value with
      | some f => .kind (.float f)
      | none => .text value "a float"
    else if t == coreTag "null" then
      if isNullWord value then .kind .unit else .text value "null"
    else if t.startsWith "!" && style == .plain then .kind (classifyScalar value .plain)
    else .kind (.str value)

/-- How an event that was not expected reads. -/
def eventMismatch : Event → Mismatch
  | .scalar v style _ tag => scalarMismatch v style tag
  | .sequenceStart _ => .kind .seq
  | .mappingStart _ => .kind .map
  | _ => .kind .unit

/-- A message located at a value: its path unless it is the root, and its
place unless it is the start of the text. -/
def located (path : String) (m : Mark) (msg : String) : String :=
  (if path == "." then "" else path ++ ": ") ++ msg ++
    (if m.isStart then "" else " at " ++ m.render)

/-- The path of a field of the value at `path`. -/
def fieldPath (path key : String) : String := if path == "." then key else path ++ "." ++ key

/-- The path of an element of the sequence at `path`. -/
def elementPath (path : String) (i : Nat) : String := path ++ "[" ++ toString i ++ "]"

namespace Document

/-- The message when the events run out: the failure that ended them, or
the end of the text. -/
def exhaustedMessage (doc : Document) : String :=
  match doc.error with
  | some e => e.message
  | none => "EOF while parsing a value"

/-- The next event, not taken. -/
def peek (doc : Document) : Load (Event × Mark) := do
  match doc.events[(← get).position]? with
  | some em => pure em
  | none => throw doc.exhaustedMessage

/-- Takes the next event. -/
def next (doc : Document) : Load (Event × Mark) := do
  let em ← doc.peek
  modify fun st => { st with position := st.position + 1 }
  pure em

/-- The position of the node an alias names: the last node before
position `before` with that anchor. -/
def anchored (doc : Document) (name : String) (before : Nat) : Option Nat :=
  let hits := (doc.events.toList.take before).zipIdx.filter fun ((e, _), _) =>
    match e with
    | .scalar _ _ (some a) _ => a == name
    | .sequenceStart (some a) => a == name
    | .mappingStart (some a) => a == name
    | _ => false
  hits.getLast?.map (·.2)

/-- Skips one node, however deep; an alias is skipped without following it. -/
def skipNode (doc : Document) : Load Unit := do
  let rec go : Nat → Nat → Load Unit
    | 0, _ => pure ()
    | fuel + 1, depth => do
      let (e, _) ← doc.next
      let depth := match e with
        | .sequenceStart _ | .mappingStart _ => depth + 1
        | .sequenceEnd | .mappingEnd => depth - 1
        | _ => depth
      if depth == 0 then pure () else go fuel depth
  let (e, _) ← doc.peek
  match e with
  | .sequenceStart _ | .mappingStart _ =>
    let (_, _) ← doc.next
    go doc.events.size 1
  | _ => let _ ← doc.next

/-- Reads one node with `read`; when the node is an alias, `read` runs on
the node it names, and reading goes on after the alias. Following aliases
more than a hundred times per event of the document fails. -/
def resolved {α : Type} (doc : Document) (read : Load α) : Load α := do
  let (e, _) ← doc.peek
  match e with
  | .reference name =>
    let _ ← doc.next
    let st ← get
    if st.jumps + 1 > doc.events.size * 100 then throw "repetition limit exceeded"
    match doc.anchored name (st.position - 1) with
    | none => throw doc.exhaustedMessage
    | some target =>
      set { st with position := target, jumps := st.jumps + 1 }
      let v ← read
      modify fun s => { s with position := st.position }
      pure v
  | _ => read

/-- The failure of a value of the wrong kind. -/
def invalidType (path : String) (e : Event) (m : Mark) (expected : String) : String :=
  located path m ((eventMismatch e).render expected)

/-- A string: any scalar, as written. -/
def string (doc : Document) (path : String) : Load String := doc.resolved do
  let (e, m) ← doc.next
  match e with
  | .scalar v _ _ _ => pure v
  | _ => throw (invalidType path e m "a string")

/-- A string that may be absent: a plain null scalar is absent, and so is
one tagged as null, which must then spell null. That failure is reported at
the enclosing value, `outer` at `outerMark`. -/
def optionalString (doc : Document) (path outer : String) (outerMark : Mark) :
    Load (Option String) := doc.resolved do
  let (e, _) ← doc.peek
  match e with
  | .scalar v .plain _ tag =>
    let absent ← match tag with
      | some t =>
        if t != coreTag "null" then pure false
        else if isNullWord v then pure true
        else throw (located outer outerMark ((Mismatch.text v "null").render ""))
      | none => pure (v.isEmpty || isNullWord v)
    if absent then
      let _ ← doc.next
      pure none
    else some <$> doc.string path
  | _ => some <$> doc.string path

/-- A non-negative integer: a plain scalar that reads as one, whatever its
tag, or a literal block scalar tagged as an integer. -/
def usize (doc : Document) (path : String) : Load Nat := doc.resolved do
  let (e, m) ← doc.next
  match e with
  | .scalar v style _ tag =>
    if style == .plain || (style == .literal && tag == some (coreTag "int")) then
      match unsignedValue? (Nat.pow 2 64) v with
      | some n => pure n
      | none => throw (invalidType path e m "usize")
    else throw (invalidType path e m "usize")
  | _ => throw (invalidType path e m "usize")

/-- Whether an event stands for an empty collection: an empty plain scalar. -/
def isEmptyScalar : Event → Bool
  | .scalar v .plain _ _ => v.isEmpty
  | _ => false

/-- A sequence of values read by `element`; an empty plain scalar is an
empty sequence. -/
def sequence {α : Type} (doc : Document) (path : String) (element : String → Load α) :
    Load (List α) := doc.resolved do
  let (e, m) ← doc.next
  match e with
  | .sequenceStart _ =>
    let rec go : Nat → Nat → List α → Load (List α)
      | 0, _, acc => pure acc.reverse
      | fuel + 1, i, acc => do
        let (e, _) ← doc.peek
        if e == .sequenceEnd then
          let _ ← doc.next
          pure acc.reverse
        else
          let v ← element (elementPath path i)
          go fuel (i + 1) (v :: acc)
    go doc.events.size 0 []
  | _ =>
    if isEmptyScalar e then pure []
    else throw (invalidType path e m "a sequence")

/-- The entries of a mapping, each handed to `field` with its key; an empty
plain scalar is an empty mapping. Answers the mapping's place. -/
def mapping {σ : Type} (doc : Document) (path : String) (expected : String) (init : σ)
    (field : σ → String → Mark → Load σ) : Load (σ × Mark) := doc.resolved do
  let (e, m) ← doc.next
  match e with
  | .mappingStart _ =>
    let rec go : Nat → σ → Load σ
      | 0, st => pure st
      | fuel + 1, st => do
        let (e, _) ← doc.peek
        if e == .mappingEnd then
          let _ ← doc.next
          pure st
        else
          let (ke, km) ← doc.peek
          let key ← match ke with
            | .scalar _ _ _ _ | .reference _ => doc.string path
            | _ => throw (invalidType path ke km "field identifier")
          let st ← field st key m
          go fuel st
    pure (← go doc.events.size init, m)
  | _ =>
    if isEmptyScalar e then pure (init, m)
    else throw (invalidType path e m expected)

/-- One table of the catalog. -/
def table (doc : Document) (path : String) : Load TableConfig := do
  let step := fun (st : Option (Option String) × Option String × Option (List String))
      (key : String) (m : Mark) => do
    let (database, name, columns) := st
    if key == "database" then
      if database.isSome then throw (located path m "duplicate field `database`")
      let v ← doc.optionalString (fieldPath path key) path m
      pure (some v, name, columns)
    else if key == "name" then
      if name.isSome then throw (located path m "duplicate field `name`")
      let v ← doc.string (fieldPath path key)
      pure (database, some v, columns)
    else if key == "columns" then
      if columns.isSome then throw (located path m "duplicate field `columns`")
      let v ← doc.sequence (fieldPath path key) doc.string
      pure (database, name, some v)
    else
      doc.skipNode
      pure st
  let ((database, name, columns), m) ← doc.mapping path "struct TableConfig" (none, none, none) step
  match name with
  | none => throw (located path m "missing field `name`")
  | some name => pure { database := database.getD none, name, columns := columns.getD [] }

/-- The settings. -/
def config (doc : Document) : Load Config := do
  let path := "."
  let step := fun (st : Option String × Option Nat × Option (List TableConfig))
      (key : String) (m : Mark) => do
    let (dialect, maxDepth, tables) := st
    if key == "dialect" then
      if dialect.isSome then throw (located path m "duplicate field `dialect`")
      let v ← doc.string (fieldPath path key)
      pure (some v, maxDepth, tables)
    else if key == "max_depth" then
      if maxDepth.isSome then throw (located path m "duplicate field `max_depth`")
      let v ← doc.usize (fieldPath path key)
      pure (dialect, some v, tables)
    else if key == "tables" then
      if tables.isSome then throw (located path m "duplicate field `tables`")
      let v ← doc.sequence (fieldPath path key) doc.table
      pure (dialect, maxDepth, some v)
    else
      doc.skipNode
      pure st
  if doc.events.isEmpty && doc.error.isNone then return {}
  let ((dialect, maxDepth, tables), _) ←
    doc.mapping path "struct LineageConfig" (none, none, none) step
  pure {
    dialect := dialect.getD "generic"
    maxDepth := maxDepth.getD defaultMaxDepth
    tables := tables.getD [] }

end Document

/-- The settings written in YAML text, or the message of why they cannot be
read from it. -/
def Config.ofYaml (text : String) : Except String Config :=
  let stream := readStream text
  let doc : Document := { events := stream.events, error := stream.error }
  match ((doc.config.run).run {}).1 with
  | .error msg => .error msg
  | .ok c =>
    match stream.error with
    | some e => .error e.message
    | none =>
      if stream.more then .error "deserializing from YAML containing more than one document is not supported"
      else .ok c

end ColumnLineage
