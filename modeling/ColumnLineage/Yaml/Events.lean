import ColumnLineage.Yaml.Scanner
/-
ColumnLineage/Yaml/Events.lean

Reading YAML tokens into events: the start and end of documents, of
sequences and of mappings, and scalars, each with the place it starts. The
grammar is libyaml's, including where a value left out reads as an empty
plain scalar and what each failure says.

The events of the first document are kept even when the text fails after
them, because a reader that consumes them may fail first, on content it
does not accept, and that failure is the one reported.
-/

namespace ColumnLineage.Yaml

/-- What a reader of YAML is told. -/
inductive Event where
  | documentStart | documentEnd | streamEnd
  | reference (name : String)
  | scalar (value : String) (style : ScalarStyle) (anchor : Option String) (tag : Option String)
  | sequenceStart (anchor : Option String)
  | sequenceEnd
  | mappingStart (anchor : Option String)
  | mappingEnd
  deriving DecidableEq, Repr, Inhabited

/-- The events read so far and the scanner that reads on. -/
structure Reader where
  scanner : Scanner
  events : Array (Event × Mark) := #[]
  /-- The tag handles of the current document and the prefixes they stand for. -/
  tags : List (String × String) := []
  deriving Inhabited

/-- Reading events: a failure keeps the events read before it. -/
abbrev ReadM := ExceptT Error (StateM Reader)

namespace ReadM

/-- The next token, not taken. -/
def peek : ReadM Token := do
  let r ← get
  match r.scanner.peek with
  | .ok (t, sc) => set { r with scanner := sc }; pure t
  | .error e => throw e

/-- Takes the next token. -/
def skip : ReadM Unit := modify fun r => { r with scanner := r.scanner.take }

/-- Records an event. -/
def emit (e : Event) (m : Mark) : ReadM Unit :=
  modify fun r => { r with events := r.events.push (e, m) }

/-- An empty plain scalar, for a node that was left out. -/
def empty (m : Mark) : ReadM Unit := emit (.scalar "" .plain none none) m

/-- The failure when the fuel runs out, which a text never reaches: every
step takes a token, and the fuel is more than the tokens of the text. -/
def exhausted : ReadM Unit := do
  let t ← peek
  throw { problem := "did not find expected node content", mark := t.start }

/-- A grammar failure: the problem at a token, in a context opened at `open`. -/
def fail (context : String) (opened : Mark) (problem : String) (t : Token) : ReadM Unit :=
  throw { problem, mark := t.start, context := some (context, opened) }

/-- Whether a token is a block entry or a block end. -/
def endsBlockEntry (k : TokenKind) : Bool := k == .blockEntry || k == .blockEnd

/-- Whether a token ends a key or value slot of a block mapping. -/
def endsBlockSlot (k : TokenKind) : Bool := k == .key || k == .value || k == .blockEnd

mutual

/-- A node: an alias, or properties (anchor and tag) then content. `block`
says whether block collections may start here; `indentless` whether a
sequence may start with a `-` at the indentation of the mapping it is a
value of. -/
def node : Nat → Bool → Bool → ReadM Unit
  | 0, _, _ => exhausted
  | n + 1, block, indentless => do
    let t ← peek
    if let .reference name := t.kind then
      emit (.reference name) t.start
      skip
      return
    let start := t.start
    let (anchor, tag, t) ← (do
      match t.kind with
      | .anchor a =>
        skip
        let t' ← peek
        if let .tag h x := t'.kind then
          skip
          pure (some a, some (h, x, t'.start), ← peek)
        else pure (some a, none, t')
      | .tag h x =>
        skip
        let t' ← peek
        if let .anchor a := t'.kind then
          skip
          pure (some a, some (h, x, t.start), ← peek)
        else pure (none, some (h, x, t.start), t')
      | _ => pure (none, none, t) : ReadM (Option String × Option (String × String × Mark) × Token))
    let tag ← match tag with
      | none => pure none
      | some (handle, suffix, at_) =>
        if handle.isEmpty then pure (some suffix)
        else match (← get).tags.find? (·.1 == handle) with
          | some (_, pfx) => pure (some (pfx ++ suffix))
          | none =>
            throw { problem := "found undefined tag handle", mark := at_,
                    context := some ("while parsing a node", start) }
    if indentless && t.kind == .blockEntry then
      emit (.sequenceStart anchor) start
      indentlessSequence n
    else match t.kind with
      | .scalar v style =>
        emit (.scalar v style anchor tag) start
        skip
      | .flowSequenceStart =>
        emit (.sequenceStart anchor) start
        skip
        flowSequence n true t.start
      | .flowMappingStart =>
        emit (.mappingStart anchor) start
        skip
        flowMapping n true t.start
      | .blockSequenceStart =>
        if block then
          emit (.sequenceStart anchor) start
          skip
          blockSequence n t.start
        else noContent block start anchor tag t
      | .blockMappingStart =>
        if block then
          emit (.mappingStart anchor) start
          skip
          blockMapping n t.start
        else noContent block start anchor tag t
      | _ => noContent block start anchor tag t

/-- A node with properties and no content is an empty scalar; one with
neither is missing. -/
def noContent (block : Bool) (start : Mark) (anchor tag : Option String) (t : Token) :
    ReadM Unit :=
  if anchor.isSome || tag.isSome then emit (.scalar "" .plain anchor tag) start
  else fail (if block then "while parsing a block node" else "while parsing a flow node") start
    "did not find expected node content" t

/-- The entries of a block sequence, after its start. -/
def blockSequence : Nat → Mark → ReadM Unit
  | 0, _ => exhausted
  | n + 1, opened => do
    let t ← peek
    match t.kind with
    | .blockEntry =>
      skip
      let t' ← peek
      if endsBlockEntry t'.kind then empty t.stop else node n true false
      blockSequence n opened
    | .blockEnd =>
      emit .sequenceEnd t.start
      skip
    | _ => fail "while parsing a block collection" opened "did not find expected '-' indicator" t

/-- The entries of a sequence whose `-` stand at the indentation of the
mapping it is a value of. -/
def indentlessSequence : Nat → ReadM Unit
  | 0 => exhausted
  | n + 1 => do
    let t ← peek
    if t.kind == .blockEntry then
      skip
      let t' ← peek
      if t'.kind == .blockEntry || endsBlockSlot t'.kind then empty t.stop
      else node n true false
      indentlessSequence n
    else emit .sequenceEnd t.start

/-- The entries of a block mapping, after its start. -/
def blockMapping : Nat → Mark → ReadM Unit
  | 0, _ => exhausted
  | n + 1, opened => do
    let t ← peek
    match t.kind with
    | .key =>
      skip
      let t' ← peek
      if endsBlockSlot t'.kind then empty t.stop else node n true true
      blockValue n
      blockMapping n opened
    | .blockEnd =>
      emit .mappingEnd t.start
      skip
    | _ => fail "while parsing a block mapping" opened "did not find expected key" t

/-- The value of a block mapping entry, empty when left out. -/
def blockValue : Nat → ReadM Unit
  | 0 => exhausted
  | n + 1 => do
    let t ← peek
    if t.kind == .value then
      skip
      let t' ← peek
      if endsBlockSlot t'.kind then empty t.stop else node n true true
    else empty t.start

/-- The entries of a flow sequence, after its `[`. -/
def flowSequence : Nat → Bool → Mark → ReadM Unit
  | 0, _, _ => exhausted
  | n + 1, first, opened => do
    let t ← peek
    if t.kind == .flowSequenceEnd then
      emit .sequenceEnd t.start
      skip
      return
    let t ← if first then pure t
      else if t.kind == .flowEntry then do skip; peek
      else do
        fail "while parsing a flow sequence" opened "did not find expected ',' or ']'" t
        pure t
    if t.kind == .key then
      emit (.mappingStart none) t.start
      skip
      pairInSequence n
      flowSequence n false opened
    else if t.kind == .flowSequenceEnd then
      emit .sequenceEnd t.start
      skip
    else
      node n false false
      flowSequence n false opened

/-- A single-pair mapping written as an entry of a flow sequence. -/
def pairInSequence : Nat → ReadM Unit
  | 0 => exhausted
  | n + 1 => do
    let t ← peek
    if t.kind == .value || t.kind == .flowEntry || t.kind == .flowSequenceEnd then empty t.start
    else node n false false
    let t ← peek
    if t.kind == .value then
      skip
      let t' ← peek
      if t'.kind == .flowEntry || t'.kind == .flowSequenceEnd then empty t'.start
      else node n false false
    else empty t.start
    let t ← peek
    emit .mappingEnd t.start

/-- The entries of a flow mapping, after its `\x7b`. -/
def flowMapping : Nat → Bool → Mark → ReadM Unit
  | 0, _, _ => exhausted
  | n + 1, first, opened => do
    let t ← peek
    if t.kind == .flowMappingEnd then
      emit .mappingEnd t.start
      skip
      return
    let t ← if first then pure t
      else if t.kind == .flowEntry then do skip; peek
      else do
        fail "while parsing a flow mapping" opened "did not find expected ',' or '\x7d'" t
        pure t
    if t.kind == .key then
      skip
      let t' ← peek
      if t'.kind == .value || t'.kind == .flowEntry || t'.kind == .flowMappingEnd then
        empty t'.start
      else node n false false
      flowValue n
      flowMapping n false opened
    else if t.kind == .flowMappingEnd then
      emit .mappingEnd t.start
      skip
    else
      node n false false
      let t' ← peek
      empty t'.start
      flowMapping n false opened

/-- The value of a flow mapping entry, empty when left out. -/
def flowValue : Nat → ReadM Unit
  | 0 => exhausted
  | n + 1 => do
    let t ← peek
    if t.kind == .value then
      skip
      let t' ← peek
      if t'.kind == .flowEntry || t'.kind == .flowMappingEnd then empty t'.start
      else node n false false
    else empty t.start

end

/-- Whether a token is a directive. -/
def isDirective : TokenKind → Bool
  | .versionDirective _ _ | .tagDirective _ _ => true
  | _ => false

/-- Whether a token may not start the content of a document. -/
def endsDocument (k : TokenKind) : Bool :=
  isDirective k || k == .documentStart || k == .documentEnd || k == .streamEnd

/-- The tag handles every document knows. -/
def defaultTags : List (String × String) := [("!", "!"), ("!!", "tag:yaml.org,2002:")]

/-- The directives before a document: at most one compatible `%YAML`, and
`%TAG` handles declared once each. Answers the handles declared. -/
def directives : Nat → Bool → List (String × String) → ReadM (List (String × String))
  | 0, _, tags => pure tags
  | m + 1, seenVersion, tags => do
    let t ← peek
    match t.kind with
    | .versionDirective major minor =>
      if seenVersion then throw { problem := "found duplicate %YAML directive", mark := t.start }
      if major != 1 || (minor != 1 && minor != 2) then
        throw { problem := "found incompatible YAML document", mark := t.start }
      skip
      directives m true tags
    | .tagDirective handle pfx =>
      if tags.any (·.1 == handle) then
        throw { problem := "found duplicate %TAG directive", mark := t.start }
      skip
      directives m seenVersion (tags ++ [(handle, pfx)])
    | _ => pure tags

/-- One document, or the end of the stream. The first document may start
without `---`; a later one must have it. -/
def document (fuel : Nat) (implicit : Bool) : ReadM Unit := do
  let n ← (do
    let rec extraEnds : Nat → ReadM Unit
      | 0 => pure ()
      | m + 1 => do
        let t ← peek
        if t.kind == .documentEnd then
          skip
          extraEnds m
    if !implicit then extraEnds fuel
    pure fuel)
  let t ← peek
  if implicit && !(isDirective t.kind || t.kind == .documentStart || t.kind == .streamEnd) then
    modify fun r => { r with tags := defaultTags }
    emit .documentStart t.start
    node n true false
  else if t.kind != .streamEnd then
    let tags ← directives fuel false []
    modify fun r => { r with tags := tags ++ defaultTags.filter fun d => !tags.any (·.1 == d.1) }
    let t ← peek
    if t.kind != .documentStart then
      throw { problem := "did not find expected <document start>", mark := t.start }
    emit .documentStart t.start
    skip
    let t ← peek
    if endsDocument t.kind then empty t.start else node n true false
  else
    emit .streamEnd t.start
    skip
    return
  let t ← peek
  emit .documentEnd t.start
  if t.kind == .documentEnd then skip

end ReadM

/-- The outcome of reading YAML text: the events of the first document
(without its start and end), the failure that stopped it, if any, and
whether a second document follows. -/
structure Stream where
  events : Array (Event × Mark)
  error : Option Error
  more : Bool
  deriving Inhabited

/-- The anchor a node event defines, if any. -/
def Event.anchor? : Event → Option String
  | .scalar _ _ a _ => a
  | .sequenceStart a => a
  | .mappingStart a => a
  | _ => none

/-- The events up to the first alias of an anchor not defined before it,
and the failure that alias is. -/
def checkAliases (events : Array (Event × Mark)) : Array (Event × Mark) × Option Error :=
  let step := fun (st : Array (Event × Mark) × List String × Option Error) (em : Event × Mark) =>
    let (kept, anchors, err) := st
    if err.isSome then st
    else match em.1 with
      | .reference name =>
        if anchors.contains name then (kept.push em, anchors, none)
        else (kept, anchors, some { problem := "unknown anchor", mark := em.2 })
      | e =>
        match e.anchor? with
        | some a => (kept.push em, a :: anchors, none)
        | none => (kept.push em, anchors, none)
  let (kept, _, err) := events.foldl step (#[], [], none)
  (kept, err)

/-- Reads the first document of `text`, and looks for a second one. A text
with a character YAML does not allow fails before its first event, and an
alias of an anchor not defined before it ends the document as a failure. -/
def readStream (text : String) : Stream :=
  match disallowedChar? text with
  | some e => { events := #[], error := some e, more := false }
  | none =>
  let sc := Scanner.ofString text
  let fuel := 4 * (sc.chars.size + 4)
  let start : ReadM Unit := do
    let _ ← ReadM.peek
    ReadM.skip
    ReadM.document fuel true
  let (r, st) := (start.run).run { scanner := sc }
  let (first, aliasError) := checkAliases (st.events.filter fun (e, _) =>
    e != .documentStart && e != .documentEnd && e != .streamEnd)
  match aliasError, r with
  | some e, _ => { events := first, error := some e, more := false }
  | none, .error e => { events := first, error := some e, more := false }
  | none, .ok () =>
    if st.events.any fun (e, _) => e == .streamEnd then
      { events := first, error := none, more := false }
    else
      let (r2, st2) := ((ReadM.document fuel false).run).run { st with events := #[] }
      let more := match r2 with
        | .error _ => true
        | .ok () => !(st2.events.any fun (e, _) => e == .streamEnd)
      { events := first, error := none, more }

end ColumnLineage.Yaml
