import Conform.Yaml.Scan
/-!
The YAML parser: from tokens to events.

The parser is a state machine over the token stream with a stack of states to return to and
a stack of the marks where open collections started, for error messages. Each step yields one
event: the start and end of the stream, of each document, sequence and mapping, a scalar or
an alias. A node's tag is resolved against the document's `%TAG` directives and the two
default handles `!` and `!!`; a missing node stands as an empty plain scalar.
-/
namespace Conform.Yaml

/-- The kinds of parsing event. -/
inductive EventKind where
  | streamStart
  | streamEnd
  | documentStart
  | documentEnd
  | alias (name : String)
  | scalar (anchor : Option String) (tag : Option TagText) (text : String) (style : ScalarStyle)
  | sequenceStart (anchor : Option String) (tag : Option TagText)
  | sequenceEnd
  | mappingStart (anchor : Option String) (tag : Option TagText)
  | mappingEnd
  deriving Inhabited

/-- An event and where it starts. -/
structure Event where
  kind : EventKind
  mark : Mark
  deriving Inhabited

/-- What the parser expects next. -/
inductive ParseState where
  | streamStart
  | implicitDocumentStart
  | documentStart
  | documentContent
  | documentEnd
  | blockNode
  | blockNodeOrIndentlessSequence
  | flowNode
  | blockSequenceFirstEntry
  | blockSequenceEntry
  | indentlessSequenceEntry
  | blockMappingFirstKey
  | blockMappingKey
  | blockMappingValue
  | flowSequenceFirstEntry
  | flowSequenceEntry
  | flowSequenceEntryMappingKey
  | flowSequenceEntryMappingValue
  | flowSequenceEntryMappingEnd
  | flowMappingFirstKey
  | flowMappingKey
  | flowMappingValue
  | flowMappingEmptyValue
  | finished
  deriving Inhabited, BEq

/-- The parser's state. -/
structure Parser where
  scanner : Scanner
  state : ParseState := .streamStart
  states : List ParseState := []
  marks : List Mark := []
  tagDirectives : List (String × TagText) := []
  deriving Inhabited

abbrev Parse := StateT Parser (Except Failure)

namespace Parse

def scan {α : Type} (x : Scan α) : Parse α := do
  let p ← get
  let (a, s) ← x.run p.scanner
  set { p with scanner := s }
  return a

def peek : Parse Token := scan peekToken

def skip : Parse Unit := scan skipToken

def goTo (s : ParseState) : Parse Unit := modify fun p => { p with state := s }

def push (s : ParseState) : Parse Unit := modify fun p => { p with states := s :: p.states }

def pop : Parse Unit :=
  modify fun p => { p with state := p.states.headD .finished, states := p.states.drop 1 }

def pushMark (m : Mark) : Parse Unit := modify fun p => { p with marks := m :: p.marks }

def popMark : Parse Mark := do
  let p ← get
  set { p with marks := p.marks.drop 1 }
  return p.marks.headD {}

def fail {α : Type} (problem : String) (problemMark : Mark) : Parse α :=
  throw { problem, problemMark, contextMark := problemMark }

/-- Stops with a parsing failure inside a construct started at a mark. -/
def failIn {α : Type} (context : String) (contextMark : Mark) (problem : String)
    (problemMark : Mark) : Parse α :=
  throw { problem, problemMark, context := some context, contextMark }

end Parse

open Parse

/-- An empty plain scalar standing for a missing node. -/
def emptyScalar (m : Mark) : Event := ⟨.scalar none none "" .plain, m⟩

/-- Whether a token is of the given kind, compared by constructor. -/
def TokenKind.tagIndex : TokenKind → Nat
  | .streamStart => 0
  | .streamEnd => 1
  | .versionDirective .. => 2
  | .tagDirective .. => 3
  | .documentStart => 4
  | .documentEnd => 5
  | .blockSequenceStart => 6
  | .blockMappingStart => 7
  | .blockEnd => 8
  | .flowSequenceStart => 9
  | .flowSequenceEnd => 10
  | .flowMappingStart => 11
  | .flowMappingEnd => 12
  | .blockEntry => 13
  | .flowEntry => 14
  | .key => 15
  | .value => 16
  | .alias _ => 17
  | .anchor _ => 18
  | .tag .. => 19
  | .scalar .. => 20

def Token.isAny (t : Token) (kinds : List TokenKind) : Bool :=
  kinds.any fun k => k.tagIndex == t.kind.tagIndex

/-- Adds a tag directive; a handle given twice is a failure unless duplicates are allowed. -/
def addTagDirective (handle : String) (pfx : TagText) (allowDuplicates : Bool) (m : Mark) :
    Parse Unit := do
  let p ← get
  if p.tagDirectives.any (·.1 == handle) then
    if allowDuplicates then return
    fail "found duplicate %TAG directive" m
  set { p with tagDirectives := p.tagDirectives ++ [(handle, pfx)] }

/-- Reads the directives before a document and adds the default tag handles. -/
def processDirectives : Parse Unit := do
  let mut version := false
  for _ in [0:(← get).scanner.rest.length + 2] do
    let t ← peek
    match t.kind with
    | .versionDirective major minor =>
      if version then fail "found duplicate %YAML directive" t.start
      if major != 1 || (minor != 1 && minor != 2) then fail "found incompatible YAML document" t.start
      version := true
      skip
    | .tagDirective handle pfx =>
      addTagDirective handle pfx false t.start
      skip
    | _ => break
  let t ← peek
  addTagDirective "!" (.ofString "!") true t.start
  addTagDirective "!!" (.ofString "tag:yaml.org,2002:") true t.start

/-- Parses a node: an alias, or a scalar or collection start with its anchor and tag. -/
def parseNode (block indentless : Bool) : Parse Event := do
  let t ← peek
  if let .alias name := t.kind then
    pop
    skip
    return ⟨.alias name, t.start⟩
  let start := t.start
  let mut anchor : Option String := none
  let mut tag : Option (String × TagText) := none
  let mut tagMark : Mark := {}
  let mut t := t
  match t.kind with
  | .anchor a =>
    anchor := some a
    skip
    t ← peek
    if let .tag h s := t.kind then
      tag := some (h, s)
      tagMark := t.start
      skip
      t ← peek
  | .tag h s =>
    tag := some (h, s)
    tagMark := t.start
    skip
    t ← peek
    if let .anchor a := t.kind then
      anchor := some a
      skip
      t ← peek
  | _ => pure ()
  let resolved ← match tag with
    | none => pure none
    | some (h, s) =>
      if h.isEmpty then pure (some s)
      else match (← get).tagDirectives.lookup h with
        | some pfx => pure (some (pfx ++ s))
        | none => failIn "while parsing a node" start "found undefined tag handle" tagMark
  if indentless && t.isAny [.blockEntry] then
    goTo .indentlessSequenceEntry
    return ⟨.sequenceStart anchor resolved, start⟩
  match t.kind with
  | .scalar text style =>
    pop
    skip
    return ⟨.scalar anchor resolved text style, start⟩
  | .flowSequenceStart =>
    goTo .flowSequenceFirstEntry
    return ⟨.sequenceStart anchor resolved, start⟩
  | .flowMappingStart =>
    goTo .flowMappingFirstKey
    return ⟨.mappingStart anchor resolved, start⟩
  | .blockSequenceStart =>
    if block then
      goTo .blockSequenceFirstEntry
      return ⟨.sequenceStart anchor resolved, start⟩
  | .blockMappingStart =>
    if block then
      goTo .blockMappingFirstKey
      return ⟨.mappingStart anchor resolved, start⟩
  | _ => pure ()
  if anchor.isSome || resolved.isSome then
    pop
    return ⟨.scalar anchor resolved "" .plain, start⟩
  failIn (if block then "while parsing a block node" else "while parsing a flow node") start
    "did not find expected node content" t.start

/-- The start of a document, or the end of the stream. -/
def parseDocumentStart (implicit : Bool) : Parse Event := do
  let mut t ← peek
  if !implicit then
    for _ in [0:(← get).scanner.rest.length + 2] do
      if t.isAny [.documentEnd] then
        skip
        t ← peek
      else break
  if implicit && !t.isAny [.versionDirective 0 0, .tagDirective "" {}, .documentStart, .streamEnd] then
    processDirectives
    push .documentEnd
    goTo .blockNode
    return ⟨.documentStart, t.start⟩
  if !t.isAny [.streamEnd] then
    let start := t.start
    processDirectives
    let d ← peek
    if !d.isAny [.documentStart] then fail "did not find expected <document start>" d.start
    push .documentEnd
    goTo .documentContent
    skip
    return ⟨.documentStart, start⟩
  goTo .finished
  skip
  return ⟨.streamEnd, t.start⟩

/-- The content of an explicit document, which may be empty. -/
def parseDocumentContent : Parse Event := do
  let t ← peek
  if t.isAny [.versionDirective 0 0, .tagDirective "" {}, .documentStart, .documentEnd, .streamEnd] then
    pop
    return emptyScalar t.start
  parseNode true false

/-- The end of a document, explicit with `...` or implicit. -/
def parseDocumentEnd : Parse Event := do
  let t ← peek
  if t.isAny [.documentEnd] then skip
  modify fun p => { p with tagDirectives := [] }
  goTo .documentStart
  return ⟨.documentEnd, t.start⟩

/-- An entry of a block sequence, or its end. -/
def parseBlockSequenceEntry (first : Bool) : Parse Event := do
  if first then
    pushMark (← peek).start
    skip
  let t ← peek
  if t.isAny [.blockEntry] then
    skip
    let n ← peek
    if !n.isAny [.blockEntry, .blockEnd] then
      push .blockSequenceEntry
      parseNode true false
    else
      goTo .blockSequenceEntry
      return emptyScalar t.stop
  else if t.isAny [.blockEnd] then
    pop
    let _ ← popMark
    skip
    return ⟨.sequenceEnd, t.start⟩
  else
    failIn "while parsing a block collection" (← popMark) "did not find expected '-' indicator" t.start

/-- An entry of a sequence written at its mapping's indentation, or its end. -/
def parseIndentlessSequenceEntry : Parse Event := do
  let t ← peek
  if t.isAny [.blockEntry] then
    skip
    let n ← peek
    if !n.isAny [.blockEntry, .key, .value, .blockEnd] then
      push .indentlessSequenceEntry
      parseNode true false
    else
      goTo .indentlessSequenceEntry
      return emptyScalar t.stop
  else
    pop
    return ⟨.sequenceEnd, t.start⟩

/-- A key of a block mapping, or its end. -/
def parseBlockMappingKey (first : Bool) : Parse Event := do
  if first then
    pushMark (← peek).start
    skip
  let t ← peek
  if t.isAny [.key] then
    skip
    let n ← peek
    if !n.isAny [.key, .value, .blockEnd] then
      push .blockMappingValue
      parseNode true true
    else
      goTo .blockMappingValue
      return emptyScalar t.stop
  else if t.isAny [.blockEnd] then
    pop
    let _ ← popMark
    skip
    return ⟨.mappingEnd, t.start⟩
  else
    failIn "while parsing a block mapping" (← popMark) "did not find expected key" t.start

/-- A value of a block mapping, which may be missing. -/
def parseBlockMappingValue : Parse Event := do
  let t ← peek
  if t.isAny [.value] then
    skip
    let n ← peek
    if !n.isAny [.key, .value, .blockEnd] then
      push .blockMappingKey
      parseNode true true
    else
      goTo .blockMappingKey
      return emptyScalar t.stop
  else
    goTo .blockMappingKey
    return emptyScalar t.start

/-- An entry of a flow sequence, or its end. -/
def parseFlowSequenceEntry (first : Bool) : Parse Event := do
  if first then
    pushMark (← peek).start
    skip
  let mut t ← peek
  if !t.isAny [.flowSequenceEnd] then
    if !first then
      if t.isAny [.flowEntry] then
        skip
        t ← peek
      else
        failIn "while parsing a flow sequence" (← popMark) "did not find expected ',' or ']'" t.start
    if t.isAny [.key] then
      goTo .flowSequenceEntryMappingKey
      skip
      return ⟨.mappingStart none none, t.start⟩
    if !t.isAny [.flowSequenceEnd] then
      push .flowSequenceEntry
      return ← parseNode false false
  pop
  let _ ← popMark
  skip
  return ⟨.sequenceEnd, t.start⟩

/-- The key of a one-pair mapping inside a flow sequence. -/
def parseFlowSequenceEntryMappingKey : Parse Event := do
  let t ← peek
  if !t.isAny [.value, .flowEntry, .flowSequenceEnd] then
    push .flowSequenceEntryMappingValue
    parseNode false false
  else
    skip
    goTo .flowSequenceEntryMappingValue
    return emptyScalar t.stop

/-- The value of a one-pair mapping inside a flow sequence. -/
def parseFlowSequenceEntryMappingValue : Parse Event := do
  let t ← peek
  if t.isAny [.value] then
    skip
    let n ← peek
    if !n.isAny [.flowEntry, .flowSequenceEnd] then
      push .flowSequenceEntryMappingEnd
      return ← parseNode false false
    goTo .flowSequenceEntryMappingEnd
    return emptyScalar n.start
  goTo .flowSequenceEntryMappingEnd
  return emptyScalar t.start

/-- The end of a one-pair mapping inside a flow sequence. -/
def parseFlowSequenceEntryMappingEnd : Parse Event := do
  let t ← peek
  goTo .flowSequenceEntry
  return ⟨.mappingEnd, t.start⟩

/-- A key of a flow mapping, or its end. -/
def parseFlowMappingKey (first : Bool) : Parse Event := do
  if first then
    pushMark (← peek).start
    skip
  let mut t ← peek
  if !t.isAny [.flowMappingEnd] then
    if !first then
      if t.isAny [.flowEntry] then
        skip
        t ← peek
      else
        failIn "while parsing a flow mapping" (← popMark) "did not find expected ',' or '\x7d'" t.start
    if t.isAny [.key] then
      skip
      let n ← peek
      if !n.isAny [.value, .flowEntry, .flowMappingEnd] then
        push .flowMappingValue
        return ← parseNode false false
      goTo .flowMappingValue
      return emptyScalar n.start
    if !t.isAny [.flowMappingEnd] then
      push .flowMappingEmptyValue
      return ← parseNode false false
  pop
  let _ ← popMark
  skip
  return ⟨.mappingEnd, t.start⟩

/-- A value of a flow mapping, which may be missing. -/
def parseFlowMappingValue (empty : Bool) : Parse Event := do
  let t ← peek
  if empty then
    goTo .flowMappingKey
    return emptyScalar t.start
  if t.isAny [.value] then
    skip
    let n ← peek
    if !n.isAny [.flowEntry, .flowMappingEnd] then
      push .flowMappingKey
      return ← parseNode false false
    goTo .flowMappingKey
    return emptyScalar n.start
  goTo .flowMappingKey
  return emptyScalar t.start

/-- The next event, or none after the end of the stream. -/
def nextEvent : Parse (Option Event) := do
  match (← get).state with
  | .streamStart =>
    let t ← peek
    if !t.isAny [.streamStart] then fail "did not find expected <stream-start>" t.start
    goTo .implicitDocumentStart
    skip
    return some ⟨.streamStart, t.start⟩
  | .implicitDocumentStart => some <$> parseDocumentStart true
  | .documentStart => some <$> parseDocumentStart false
  | .documentContent => some <$> parseDocumentContent
  | .documentEnd => some <$> parseDocumentEnd
  | .blockNode => some <$> parseNode true false
  | .blockNodeOrIndentlessSequence => some <$> parseNode true true
  | .flowNode => some <$> parseNode false false
  | .blockSequenceFirstEntry => some <$> parseBlockSequenceEntry true
  | .blockSequenceEntry => some <$> parseBlockSequenceEntry false
  | .indentlessSequenceEntry => some <$> parseIndentlessSequenceEntry
  | .blockMappingFirstKey => some <$> parseBlockMappingKey true
  | .blockMappingKey => some <$> parseBlockMappingKey false
  | .blockMappingValue => some <$> parseBlockMappingValue
  | .flowSequenceFirstEntry => some <$> parseFlowSequenceEntry true
  | .flowSequenceEntry => some <$> parseFlowSequenceEntry false
  | .flowSequenceEntryMappingKey => some <$> parseFlowSequenceEntryMappingKey
  | .flowSequenceEntryMappingValue => some <$> parseFlowSequenceEntryMappingValue
  | .flowSequenceEntryMappingEnd => some <$> parseFlowSequenceEntryMappingEnd
  | .flowMappingFirstKey => some <$> parseFlowMappingKey true
  | .flowMappingKey => some <$> parseFlowMappingKey false
  | .flowMappingValue => some <$> parseFlowMappingValue false
  | .flowMappingEmptyValue => some <$> parseFlowMappingValue true
  | .finished => return none

/-- The events of a text up to the end of the stream or the first failure, with that failure.
Every event but the stream's end moves past a token or closes a state, so the number of
characters bounds the number of rounds. -/
def events (text : String) : Array Event × Option Failure :=
  match Scanner.start text with
  | .error f => (#[], some f)
  | .ok s =>
    let rounds := 8 * (text.length + 4)
    let rec go : Nat → Parser → Array Event → Array Event × Option Failure
      | 0, _, acc => (acc, none)
      | n + 1, p, acc =>
        match nextEvent.run p with
        | .error f => (acc, some f)
        | .ok (none, _) => (acc, none)
        | .ok (some e, p') => go n p' (acc.push e)
    go rounds { scanner := s } #[]

end Conform.Yaml
