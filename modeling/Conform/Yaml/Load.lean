import Conform.Yaml.Parse
import Conform.Decimal.Parse
import Conform.Json.Print
import Conform.Json.Shape
/-!
Loading the first YAML document and the common ground of reading it as a typed value.

A document is its node events: scalars, alias references, the starts and ends of sequences
and mappings, and, for a document with no node, a single void event. Anchors are numbered in
the order they are defined; an alias refers to the anchor's number, and the number leads to
the event that carries the anchor. A failure of the parser inside the first document is kept
with the events read before it and surfaces only when a reader needs an event past them, or
after a successful read.

Readers walk the events with a cursor: the position of the next event and the count of alias
jumps so far, which may not exceed a hundred times the number of events. Nested collections
may be at most 128 deep. A failure of a reader names the path to the value it was reading
and the position of that value.

Plain scalars are resolved the YAML 1.2 core way: `~`, `null`, `Null`, `NULL` and the empty
text are null; `true` and `false` in three spellings are booleans; decimal, `0x`, `0o` and
`0b` integers are numbers, except decimal digits with a leading zero, which stay text;
decimal floats and `.inf`, `-.inf`, `.nan` in three spellings are floats; anything else is
text. The tags `!!bool`, `!!int`, `!!float` and `!!null` ask for one kind and fail on other
text; a quoted scalar is text.
-/
namespace Conform.Yaml

/-- A node event of a loaded document. -/
inductive Node where
  | scalar (tag : Option TagText) (text : String) (style : ScalarStyle)
  | alias (id : Nat)
  | sequenceStart (tag : Option TagText)
  | sequenceEnd
  | mappingStart (tag : Option TagText)
  | mappingEnd
  | void
  deriving Inhabited

/-- The enum variant a node's tag names: a tag that starts with `!` and is valid UTF-8 names the
text after its `!`, or `!` itself when nothing follows. -/
def variantOf? : Option TagText → Option String
  | some t =>
    if t.valid && t.text.startsWith "!" then
      some (if t.text.length > 1 then (t.text.drop 1).toString else t.text)
    else none
  | none => none

/-- The way to a value from the document's root. -/
inductive Path where
  | root
  | seq (parent : Path) (index : Nat)
  | map (parent : Path) (key : String)
  | alias (parent : Path)
  | unknown (parent : Path)
  deriving Inhabited

/-- A path as text: `.` for the root, `[i]` after a sequence, `.key` between map levels and
`?` for a key that is not plain text. -/
def Path.text : Path → String
  | .root => "."
  | .seq p i => p.text ++ "[" ++ toString i ++ "]"
  | .map p k => (match p with
      | .root => ""
      | _ => p.text ++ ".") ++ k
  | .alias p => p.text
  | .unknown p => (match p with
      | .root => ""
      | _ => p.text ++ ".") ++ "?"

/-- Why reading YAML failed. -/
inductive Problem where
  | malformed (f : Failure)
  | unknownAnchor (m : Mark)
  | endOfStream
  | moreThanOneDocument
  | recursionLimit (m : Mark)
  | repetitionLimit
  | message (text : String) (place : Option (Mark × Path))
  deriving Inhabited

namespace Problem

def say (text : String) : Problem := .message text none

/-- Gives a message with no place the place of the value being read. -/
def locate (p : Problem) (m : Mark) (path : Path) : Problem :=
  match p with
  | .message text none => .message text (some (m, path))
  | p => p

/-- The position shown after a message: none at the very start of the text. -/
def markSuffix (m : Mark) : String := if m.isSet then " at " ++ m.text else ""

def text : Problem → String
  | .malformed f => f.text
  | .unknownAnchor m => "unknown anchor" ++ markSuffix m
  | .endOfStream => "EOF while parsing a value"
  | .moreThanOneDocument =>
    "deserializing from YAML containing more than one document is not supported"
  | .recursionLimit m => "recursion limit exceeded" ++ markSuffix m
  | .repetitionLimit => "repetition limit exceeded"
  | .message t none => t
  | .message t (some (m, path)) =>
    let lead := match path with
      | .root => ""
      | p => p.text ++ ": "
    lead ++ t ++ markSuffix m

end Problem

/-- The first document of a YAML text. -/
structure Document where
  nodes : Array (Node × Mark)
  error : Option Problem
  /-- The event position of each anchor number. -/
  aliases : List (Nat × Nat)
  /-- Whether anything but the end of the stream follows the first document. -/
  more : Bool
  deriving Inhabited

/-- What the events after the first document say: only the end of the stream, or more. -/
def followedByMore (events : Array Event) (start : Nat) : Bool :=
  let rest := (events.toList.drop start).dropWhile fun e =>
    match e.kind with
    | .documentStart | .streamStart => true
    | _ => false
  match rest with
  | ⟨.streamEnd, _⟩ :: _ => false
  | _ => true

def setEntry : List (Nat × Nat) → Nat → Nat → List (Nat × Nat)
  | [], k, v => [(k, v)]
  | (k', v') :: rest, k, v => if k' = k then (k, v) :: rest else (k', v') :: setEntry rest k v

/-- Loads the first document of a text. An anchor defined again keeps its number's count, so
the next new anchor may take over a number in use: the newer definition wins. -/
def Document.load (text : String) : Document :=
  let (events, failure) := events text
  let rec go (k : Nat) (fuel : Nat) (nodes : Array (Node × Mark)) (anchors : List (String × Nat))
      (aliases : List (Nat × Nat)) : Document :=
    let fail := fun (p : Problem) => ({ nodes, error := some p, aliases, more := false } : Document)
    let named := fun (anchor : Option String) =>
      match anchor with
      | some a =>
        let id := anchors.length
        (Members.insert anchors a id, setEntry aliases id nodes.size)
      | none => (anchors, aliases)
    match fuel with
    | 0 => fail .endOfStream
    | fuel + 1 =>
      match events[k]? with
      | none => fail (match failure with
          | some f => .malformed f
          | none => .endOfStream)
      | some e =>
        match e.kind with
        | .streamStart | .documentStart => go (k + 1) fuel nodes anchors aliases
        | .streamEnd =>
          { nodes := if nodes.isEmpty then #[(.void, e.mark)] else nodes, error := none, aliases,
            more := false }
        | .documentEnd => { nodes, error := none, aliases, more := followedByMore events (k + 1) }
        | .alias name =>
          match anchors.lookup name with
          | some id => go (k + 1) fuel (nodes.push (.alias id, e.mark)) anchors aliases
          | none => fail (.unknownAnchor e.mark)
        | .scalar anchor tag v style =>
          let (anchors, aliases) := named anchor
          go (k + 1) fuel (nodes.push (.scalar tag v style, e.mark)) anchors aliases
        | .sequenceStart anchor tag =>
          let (anchors, aliases) := named anchor
          go (k + 1) fuel (nodes.push (.sequenceStart tag, e.mark)) anchors aliases
        | .sequenceEnd => go (k + 1) fuel (nodes.push (.sequenceEnd, e.mark)) anchors aliases
        | .mappingStart anchor tag =>
          let (anchors, aliases) := named anchor
          go (k + 1) fuel (nodes.push (.mappingStart tag, e.mark)) anchors aliases
        | .mappingEnd => go (k + 1) fuel (nodes.push (.mappingEnd, e.mark)) anchors aliases
  go 0 (events.size + 1) #[] [] []

/-- Where a reader stands: the next event and the alias jumps made. -/
structure Cursor where
  pos : Nat := 0
  jumps : Nat := 0
  deriving Inhabited

abbrev Outcome := Except Problem

namespace Document

variable (d : Document)

/-- The event at a position; past the events, the kept failure or the end of the stream. -/
def event? (pos : Nat) : Outcome (Node × Mark) :=
  match d.nodes[pos]? with
  | some e => .ok e
  | none => .error (d.error.getD .endOfStream)

/-- Follows an alias: counts the jump and gives the cursor at the anchored event. -/
def jump (id : Nat) (c : Cursor) : Outcome Cursor := do
  let jumps := c.jumps + 1
  if jumps > d.nodes.size * 100 then throw .repetitionLimit
  return { pos := (d.aliases.lookup id).getD 0, jumps }

/-- Skips one node and everything inside it. -/
def skipNode (c : Cursor) : Outcome Cursor := do
  let mut pos := c.pos
  let mut depth : Nat := 0
  for _ in [0:d.nodes.size + 1] do
    let (n, _) ← d.event? pos
    pos := pos + 1
    match n with
    | .sequenceStart _ | .mappingStart _ => depth := depth + 1
    | .sequenceEnd | .mappingEnd => depth := depth - 1
    | _ => pure ()
    if depth == 0 then break
  return { c with pos }

end Document

/-- A scalar resolved to what it stands for. -/
inductive Scalar where
  | null
  | bool (b : Bool)
  | int (i : Int)
  /-- An integer beyond 64 bits, unsigned or signed as it was read. -/
  | wide (i : Int) (unsigned : Bool)
  | float (x : Float)
  | str (s : String)
  deriving Inhabited

namespace Scalar

def isNullText (s : String) : Bool := s = "null" || s = "Null" || s = "NULL" || s = "~"

def bool? (s : String) : Option Bool :=
  if s = "true" || s = "True" || s = "TRUE" then some true
  else if s = "false" || s = "False" || s = "FALSE" then some false
  else none

def digitIn (radix : Nat) (c : Char) : Option Nat :=
  let v := if '0' ≤ c ∧ c ≤ '9' then c.toNat - 48
    else if 'a' ≤ c ∧ c ≤ 'z' then c.toNat - 87
    else if 'A' ≤ c ∧ c ≤ 'Z' then c.toNat - 55
    else 99
  if v < radix then some v else none

/-- Reads an integer text in a radix: one optional sign (a minus only when signed), then at
least one digit. -/
def readRadix (s : String) (radix : Nat) (signed : Bool) : Option Int :=
  let cs := s.toList
  let (neg, ds) := match cs with
    | '+' :: rest => (false, rest)
    | '-' :: rest => if signed then (true, rest) else (false, cs)
    | _ => (false, cs)
  if ds.isEmpty then none
  else
    let step := fun (acc : Option Nat) (c : Char) => do
      let a ← acc
      let v ← digitIn radix c
      pure (a * radix + v)
    match ds.foldl step (some 0) with
    | some v => some (if neg then -(v : Int) else v)
    | none => none

/-- Whether a text is digits with a leading zero, after one optional sign: text, not a number. -/
def digitsButNotNumber (s : String) : Bool :=
  let cs := match s.toList with
    | '-' :: rest => rest
    | '+' :: rest => rest
    | cs => cs
  match cs with
  | '0' :: rest => !rest.isEmpty && rest.all Decimal.isDigitChar
  | _ => false

def prefixes : List (String × Nat) := [("0x", 16), ("0o", 8), ("0b", 2)]

def signed (s : String) : Bool := s.startsWith "+" || s.startsWith "-"

/-- Reads an unsigned integer below a bound, with an optional plus sign and radix prefix. -/
def unsigned? (s : String) (bound : Nat) : Option Int := Id.run do
  let unpositive := if s.startsWith "+" then (s.drop 1).toString else s
  for (pre, radix) in prefixes do
    if unpositive.startsWith pre then
      let rest := (unpositive.drop 2).toString
      if signed rest then return none
      if let some v := readRadix rest radix false then
        if v < bound then return some v
  if signed unpositive then return none
  if digitsButNotNumber s then return none
  match readRadix unpositive 10 false with
  | some v => if v < bound then some v else none
  | none => none

/-- Reads a signed integer in `[-bound, bound)`, with an optional radix prefix after a minus. -/
def negative? (s : String) (bound : Nat) : Option Int := Id.run do
  let inRange := fun (v : Int) => -(bound : Int) ≤ v && v < bound
  for (pre, radix) in prefixes do
    if s.startsWith ("-" ++ pre) then
      if let some v := readRadix ("-" ++ (s.drop 3).toString) radix true then
        if inRange v then return some v
  if digitsButNotNumber s then return none
  match readRadix s 10 true with
  | some v => if inRange v then some v else none
  | none => none

/-- Reads an integer: 64-bit unsigned, then 64-bit signed, then the 128-bit widths. -/
def int? (s : String) : Option Scalar :=
  match unsigned? s (Nat.pow 2 64) with
  | some v => some (.int v)
  | none =>
    match negative? s (Nat.pow 2 63) with
    | some v => some (.int v)
    | none =>
      match unsigned? s (Nat.pow 2 128) with
      | some v => some (.wide v true)
      | none => (negative? s (Nat.pow 2 127)).map fun v => .wide v false

def infinity : Float := Float.ofScientific 1 false 400

/-- Reads a float: the dotted names of the infinities and NaN, or a finite decimal float. -/
def float? (s : String) : Option Float := Id.run do
  let unpositive := if s.startsWith "+" then (s.drop 1).toString else s
  if s.startsWith "+" && signed unpositive then return none
  if unpositive = ".inf" || unpositive = ".Inf" || unpositive = ".INF" then return some infinity
  if s = "-.inf" || s = "-.Inf" || s = "-.INF" then return some (-infinity)
  if s = ".nan" || s = ".NaN" || s = ".NAN" then return some (0 / 0)
  match Decimal.readFloat? unpositive with
  | some x => if Decimal.isFinite x then some x else none
  | none => none

/-- A plain scalar with no tag, or one with a local tag. -/
def untagged (s : String) : Scalar :=
  if s.isEmpty || isNullText s then .null
  else match bool? s with
    | some b => .bool b
    | none =>
      match int? s with
      | some v => v
      | none =>
        match (if digitsButNotNumber s then none else float? s) with
        | some x => .float x
        | none => .str s

def coreTag (name : String) : String := "tag:yaml.org,2002:" ++ name

/-- The complaint about text that does not fit the kind a tag asks for. -/
def invalidValue (s expected : String) : String :=
  "invalid value: string " ++ Json.quoteVerbatim s ++ ", expected " ++ expected

/-- Resolves a scalar by its tag, text and style. -/
def resolve (tag : Option TagText) (s : String) (style : ScalarStyle) : Except String Scalar :=
  match tag.map (·.text) with
  | some t =>
    if t = coreTag "bool" then
      match bool? s with
      | some b => .ok (.bool b)
      | none => .error (invalidValue s "a boolean")
    else if t = coreTag "int" then
      match int? s with
      | some v => .ok v
      | none => .error (invalidValue s "an integer")
    else if t = coreTag "float" then
      match float? s with
      | some x => .ok (.float x)
      | none => .error (invalidValue s "a float")
    else if t = coreTag "null" then
      if isNullText s then .ok .null else .error (invalidValue s "null")
    else if t.startsWith "!" && style == .plain then .ok (untagged s)
    else .ok (.str s)
  | none => .ok (if style == .plain then untagged s else .str s)

/-- A float as shown in messages: shortest digits, positional, with a point. -/
def floatText (x : Float) : String :=
  if x.isNaN then "NaN"
  else if x.isInf then (if x < 0 then "-inf" else "inf")
  else
    let d := Decimal.shortest x
    String.ofList ((if Decimal.isNegative x then ['-'] else []) ++
      Decimal.positional (Decimal.digitChars d.digits) d.point true)

/-- How a scalar is named when it has the wrong type. -/
def unexpected : Scalar → String
  | .null => "unit value"
  | .bool b => s!"boolean `{b}`"
  | .int i => s!"integer `{i}`"
  | .wide i unsigned => s!"integer `{i}` as " ++ (if unsigned then "u128" else "i128")
  | .float x => "floating point `" ++ floatText x ++ "`"
  | .str s => "string " ++ Json.quoteVerbatim s

end Scalar

/-- The complaint about an event of the wrong type where `expected` was wanted; a scalar is
named by what it resolves to. -/
def invalidType (n : Node) (expected : String) : Problem :=
  match n with
  | .scalar tag s style =>
    match Scalar.resolve tag s style with
    | .ok v => .say (Json.invalidType v.unexpected expected)
    | .error msg => .say msg
  | .sequenceStart _ => .say (Json.invalidType "sequence" expected)
  | .mappingStart _ => .say (Json.invalidType "map" expected)
  | _ => .endOfStream

namespace Document

variable (d : Document)

/-- Reads a scalar's text, following one alias; another node fails as not `expected`. -/
def text (path : Path) (expected : String) (c : Cursor) : Outcome (String × Cursor) := do
  let (n, m) ← d.event? c.pos
  let after := { c with pos := c.pos + 1 }
  match n with
  | .scalar _ s _ => return (s, after)
  | .alias id =>
    let j ← d.jump id after
    let (n', m') ← d.event? j.pos
    match n' with
    | .scalar _ s _ => return (s, { after with jumps := j.jumps })
    | other => throw ((invalidType other expected).locate m' (.alias path))
  | other => throw ((invalidType other expected).locate m path)

/-- The path of the value after a key event: under the key when the key is a scalar. -/
def valuePath (path : Path) (key : Node) : Path :=
  match key with
  | .scalar _ s _ => .map path s
  | _ => .unknown path

def atClose (c : Cursor) : Outcome Bool := do
  let (n, _) ← d.event? c.pos
  return match n with
    | .sequenceEnd | .mappingEnd | .void => true
    | _ => false

end Document

end Conform.Yaml
