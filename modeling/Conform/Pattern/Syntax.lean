import Conform.Pattern.Basic
import Conform.Pattern.Error
import Conform.Pattern.Property
import Conform.Text.Alpha
/-!
Reading a pattern into a compiled pattern, or into the first fault in it.

The reader goes through the pattern once, from left to right, keeping a stack of open groups
and alternations and, inside brackets, a stack of open classes and pending set operations.
Flags take effect where they are written and last to the end of the enclosing group; the
verbose flag `x` makes the reader skip blanks and `#` comments between items.

Faults come in two kinds. Syntax faults stop the reader at once. Faults of meaning (a class
that could match bytes outside UTF-8 with Unicode off, a Unicode literal where only bytes are
allowed, an unknown property) are noted and reported only when the whole pattern has been read
without a syntax fault; the first one noted is reported.
-/
namespace Conform.Pattern

/-- The flags in force while reading. -/
structure Flags where
  caseless : Bool := false
  multiLine : Bool := false
  dotAll : Bool := false
  swapGreed : Bool := false
  unicode : Bool := true
  crlf : Bool := false
  verbose : Bool := false
  deriving Inhabited

/-- A flag letter. -/
inductive Flag where
  | caseless
  | multiLine
  | dotAll
  | swapGreed
  | unicode
  | crlf
  | verbose
  deriving DecidableEq

/-- An item of a flag group: a flag, or the negation `-` that turns the flags after it off. -/
inductive FlagItem where
  | negation
  | flag (f : Flag)
  deriving DecidableEq

namespace Flags

def setFlag (fl : Flags) (f : Flag) (on : Bool) : Flags :=
  match f with
  | .caseless => { fl with caseless := on }
  | .multiLine => { fl with multiLine := on }
  | .dotAll => { fl with dotAll := on }
  | .swapGreed => { fl with swapGreed := on }
  | .unicode => { fl with unicode := on }
  | .crlf => { fl with crlf := on }
  | .verbose => { fl with verbose := on }

def apply (fl : Flags) (items : List FlagItem) : Flags :=
  (items.foldl (fun (acc : Flags × Bool) it =>
    match it with
    | .negation => (acc.1, true)
    | .flag f => (acc.1.setFlag f !acc.2, acc.2)) (fl, false)).1

end Flags

def Flag.ofChar? : Char → Option Flag
  | 'i' => some .caseless
  | 'm' => some .multiLine
  | 's' => some .dotAll
  | 'U' => some .swapGreed
  | 'u' => some .unicode
  | 'R' => some .crlf
  | 'x' => some .verbose
  | _ => none

/-- The nesting of a pattern's syntax: a construct that holds others (a group, a repetition, an
alternation, a sequence of two or more items, a bracketed class, a union of two or more class
items, a set operation) with its span and what it holds, in order; anything else is a leaf. -/
inductive Outline where
  | leaf (span : Span)
  | nest (span : Span) (inner : List Outline)
  deriving Inhabited

def Outline.span : Outline → Span
  | .leaf s | .nest s _ => s

/-- The construct of a sequence or union of parts from `start` to `stop`: none of them is an
empty leaf, one is itself, more are held together. -/
def Outline.ofParts (start stop : Position) : List Outline → Outline
  | [] => .leaf ⟨start, start⟩
  | [o] => o
  | os => .nest ⟨start, stop⟩ os

mutual
/-- The span of the first construct, in reading order, that stands inside more than `limit`
constructs when itself is counted; `depth` constructs are around the one given. -/
def Outline.tooDeep? (limit depth : Nat) : Outline → Option Span
  | .leaf _ => none
  | .nest span inner =>
    if depth + 1 > limit then some span else Outline.tooDeepIn? limit (depth + 1) inner

def Outline.tooDeepIn? (limit depth : Nat) : List Outline → Option Span
  | [] => none
  | o :: os => (Outline.tooDeep? limit depth o).orElse fun _ => Outline.tooDeepIn? limit depth os
end

/-- How deep constructs may nest. -/
def nestLimit : Nat := 250

/-- An element of the sequence being read: a node, or a flag group standing on its own, each
with its outline. -/
inductive Item where
  | node (n : Node) (o : Outline)
  | flags (o : Outline)

def Item.outline : Item → Outline
  | .node _ o | .flags o => o

/-- An open group, with the sequence before it and where that sequence started; or the
alternatives read so far at the current level, and where the first started. -/
inductive GroupFrame where
  | group (before : List Item) (opening : Span) (saved : Flags) (seqStart : Position)
    (index : Option Nat)
  | alternation (branches : List (Node × Outline)) (start : Position)

/-- The set operations between classes in brackets. -/
inductive SetOp where
  | inter
  | diff
  | symm

/-- A union of class items being read: its set, the outlines of its items (the latest first),
and where it starts: at its first item, or where it was opened while it has none. -/
structure ClassUnion where
  set : CharSet := .none
  items : List Outline := []
  start : Position

def ClassUnion.push (u : ClassUnion) (s : CharSet) (o : Outline) : ClassUnion :=
  { set := .union u.set s, items := o :: u.items,
    start := if u.items.isEmpty then o.span.start else u.start }

def ClassUnion.outline (u : ClassUnion) : Outline :=
  Outline.ofParts u.start ((u.items.head?.map (·.span.stop)).getD u.start) u.items.reverse

/-- An open bracket with the union it stands in, or a set operation waiting for its right side
with its left side's outline. -/
inductive ClassFrame where
  | opened (parent : ClassUnion) (negated : Bool) (span : Span)
  | op (kind : SetOp) (lhs : CharSet) (lhsShape : Outline)

/-- The kinds of assertion a pattern can write. -/
inductive AssertKind where
  | startLine
  | endLine
  | startText
  | endText
  | wordBoundary
  | notWordBoundary
  | startAngle
  | endAngle
  | wordStart
  | wordEnd
  | wordStartHalf
  | wordEndHalf

/-- The smallest pieces of a pattern. A literal remembers whether it was written `\xHH`, the one
form that may stand for a byte. -/
inductive Primitive where
  | literal (c : Char) (byte : Bool) (span : Span)
  | assertion (k : AssertKind) (span : Span)
  | dot (span : Span)
  | perl (k : Perl) (negated : Bool) (span : Span)
  | property (negated : Bool) (name : PropertyName) (span : Span)

def Primitive.span : Primitive → Span
  | .literal _ _ s | .assertion _ s | .dot s | .perl _ _ s | .property _ _ s => s

/-- The reader's state. -/
structure Scanner where
  rest : List Char
  pos : Position := .origin
  flags : Flags := {}
  groups : List GroupFrame := []
  /-- Where the sequence being read started. -/
  seqStart : Position := .origin
  classes : List ClassFrame := []
  names : List (String × Span) := []
  /-- How many capturing groups have been opened. -/
  captures : Nat := 0
  deferred : Option Failure := none

abbrev Parse := StateT Scanner (Except Failure)

namespace Parse

def current : Parse (Option Char) := return (← get).rest.head?

def peek : Parse (Option Char) := return (← get).rest.tail.head?

def isEof : Parse Bool := return (← get).rest.isEmpty

def position : Parse Position := return (← get).pos

def here : Parse Span := do
  let p ← position
  return ⟨p, p⟩

def charSpan : Parse Span := do
  let s ← get
  return match s.rest with
    | c :: _ => ⟨s.pos, s.pos.next c⟩
    | [] => ⟨s.pos, s.pos⟩

/-- Moves past the current character; whether a character follows. -/
def bump : Parse Bool := do
  let s ← get
  match s.rest with
  | c :: cs =>
    set { s with rest := cs, pos := s.pos.next c }
    return !cs.isEmpty
  | [] => return false

/-- Moves past the given characters if the pattern goes on with them. -/
def bumpIf (lead : List Char) : Parse Bool := do
  let s ← get
  if lead.isPrefixOf s.rest then
    set { s with rest := s.rest.drop lead.length, pos := lead.foldl Position.next s.pos }
    return true
  else return false

def fail {α : Type} (fault : Fault) (span : Span) (aux : Option Span := none) : Parse α :=
  throw { fault, span, aux }

def ofResult {α : Type} : Except Failure α → Parse α
  | .ok a => pure a
  | .error e => throw e

/-- Notes a fault of meaning, unless one is noted already. -/
def defer (fault : Fault) (span : Span) : Parse Unit :=
  modify fun s => if s.deferred.isSome then s else { s with deferred := some { fault, span } }

end Parse

open Parse

/-- Skips blanks and `#` comments (through their line feed) from a position. -/
def skipBlank (inComment : Bool) : List Char → Position → List Char × Position
  | [], p => ([], p)
  | c :: cs, p =>
    if inComment then skipBlank (c ≠ '\n') cs (p.next c)
    else if Text.isBlank c then skipBlank false cs (p.next c)
    else if c = '#' then skipBlank true cs (p.next c)
    else (c :: cs, p)

/-- The first character past blanks and comment openings; none if there is none. -/
def peekPast (inComment : Bool) : List Char → Option Char
  | [] => none
  | c :: cs =>
    if Text.isBlank c then peekPast inComment cs
    else if !inComment ∧ c = '#' then peekPast true cs
    else some c

/-- In verbose mode, skips blanks and comments. -/
def bumpSpace : Parse Unit := do
  let s ← get
  if s.flags.verbose then
    let (rest, pos) := skipBlank false s.rest s.pos
    set { s with rest, pos }

/-- Moves past the current character and, in verbose mode, blanks after it; whether a
character follows. -/
def bumpAndBumpSpace : Parse Bool := do
  if !(← bump) then return false
  bumpSpace
  return !(← isEof)

/-- The character after the current one, past blanks in verbose mode. -/
def peekSpace : Parse (Option Char) := do
  let s ← get
  match s.rest with
  | [] => return none
  | _ :: cs =>
    if !s.flags.verbose then return cs.head?
    else return (peekPast false cs).orElse fun _ => cs.head?

def fuel : Parse Nat := return (← get).rest.length + 1

def isMeta (c : Char) : Bool := "\\.+*?()|[]{}^$#&-~".contains c

/-- Whether a character may be escaped to stand for itself. -/
def isEscapeable (c : Char) : Bool :=
  isMeta c ||
    (c.toNat < 128 && !(('0' ≤ c ∧ c ≤ '9') ∨ ('A' ≤ c ∧ c ≤ 'Z') ∨ ('a' ≤ c ∧ c ≤ 'z')) &&
      c != '<' && c != '>')

def isHexDigit (c : Char) : Bool :=
  ('0' ≤ c ∧ c ≤ '9') ∨ ('a' ≤ c ∧ c ≤ 'f') ∨ ('A' ≤ c ∧ c ≤ 'F')

def hexValue (ds : List Char) : Nat :=
  ds.foldl (fun acc c =>
    acc * 16 + if c ≤ '9' then c.toNat - 48 else if c ≤ 'F' then c.toNat - 55 else c.toNat - 87) 0

def charOf? (n : Nat) : Option Char :=
  if n.isValidChar then some (Char.ofNat n) else none

/-- Reads the digits of a fixed-width hexadecimal escape, from its first digit. -/
def hexDigits : Nat → Bool → List Char → Parse (List Char)
  | 0, _, acc => return acc.reverse
  | n + 1, first, acc => do
    if !first then
      if !(← bumpAndBumpSpace) then fail .escapeUnexpectedEof (← here)
    match ← current with
    | some c =>
      if isHexDigit c then hexDigits n false (c :: acc) else fail .escapeHexInvalidDigit (← charSpan)
    | none => fail .escapeUnexpectedEof (← here)

/-- Reads a hexadecimal escape from its letter `x`, `u` or `U`: a fixed number of digits, or
digits in braces. Gives the character and whether it was written `\xHH`. -/
def parseHex : Parse (Char × Bool) := do
  let kind ← current
  let width := match kind with
    | some 'x' => 2
    | some 'u' => 4
    | _ => 8
  if !(← bumpAndBumpSpace) then fail .escapeUnexpectedEof (← here)
  if (← current) == some '{' then
    let bracePos ← position
    let start := (← charSpan).stop
    let mut digits : List Char := []
    for _ in [0:← fuel] do
      if !(← bumpAndBumpSpace) then break
      let some c ← current | break
      if c = '}' then break
      if !isHexDigit c then fail .escapeHexInvalidDigit (← charSpan)
      digits := c :: digits
    if ← isEof then fail .escapeUnexpectedEof ⟨bracePos, ← position⟩
    let stop ← position
    let _ ← bumpAndBumpSpace
    if digits.isEmpty then fail .escapeHexEmpty ⟨bracePos, ← position⟩
    let value := hexValue digits.reverse
    match (if value < 4294967296 then charOf? value else none) with
    | some c => return (c, false)
    | none => fail .escapeHexInvalid ⟨start, stop⟩
  else
    let start ← position
    let digits ← hexDigits width true []
    let _ ← bumpAndBumpSpace
    let stop ← position
    match charOf? (hexValue digits) with
    | some c => return (c, kind == some 'x')
    | none => fail .escapeHexInvalid ⟨start, stop⟩

/-- Reads a property class from its letter `p` or `P`. -/
def parseProperty : Parse (Bool × PropertyName) := do
  let negated := (← current) == some 'P'
  if !(← bumpAndBumpSpace) then fail .escapeUnexpectedEof (← here)
  let some c ← current | fail .escapeUnexpectedEof (← here)
  if c = '{' then
    let mut name : List Char := []
    for _ in [0:← fuel] do
      if !(← bumpAndBumpSpace) then break
      let some d ← current | break
      if d = '}' then break
      name := d :: name
    if ← isEof then fail .escapeUnexpectedEof (← here)
    let _ ← bump
    return (negated, PropertyName.ofText (String.ofList name.reverse))
  else
    if c = '\\' then fail .unicodeClassInvalid (← charSpan)
    let _ ← bumpAndBumpSpace
    return (negated, .letter c)

/-- Reads a special word boundary `\b{...}` from its brace; none, with nothing read, when the
brace opens a counted repetition instead. -/
def specialWordBoundary (wbStart : Position) : Parse (Option AssertKind) := do
  let saved ← get
  let start ← position
  if !(← bumpAndBumpSpace) then
    fail .specialWordOrRepetitionUnexpectedEof ⟨wbStart, ← position⟩
  let startContents ← position
  let valid (c : Char) : Bool := ('A' ≤ c ∧ c ≤ 'Z') ∨ ('a' ≤ c ∧ c ≤ 'z') ∨ c = '-'
  match ← current with
  | some c =>
    if !valid c then
      set saved
      return none
  | none => pure ()
  let mut name : List Char := []
  for _ in [0:← fuel] do
    let some c ← current | break
    if !valid c then break
    name := c :: name
    let _ ← bumpAndBumpSpace
  if (← current) != some '}' then fail .specialWordBoundaryUnclosed ⟨start, ← position⟩
  let stop ← position
  let _ ← bump
  match String.ofList name.reverse with
  | "start" => return some .wordStart
  | "end" => return some .wordEnd
  | "start-half" => return some .wordStartHalf
  | "end-half" => return some .wordEndHalf
  | _ => fail .specialWordBoundaryUnrecognized ⟨startContents, stop⟩

/-- Reads an escape from its backslash. -/
def parseEscape : Parse Primitive := do
  let start ← position
  if !(← bump) then fail .escapeUnexpectedEof ⟨start, ← position⟩
  let some c ← current | fail .escapeUnexpectedEof ⟨start, ← position⟩
  if '0' ≤ c ∧ c ≤ '9' then fail .unsupportedBackreference ⟨start, (← charSpan).stop⟩
  if c = 'x' ∨ c = 'u' ∨ c = 'U' then
    let (ch, byte) ← parseHex
    return .literal ch byte ⟨start, ← position⟩
  if c = 'p' ∨ c = 'P' then
    let (negated, name) ← parseProperty
    return .property negated name ⟨start, ← position⟩
  let perl : Option (Perl × Bool) := match c with
    | 'd' => some (.digit, false)
    | 'D' => some (.digit, true)
    | 's' => some (.space, false)
    | 'S' => some (.space, true)
    | 'w' => some (.word, false)
    | 'W' => some (.word, true)
    | _ => none
  if let some (k, negated) := perl then
    let _ ← bump
    return .perl k negated ⟨start, ← position⟩
  let _ ← bump
  let span : Span := ⟨start, ← position⟩
  if isEscapeable c then return .literal c false span
  match c with
  | 'a' => return .literal '\x07' false span
  | 'f' => return .literal '\x0c' false span
  | 't' => return .literal '\t' false span
  | 'n' => return .literal '\n' false span
  | 'r' => return .literal '\r' false span
  | 'v' => return .literal '\x0b' false span
  | 'A' => return .assertion .startText span
  | 'z' => return .assertion .endText span
  | 'b' =>
    if (← current) == some '{' then
      match ← specialWordBoundary start with
      | some k => return .assertion k ⟨start, ← position⟩
      | none => return .assertion .wordBoundary span
    else return .assertion .wordBoundary span
  | 'B' => return .assertion .notWordBoundary span
  | '<' => return .assertion .startAngle span
  | '>' => return .assertion .endAngle span
  | _ => fail .escapeUnrecognized span

/-- Reads a primitive outside brackets. -/
def parsePrimitive : Parse Primitive := do
  let span ← charSpan
  match ← current with
  | some '\\' => parseEscape
  | some '.' =>
    let _ ← bump
    return .dot span
  | some '^' =>
    let _ ← bump
    return .assertion .startLine span
  | some '$' =>
    let _ ← bump
    return .assertion .endLine span
  | some c =>
    let _ ← bump
    return .literal c false span
  | none => fail .escapeUnexpectedEof span

def propertySet (negated : Bool) (name : PropertyName) (span : Span) : Parse CharSet := do
  let fl := (← get).flags
  if !fl.unicode then
    defer .unicodeNotAllowed span
    return .none
  match name.lookup with
  | .error fault =>
    defer fault span
    return .none
  | .ok s =>
    let negated := match name with
      | .valued true _ _ => !negated
      | _ => negated
    let s := if fl.caseless then .fold s true else s
    return if negated then .neg s true else s

def perlSet (k : Perl) (negated : Bool) (span : Span) : Parse CharSet := do
  let fl := (← get).flags
  if fl.unicode then
    return if negated then .neg (.perl k true) true else .perl k true
  else if negated then
    defer .invalidUtf8 span
    return .none
  else return .perl k false

/-- Notes the faults of a literal under the current flags: with Unicode off, a byte above 127
cannot match in UTF-8 text, and a character beyond ASCII is not allowed. -/
def checkLiteral (c : Char) (byte : Bool) (span : Span) : Parse Unit := do
  if !(← get).flags.unicode && c.toNat > 127 then
    defer (if byte then .invalidUtf8 else .unicodeNotAllowed) span

def primitiveNode : Primitive → Parse Node
  | .literal c byte span => do
    let fl := (← get).flags
    checkLiteral c byte span
    return .set (if fl.caseless then .fold (.single c) fl.unicode else .single c)
  | .dot span => do
    let fl := (← get).flags
    if !fl.unicode then
      defer .invalidUtf8 span
      return .empty
    return .set (.anyExcept (if fl.dotAll then [] else if fl.crlf then ['\n', '\r'] else ['\n']))
  | .perl k negated span => return .set (← perlSet k negated span)
  | .property negated name span => return .set (← propertySet negated name span)
  | .assertion k span => do
    let fl := (← get).flags
    let u := fl.unicode
    match k with
    | .startLine =>
      return .look (if fl.multiLine then (if fl.crlf then .lineStartCrlf else .lineStart) else .start)
    | .endLine =>
      return .look (if fl.multiLine then (if fl.crlf then .lineEndCrlf else .lineEnd) else .finish)
    | .startText => return .look .start
    | .endText => return .look .finish
    | .wordBoundary => return .look (.wordBoundary u)
    | .notWordBoundary =>
      if !u then defer .invalidUtf8 span
      return .look (.notWordBoundary u)
    | .startAngle | .wordStart => return .look (.wordStart u)
    | .endAngle | .wordEnd => return .look (.wordEnd u)
    | .wordStartHalf => return .look (.wordStartHalf u)
    | .wordEndHalf => return .look (.wordEndHalf u)

/-- Reads one decimal count of a counted repetition `{n}`, `{n,}` or `{n,m}`, with the blanks
around it. A count that is missing or too large is given back as a fault, since an unclosed
brace is reported before it. -/
def parseCount : Parse (Except Failure Nat) := do
  for _ in [0:← fuel] do
    match ← current with
    | some c => if Text.isBlank c then let _ ← bump else break
    | none => break
  let start ← position
  let mut digits : List Char := []
  for _ in [0:← fuel] do
    match ← current with
    | some c =>
      if '0' ≤ c ∧ c ≤ '9' then
        digits := c :: digits
        let _ ← bumpAndBumpSpace
      else break
    | none => break
  let span : Span := ⟨start, ← position⟩
  for _ in [0:← fuel] do
    match ← current with
    | some c => if Text.isBlank c then let _ ← bumpAndBumpSpace else break
    | none => break
  if digits.isEmpty then return .error { fault := .repetitionCountDecimalEmpty, span }
  let value : Nat := digits.reverse.foldl (fun acc c => acc * 10 + (c.toNat - 48)) 0
  if value ≥ 4294967296 then return .error { fault := .decimalInvalid, span }
  return .ok value

/-- Applies a repetition to the last item read, at its operator. -/
def repeatLast (items : List Item) (min : Nat) (max : Option Nat) : Parse (List Item) := do
  match items with
  | .node n o :: before =>
    let lazy ← if (← bump) && (← current) == some '?' then do let _ ← bump; pure true
      else pure false
    let greedy := !lazy != (← get).flags.swapGreed
    return .node (.rep n min max greedy) (.nest ⟨o.span.start, ← position⟩ [o]) :: before
  | _ => fail .repetitionMissing (← here)

/-- Reads a counted repetition from its brace and applies it to the last item read. -/
def parseCounted (items : List Item) : Parse (List Item) := do
  let start ← position
  let (last, shape, before) ← match items with
    | .node n o :: before => pure (n, o, before)
    | _ => fail .repetitionMissing (← here)
  if !(← bumpAndBumpSpace) then fail .repetitionCountUnclosed ⟨start, ← position⟩
  let first ← parseCount
  if ← isEof then fail .repetitionCountUnclosed ⟨start, ← position⟩
  let (lo, hi) ← if (← current) == some ',' then do
      if !(← bumpAndBumpSpace) then fail .repetitionCountUnclosed ⟨start, ← position⟩
      let lo ← ofResult first
      if (← current) != some '}' then pure (lo, some (← ofResult (← parseCount)))
      else pure (lo, none)
    else do
      let lo ← ofResult first
      pure (lo, some lo)
  if (← current) != some '}' then fail .repetitionCountUnclosed ⟨start, ← position⟩
  let lazy ← if (← bumpAndBumpSpace) && (← current) == some '?' then do let _ ← bump; pure true
    else pure false
  let span : Span := ⟨start, ← position⟩
  if let some h := hi then
    if lo > h then fail .repetitionCountInvalid span
  let greedy := !lazy != (← get).flags.swapGreed
  return .node (.rep last lo hi greedy) (.nest ⟨shape.span.start, span.stop⟩ [shape]) :: before

/-- Reads the items of a flag group up to its `:` or `)`. -/
def parseFlags : Parse (List FlagItem) := do
  let mut items : List (FlagItem × Span) := []
  let mut lastNegation : Option Span := none
  for _ in [0:← fuel] do
    let some c ← current | break
    if c = ':' ∨ c = ')' then break
    let span ← charSpan
    let item ← if c = '-' then pure FlagItem.negation
      else match Flag.ofChar? c with
        | some f => pure (FlagItem.flag f)
        | none => fail .flagUnrecognized span
    lastNegation := if c = '-' then some span else none
    if let some (_, first) := items.find? (·.1 == item) then
      fail (if c = '-' then .flagRepeatedNegation else .flagDuplicate) span (some first)
    items := items ++ [(item, span)]
    if !(← bump) then fail .flagUnexpectedEof (← here)
  if let some span := lastNegation then fail .flagDanglingNegation span
  return items.map (·.1)

def isCaptureChar (c : Char) (first : Bool) : Bool :=
  if first then c = '_' || Text.isAlphabetic c
  else c = '_' || c = '.' || c = '[' || c = ']' || Text.isAlphanumeric c

/-- Reads a capture group's name and its closing `>`. -/
def parseCaptureName : Parse Unit := do
  if ← isEof then fail .groupNameUnexpectedEof (← here)
  let start ← position
  let mut name : List Char := []
  for _ in [0:← fuel] do
    let some c ← current | break
    if c = '>' then break
    if !isCaptureChar c ((← position) == start) then fail .groupNameInvalid (← charSpan)
    name := c :: name
    if !(← bump) then break
  let stop ← position
  if ← isEof then fail .groupNameUnexpectedEof ⟨start, stop⟩
  let _ ← bump
  let text := String.ofList name.reverse
  if text.isEmpty then fail .groupNameEmpty ⟨start, start⟩
  let span : Span := ⟨start, stop⟩
  match (← get).names.lookup text with
  | some first => fail .groupNameDuplicate span (some first)
  | none => modify fun s => { s with names := (text, span) :: s.names }

/-- Opens a group after the items read so far, with the flags it sets; a capturing group takes
the next number. -/
def openGroup (items : List Item) (opening : Span) (flags : List FlagItem) (capturing : Bool) :
    Parse (List Item) := do
  let start ← position
  modify fun s => { s with
    groups := .group items opening s.flags s.seqStart
      (if capturing then some (s.captures + 1) else none) :: s.groups
    captures := if capturing then s.captures + 1 else s.captures
    flags := s.flags.apply flags
    seqStart := start }
  return []

/-- Whether the pattern goes on with a look-around opening. -/
def isLookAround (rest : List Char) : Bool :=
  ['?', '='].isPrefixOf rest || ['?', '!'].isPrefixOf rest ||
    ['?', '<', '='].isPrefixOf rest || ['?', '<', '!'].isPrefixOf rest

/-- Reads from an opening parenthesis: a group, or a flag group standing on its own. -/
def pushGroup (items : List Item) : Parse (List Item) := do
  let opening ← charSpan
  let _ ← bump
  bumpSpace
  if isLookAround (← get).rest then
    fail .unsupportedLookAround ⟨opening.start, (← here).stop⟩
  let inner ← here
  let named ← do
    if ← bumpIf ['?', 'P', '<'] then pure true
    else bumpIf ['?', '<']
  if named then
    parseCaptureName
    openGroup items opening [] true
  else if ← bumpIf ['?'] then
    if ← isEof then fail .groupUnclosed opening
    let flags ← parseFlags
    let close ← current
    let _ ← bump
    if close == some ')' then
      if flags.isEmpty then fail .repetitionMissing inner
      modify fun s => { s with flags := s.flags.apply flags }
      return .flags (.leaf ⟨opening.start, ← position⟩) :: items
    else openGroup items opening flags false
  else openGroup items opening [] true

def itemsNode (items : List Item) : Node :=
  Node.seqList (items.reverse.filterMap fun
    | .node n _ => some n
    | .flags _ => none)

/-- The node and outline of the sequence read, which ends here. -/
def sequenceRead (items : List Item) : Parse (Node × Outline) := do
  let s ← get
  return (itemsNode items, Outline.ofParts s.seqStart s.pos (items.reverse.map Item.outline))

/-- Closes the innermost group at a closing parenthesis. -/
def popGroup (items : List Item) : Parse (List Item) := do
  let (body, bodyShape) ← sequenceRead items
  let s ← get
  let (before, opening, saved, seqStart, rest, node, shape) ← match s.groups with
    | .group before opening saved seqStart index :: rest =>
      pure (before, opening, saved, seqStart, rest, Node.group index body, bodyShape)
    | .alternation branches start :: .group before opening saved seqStart index :: rest =>
      let all := branches ++ [(body, bodyShape)]
      pure (before, opening, saved, seqStart, rest, Node.group index (Node.altList (all.map (·.1))),
        Outline.nest ⟨start, s.pos⟩ (all.map (·.2)))
    | _ => fail .groupUnopened (← charSpan)
  set { s with groups := rest, flags := saved, seqStart }
  let _ ← bump
  return .node node (.nest ⟨opening.start, ← position⟩ [shape]) :: before

/-- Ends an alternative at a bar. -/
def pushAlternate (items : List Item) : Parse (List Item) := do
  let branch ← sequenceRead items
  modify fun s => match s.groups with
    | .alternation branches start :: rest =>
      { s with groups := .alternation (branches ++ [branch]) start :: rest }
    | gs => { s with groups := .alternation [branch] s.seqStart :: gs }
  let _ ← bump
  let start ← position
  modify fun s => { s with seqStart := start }
  return []

/-- Ends the pattern: no group may remain open. -/
def popGroupEnd (items : List Item) : Parse (Node × Outline) := do
  let body ← sequenceRead items
  match (← get).groups with
  | [] => return body
  | [.alternation branches start] =>
    let all := branches ++ [body]
    return (Node.altList (all.map (·.1)), .nest ⟨start, ← position⟩ (all.map (·.2)))
  | .alternation _ _ :: .group _ opening _ _ _ :: _ => fail .groupUnclosed opening
  | .group _ opening _ _ _ :: _ => fail .groupUnclosed opening
  | .alternation _ _ :: _ => fail .groupUnclosed (← here)

/-- The fault for a class left open at the end of the pattern. -/
def unclosedClass {α : Type} : Parse α := do
  match (← get).classes.findSome? fun
      | .opened _ _ span => some span
      | .op _ _ _ => none with
  | some span => fail .classUnclosed span
  | none => fail .classUnclosed (← here)

/-- A bracketed class's set under the current flags: folded, then complemented. With Unicode
off, a set that holds a byte above 127 is noted as a fault. -/
def bracketSet (s : CharSet) (negated : Bool) (span : Span) : Parse CharSet := do
  let fl := (← get).flags
  let s := if fl.caseless then .fold s fl.unicode else s
  let s := if negated then .neg s fl.unicode else s
  if !fl.unicode && s.hasHighByte then defer .invalidUtf8 span
  return s

def posixSet (k : Posix) (negated : Bool) (span : Span) : Parse CharSet :=
  bracketSet (.posix k) negated span

/-- Reads a POSIX class `[:name:]` from its bracket; none, with nothing read, if there is none. -/
def asciiClass? : Parse (Option (CharSet × Span)) := do
  let saved ← get
  let start ← position
  let moved ← bump
  if !moved || (← current) != some ':' then
    set saved
    return none
  if !(← bump) then
    set saved
    return none
  let mut negated := false
  if (← current) == some '^' then
    negated := true
    if !(← bump) then
      set saved
      return none
  let nameStart := (← get).rest
  for _ in [0:← fuel] do
    if (← current) == some ':' then break
    if !(← bump) then break
  if ← isEof then
    set saved
    return none
  let name := nameStart.take (nameStart.length - (← get).rest.length)
  if !(← bumpIf [':', ']']) then
    set saved
    return none
  match Posix.ofName? (String.ofList name) with
  | some k =>
    let span : Span := ⟨start, ← position⟩
    return some (← posixSet k negated span, span)
  | none =>
    set saved
    return none

/-- Combines the pending set operation, if any, with its right side. -/
def popClassOp (rhs : CharSet) (rhsShape : Outline) : Parse (CharSet × Outline) := do
  let s ← get
  match s.classes with
  | .op kind lhs lhsShape :: rest =>
    set { s with classes := rest }
    let (l, r) := if s.flags.caseless then (.fold lhs s.flags.unicode, .fold rhs s.flags.unicode)
      else (lhs, rhs)
    let set : CharSet := match kind with
      | .inter => .inter l r
      | .diff => .diff l r
      | .symm => .symm l r
    return (set, .nest ⟨lhsShape.span.start, rhsShape.span.stop⟩ [lhsShape, rhsShape])
  | _ => return (rhs, rhsShape)

/-- Starts a set operation, at its operator, with the class read so far as its left side. -/
def pushClassOp (kind : SetOp) (union : ClassUnion) (lead : List Char) : Parse ClassUnion := do
  let (lhs, lhsShape) ← popClassOp union.set union.outline
  let _ ← bumpIf lead
  modify fun s => { s with classes := .op kind lhs lhsShape :: s.classes }
  return { start := ← position }

/-- Opens a bracket, after the class read so far in the enclosing bracket. -/
def pushClassOpen (parent : ClassUnion) : Parse ClassUnion := do
  let start ← position
  if !(← bumpAndBumpSpace) then fail .classUnclosed ⟨start, ← position⟩
  let mut negated := false
  if (← current) == some '^' then
    if !(← bumpAndBumpSpace) then fail .classUnclosed ⟨start, ← position⟩
    negated := true
  let mut union : ClassUnion := { start := ← position }
  for _ in [0:← fuel] do
    if (← current) != some '-' then break
    union := union.push (.single '-') (.leaf (← charSpan))
    if !(← bumpAndBumpSpace) then fail .classUnclosed ⟨start, start⟩
  if union.items.isEmpty && (← current) == some ']' then
    union := union.push (.single ']') (.leaf (← charSpan))
    if !(← bumpAndBumpSpace) then fail .classUnclosed ⟨start, ← position⟩
  let span : Span := ⟨start, ← position⟩
  modify fun s => { s with classes := .opened parent negated span :: s.classes }
  return union

/-- Closes the innermost bracket: the enclosing union with it added, or the whole class and its
outline when it was the outermost. -/
def popClass (union : ClassUnion) : Parse (ClassUnion ⊕ (CharSet × Outline)) := do
  let (inner, innerShape) ← popClassOp union.set union.outline
  match (← get).classes with
  | .opened parent negated span :: rest =>
    let _ ← bump
    let span := { span with stop := ← position }
    modify fun s => { s with classes := rest }
    let s ← bracketSet inner negated span
    let shape := Outline.nest span [innerShape]
    if rest.isEmpty then return .inr (s, shape) else return .inl (parent.push s shape)
  | _ => return .inr (inner, innerShape)

def rangeEnd : Primitive → Parse Char
  | .literal c byte span => do
    checkLiteral c byte span
    return c
  | p => fail .classRangeLiteral p.span

def classItem : Primitive → Parse CharSet
  | .literal c byte span => do
    checkLiteral c byte span
    let fl := (← get).flags
    return if fl.caseless then .fold (.single c) fl.unicode else .single c
  | .perl k negated span => perlSet k negated span
  | .property negated name span => propertySet negated name span
  | p => fail .classEscapeInvalid p.span

/-- Reads one item in brackets: an escape or a character. -/
def parseClassPrimitive : Parse Primitive := do
  match ← current with
  | some '\\' => parseEscape
  | some c =>
    let span ← charSpan
    let _ ← bump
    return .literal c false span
  | none => unclosedClass

/-- Reads an item in brackets, or a range of two, with its span. -/
def parseClassRange : Parse (CharSet × Span) := do
  let first ← parseClassPrimitive
  bumpSpace
  let some c ← current | unclosedClass
  let after ← peekSpace
  if c != '-' || after == some ']' || after == some '-' then return (← classItem first, first.span)
  if !(← bumpAndBumpSpace) then unclosedClass
  let second ← parseClassPrimitive
  let span : Span := ⟨first.span.start, second.span.stop⟩
  let lo ← rangeEnd first
  let hi ← rangeEnd second
  if lo > hi then fail .classRangeInvalid span
  let fl := (← get).flags
  return (if fl.caseless then .fold (.range lo hi) fl.unicode else .range lo hi, span)

/-- Reads a bracketed class from its opening bracket, with its outline. -/
def parseClass : Parse (CharSet × Outline) := do
  let mut union : ClassUnion := { start := ← position }
  for _ in [0:← fuel] do
    bumpSpace
    let some c ← current | unclosedClass
    let next ← peek
    if c = '[' then
      if !(← get).classes.isEmpty then
        if let some (s, span) ← asciiClass? then
          union := union.push s (.leaf span)
          continue
      union ← pushClassOpen union
    else if c = ']' then
      match ← popClass union with
      | .inl u => union := u
      | .inr s => return s
    else if c = '&' ∧ next = some '&' then
      union ← pushClassOp .inter union ['&', '&']
    else if c = '-' ∧ next = some '-' then
      union ← pushClassOp .diff union ['-', '-']
    else if c = '~' ∧ next = some '~' then
      union ← pushClassOp .symm union ['~', '~']
    else
      let (s, span) ← parseClassRange
      union := union.push s (.leaf span)
  unclosedClass

/-- Reads a whole pattern. -/
def parseAll : Parse (Node × Outline) := do
  let mut items : List Item := []
  for _ in [0:← fuel] do
    bumpSpace
    let some c ← current | break
    match c with
    | '(' => items ← pushGroup items
    | ')' => items ← popGroup items
    | '|' => items ← pushAlternate items
    | '[' =>
      let (set, shape) ← parseClass
      items := .node (.set set) shape :: items
    | '?' => items ← repeatLast items 0 (some 1)
    | '*' => items ← repeatLast items 0 none
    | '+' => items ← repeatLast items 1 none
    | '{' => items ← parseCounted items
    | _ =>
      let p ← parsePrimitive
      items := .node (← primitiveNode p) (.leaf p.span) :: items
  popGroupEnd items

def parse (pattern : String) : Except Failure Node :=
  match parseAll.run { rest := pattern.toList } with
  | .error e => .error e
  | .ok ((node, shape), s) =>
    match shape.tooDeep? nestLimit 0, s.deferred with
    | some span, _ => .error { fault := .nestLimitExceeded nestLimit, span }
    | none, some f => .error f
    | none, none => .ok node

end Conform.Pattern
