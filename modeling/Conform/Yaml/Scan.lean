/-!
The YAML scanner: from characters to tokens.

The scanner keeps the indentation columns of the open block collections, the flow nesting
level and, per flow level, the one place where a simple key (a key not introduced by `?`) may
have started. Tokens wait in a queue until no simple key can still be inserted before the first
of them: a `:` that turns out to follow a simple key inserts a KEY token (and, in block
context, a BLOCK-MAPPING-START token) at the key's place. Block collections are closed by
BLOCK-END tokens when a line starts left of their column.

Positions count UTF-8 bytes from the start (the index) and characters within a line (the
column), lines and columns from zero. A line feed, a carriage return (with a line feed after it,
the two as one), a next-line, a line separator and a paragraph separator each end a line.
-/
namespace Conform.Yaml

/-- A position in YAML text. -/
structure Mark where
  index : Nat := 0
  line : Nat := 0
  column : Nat := 0
  deriving Inhabited, BEq, Repr

/-- A position as text, counting lines and columns from one. -/
def Mark.text (m : Mark) : String := s!"line {m.line + 1} column {m.column + 1}"

def Mark.isSet (m : Mark) : Bool := m.line != 0 || m.column != 0

/-- A reading failure: a problem at a position, with the construct being read and where it
started when known; a failure of the character reader has a byte offset instead. -/
structure Failure where
  problem : String
  problemMark : Mark := {}
  offset : Nat := 0
  context : Option String := none
  contextMark : Mark := {}
  deriving Inhabited

def Failure.text (f : Failure) : String :=
  let place := if f.problemMark.isSet then " at " ++ f.problemMark.text
    else if f.offset != 0 then s!" at position {f.offset}" else ""
  let context := match f.context with
    | some c =>
      ", " ++ c ++
        (if f.contextMark.isSet && (f.contextMark.line != f.problemMark.line ||
            f.contextMark.column != f.problemMark.column) then " at " ++ f.contextMark.text
         else "")
    | none => ""
  f.problem ++ place ++ context

/-- How a scalar was written. -/
inductive ScalarStyle where
  | plain
  | single
  | double
  | literal
  | folded
  deriving DecidableEq, Inhabited, Repr

/-- The text of a tag or tag prefix: a URI, whose `%` escapes may spell byte sequences that are
no UTF-8. Each such sequence stands in `text` as U+FFFD, and makes the whole text not `valid`. -/
structure TagText where
  text : String := ""
  valid : Bool := true
  deriving Inhabited, BEq, Repr

instance : Append TagText := ⟨fun a b => ⟨a.text ++ b.text, a.valid && b.valid⟩⟩

def TagText.ofString (s : String) : TagText := ⟨s, true⟩

/-- The kinds of token. -/
inductive TokenKind where
  | streamStart
  | streamEnd
  | versionDirective (major minor : Nat)
  | tagDirective (handle : String) (pfx : TagText)
  | documentStart
  | documentEnd
  | blockSequenceStart
  | blockMappingStart
  | blockEnd
  | flowSequenceStart
  | flowSequenceEnd
  | flowMappingStart
  | flowMappingEnd
  | blockEntry
  | flowEntry
  | key
  | value
  | alias (name : String)
  | anchor (name : String)
  | tag (handle : String) (suffix : TagText)
  | scalar (text : String) (style : ScalarStyle)
  deriving Inhabited

/-- A token and where it starts and stops. -/
structure Token where
  kind : TokenKind
  start : Mark
  stop : Mark
  deriving Inhabited

/-- A place where a simple key may have started. -/
structure SimpleKey where
  possible : Bool := false
  required : Bool := false
  tokenNumber : Nat := 0
  mark : Mark := {}
  deriving Inhabited

/-- The scanner's state. -/
structure Scanner where
  rest : List Char
  mark : Mark := {}
  queue : List Token := []
  parsed : Nat := 0
  available : Bool := false
  indent : Int := -1
  indents : List Int := []
  keyAllowed : Bool := false
  keys : List SimpleKey := []
  flowLevel : Nat := 0
  started : Bool := false
  deriving Inhabited

abbrev Scan := StateT Scanner (Except Failure)

def isBlank (c : Char) : Bool := c = ' ' || c = '\t'

def isBreak (c : Char) : Bool :=
  c = '\r' || c = '\n' || c = '\x85' || c = '\u2028' || c = '\u2029'

/-- The character standing for the end of the text. -/
def endChar : Char := '\x00'

def isBreakZ (c : Char) : Bool := isBreak c || c = endChar

def isBlankZ (c : Char) : Bool := isBlank c || isBreakZ c

/-- Whether a character may stand in an anchor or a directive name. -/
def isAlpha (c : Char) : Bool :=
  ('0' ≤ c ∧ c ≤ '9') || ('a' ≤ c ∧ c ≤ 'z') || ('A' ≤ c ∧ c ≤ 'Z') || c = '_' || c = '-'

def isDigit (c : Char) : Bool := '0' ≤ c ∧ c ≤ '9'

def isHex (c : Char) : Bool :=
  isDigit c || ('a' ≤ c ∧ c ≤ 'f') || ('A' ≤ c ∧ c ≤ 'F')

def hexValue (c : Char) : Nat :=
  if isDigit c then c.toNat - 48 else if c ≤ 'F' then c.toNat - 55 else c.toNat - 87

/-- Whether a character may be read at all. -/
def isAllowed (c : Char) : Bool :=
  let v := c.toNat
  v = 9 || v = 10 || v = 13 || (0x20 ≤ v && v ≤ 0x7E) || v = 0x85 ||
    (0xA0 ≤ v && v ≤ 0xD7FF) || (0xE000 ≤ v && v ≤ 0xFFFD) || (0x10000 ≤ v && v ≤ 0x10FFFF)

namespace Scan

/-- The character `k` places ahead; the end of the text reads as `endChar`. -/
def ahead (k : Nat) : Scan Char := return ((← get).rest.drop k).head?.getD endChar

def cur : Scan Char := ahead 0

def atEnd : Scan Bool := return (← get).rest.isEmpty

def mark : Scan Mark := return (← get).mark

/-- The fuel for a loop that moves at least one character a round. -/
def fuel : Scan Nat := return (← get).rest.length + 1

/-- Moves past one character of a line. -/
def skip : Scan Unit := modify fun s =>
  match s.rest with
  | c :: cs => { s with rest := cs, mark := ⟨s.mark.index + c.utf8Size, s.mark.line, s.mark.column + 1⟩ }
  | [] => s

/-- Moves past a line break. -/
def skipLine : Scan Unit := modify fun s =>
  match s.rest with
  | '\r' :: '\n' :: cs => { s with rest := cs, mark := ⟨s.mark.index + 2, s.mark.line + 1, 0⟩ }
  | c :: cs =>
    if isBreak c then { s with rest := cs, mark := ⟨s.mark.index + c.utf8Size, s.mark.line + 1, 0⟩ }
    else s
  | [] => s

/-- Reads one character of a line. -/
def read : Scan Char := do
  let c ← cur
  skip
  return c

/-- Reads a line break, if there is one: a line separator or paragraph separator as itself, any other as a
line feed. -/
def readLine : Scan String := do
  let c ← cur
  if !isBreak c then return ""
  skipLine
  return if c = '\u2028' || c = '\u2029' then c.toString else "\n"

def fail {α : Type} (context : Option String) (contextMark : Mark) (problem : String) : Scan α := do
  throw { problem, problemMark := (← get).mark, context, contextMark }

def enqueue (kind : TokenKind) (start stop : Mark) : Scan Unit :=
  modify fun s => { s with queue := s.queue ++ [⟨kind, start, stop⟩] }

end Scan

open Scan

/-- Drops the simple keys that can no longer be keys: those on an earlier line or more than
1024 characters back. A required one is a failure. -/
def staleSimpleKeys : Scan Unit := do
  let s ← get
  let mut keys : List SimpleKey := []
  for k in s.keys.reverse do
    if k.possible && (k.mark.line < s.mark.line || k.mark.index + 1024 < s.mark.index) then
      if k.required then
        throw { problem := "could not find expected ':'", problemMark := s.mark,
                context := some "while scanning a simple key", contextMark := k.mark }
      keys := { k with possible := false } :: keys
    else keys := k :: keys
  set { s with keys }

/-- Forgets the simple key of the current flow level; a required one is a failure. -/
def removeSimpleKey : Scan Unit := do
  let s ← get
  match s.keys with
  | k :: rest =>
    if k.possible && k.required then
      throw { problem := "could not find expected ':'", problemMark := s.mark,
              context := some "while scanning a simple key", contextMark := k.mark }
    set { s with keys := { k with possible := false } :: rest }
  | [] => pure ()

/-- Notes that a simple key may start here, if one may. -/
def saveSimpleKey : Scan Unit := do
  let s ← get
  if s.keyAllowed then
    let key : SimpleKey :=
      { possible := true, required := s.flowLevel == 0 && s.indent == (s.mark.column : Int),
        tokenNumber := s.parsed + s.queue.length, mark := s.mark }
    removeSimpleKey
    modify fun s => { s with keys := key :: s.keys.drop 1 }

def increaseFlowLevel : Scan Unit :=
  modify fun s => { s with keys := {} :: s.keys, flowLevel := s.flowLevel + 1 }

def decreaseFlowLevel : Scan Unit :=
  modify fun s =>
    if s.flowLevel > 0 then { s with flowLevel := s.flowLevel - 1, keys := s.keys.drop 1 } else s

/-- In block context, opens a block collection at a column right of the current indentation,
its start token queued at the end or at the place of token number `number`. -/
def rollIndent (column : Nat) (number : Option Nat) (kind : TokenKind) (m : Mark) : Scan Unit := do
  let s ← get
  if s.flowLevel == 0 && s.indent < column then
    let t : Token := ⟨kind, m, m⟩
    let queue := match number with
      | none => s.queue ++ [t]
      | some n => s.queue.insertIdx (n - s.parsed) t
    set { s with indents := s.indent :: s.indents, indent := column, queue }

/-- In block context, closes the block collections right of a column. -/
def unrollIndent (column : Int) : Scan Unit := do
  let s ← get
  if s.flowLevel == 0 then
    for _ in [0:s.indents.length + 1] do
      let s ← get
      if s.indent > column then
        enqueue .blockEnd s.mark s.mark
        modify fun s => { s with indent := s.indents.headD (-1), indents := s.indents.drop 1 }
      else break

def fetchStreamStart : Scan Unit := do
  modify fun s => { s with indent := -1, keys := [{}], keyAllowed := true, started := true }
  let m ← mark
  enqueue .streamStart m m

/-- Ends the stream, on a fresh line. -/
def fetchStreamEnd : Scan Unit := do
  modify fun s =>
    if s.mark.column != 0 then { s with mark := { s.mark with column := 0, line := s.mark.line + 1 } }
    else s
  unrollIndent (-1)
  removeSimpleKey
  modify fun s => { s with keyAllowed := false }
  let m ← mark
  enqueue .streamEnd m m

/-- Skips blanks, comments and line breaks up to the next token. -/
def scanToNextToken : Scan Unit := do
  for _ in [0:← fuel] do
    if (← mark).column == 0 && (← cur) == '\uFEFF' then skip
    for _ in [0:← fuel] do
      let s ← get
      let c ← cur
      if c = ' ' || ((s.flowLevel > 0 || !s.keyAllowed) && c = '\t') then skip else break
    if (← cur) == '#' then
      for _ in [0:← fuel] do
        if isBreakZ (← cur) then break
        skip
    if isBreak (← cur) then
      skipLine
      if (← get).flowLevel == 0 then modify fun s => { s with keyAllowed := true }
    else break

/-- Skips blanks and a comment to the end of the line, which must then end. -/
def finishLine (context : String) (start : Mark) : Scan Unit := do
  for _ in [0:← fuel] do
    if isBlank (← cur) then skip else break
  if (← cur) == '#' then
    for _ in [0:← fuel] do
      if isBreakZ (← cur) then break
      skip
  if !isBreakZ (← cur) then fail (some context) start "did not find expected comment or line break"
  if isBreak (← cur) then skipLine

/-- Reads one number of a `%YAML` directive. -/
def versionNumber (start : Mark) : Scan Nat := do
  let mut value := 0
  let mut length := 0
  for _ in [0:← fuel] do
    let c ← cur
    if !isDigit c then break
    length := length + 1
    if length > 9 then fail (some "while scanning a %YAML directive") start "found extremely long version number"
    value := value * 10 + (c.toNat - 48)
    skip
  if length == 0 then fail (some "while scanning a %YAML directive") start "did not find expected version number"
  return value

/-- Reads a tag handle: `!`, `!name!` or, outside directives, `!name` that is part of a tag. -/
def tagHandle (directive : Bool) (start : Mark) : Scan String := do
  if (← cur) != '!' then
    fail (some (if directive then "while scanning a tag directive" else "while scanning a tag")) start
      "did not find expected '!'"
  let mut text := (← read).toString
  for _ in [0:← fuel] do
    if isAlpha (← cur) then text := text.push (← read) else break
  if (← cur) == '!' then text := text.push (← read)
  else if directive && text != "!" then
    fail (some "while parsing a tag directive") start "did not find expected '!'"
  return text

/-- Whether a character may stand in a tag's URI. -/
def isUriChar (c : Char) (verbatim : Bool) : Bool :=
  isAlpha c || ";/?:@&=+$.%!~*'()".contains c || (verbatim && (c = ',' || c = '[' || c = ']'))

/-- Decodes one UTF-8 sequence written as `%XX` escapes; only its first byte and the marks of
the bytes after it are checked. -/
def uriEscapes (directive : Bool) (start : Mark) : Scan TagText := do
  let context := some (if directive then "while parsing a %TAG directive" else "while parsing a tag")
  let mut bytes : List UInt8 := []
  let mut width := 0
  for _ in [0:(← fuel)] do
    if !((← cur) == '%' && isHex (← ahead 1) && isHex (← ahead 2)) then
      fail context start "did not find URI escaped octet"
    let octet := hexValue (← ahead 1) * 16 + hexValue (← ahead 2)
    if width == 0 then
      width := if octet &&& 0x80 == 0 then 1 else if octet &&& 0xE0 == 0xC0 then 2
        else if octet &&& 0xF0 == 0xE0 then 3 else if octet &&& 0xF8 == 0xF0 then 4 else 0
      if width == 0 then fail context start "found an incorrect leading UTF-8 octet"
    else if octet &&& 0xC0 != 0x80 then fail context start "found an incorrect trailing UTF-8 octet"
    bytes := bytes ++ [octet.toUInt8]
    skip
    skip
    skip
    width := width - 1
    if width == 0 then break
  return match String.fromUTF8? ⟨bytes.toArray⟩ with
    | some t => ⟨t, true⟩
    | none => ⟨"\uFFFD", false⟩

/-- Reads the URI part of a tag, after the given head (whose first `!` is dropped). -/
def tagUri (verbatim directive : Bool) (head : String) (start : Mark) : Scan TagText := do
  let mut text := TagText.ofString (head.drop 1).toString
  let mut length := head.length
  for _ in [0:← fuel] do
    let c ← cur
    if !isUriChar c verbatim then break
    if c = '%' then text := text ++ (← uriEscapes directive start)
    else text := text ++ .ofString (← read).toString
    length := length + 1
  if length == 0 then
    fail (some (if directive then "while parsing a %TAG directive" else "while parsing a tag")) start
      "did not find expected tag URI"
  return text

/-- Reads a directive from its `%`. -/
def scanDirective : Scan Token := do
  let start ← mark
  skip
  let mut name := ""
  for _ in [0:← fuel] do
    if isAlpha (← cur) then name := name.push (← read) else break
  if name.isEmpty then fail (some "while scanning a directive") start "could not find expected directive name"
  if !isBlankZ (← cur) then
    fail (some "while scanning a directive") start "found unexpected non-alphabetical character"
  let kind ← if name = "YAML" then do
      for _ in [0:← fuel] do
        if isBlank (← cur) then skip else break
      let major ← versionNumber start
      if (← cur) != '.' then
        fail (some "while scanning a %YAML directive") start "did not find expected digit or '.' character"
      skip
      let minor ← versionNumber start
      pure (TokenKind.versionDirective major minor)
    else if name = "TAG" then do
      for _ in [0:← fuel] do
        if isBlank (← cur) then skip else break
      let handle ← tagHandle true start
      if !isBlank (← cur) then
        fail (some "while scanning a %TAG directive") start "did not find expected whitespace"
      for _ in [0:← fuel] do
        if isBlank (← cur) then skip else break
      let pfx ← tagUri true true "" start
      if !isBlankZ (← cur) then
        fail (some "while scanning a %TAG directive") start "did not find expected whitespace or line break"
      pure (TokenKind.tagDirective handle pfx)
    else fail (some "while scanning a directive") start "found unknown directive name"
  let stop ← mark
  finishLine "while scanning a directive" start
  return ⟨kind, start, stop⟩

/-- Reads an anchor `&name` or an alias `*name`. -/
def scanAnchor (isAlias : Bool) : Scan Token := do
  let start ← mark
  skip
  let mut name := ""
  for _ in [0:← fuel] do
    if isAlpha (← cur) then name := name.push (← read) else break
  let stop ← mark
  let c ← cur
  if name.isEmpty || !(isBlankZ c || "?:,]\x7d%@`".contains c) then
    fail (some (if isAlias then "while scanning an alias" else "while scanning an anchor")) start
      "did not find expected alphabetic or numeric character"
  return ⟨if isAlias then .alias name else .anchor name, start, stop⟩

/-- Reads a tag from its `!`. -/
def scanTag : Scan Token := do
  let start ← mark
  let (handle, suffix) ← if (← ahead 1) == '<' then do
      skip
      skip
      let suffix ← tagUri true false "" start
      if (← cur) != '>' then fail (some "while scanning a tag") start "did not find the expected '>'"
      skip
      pure ("", suffix)
    else do
      let handle ← tagHandle false start
      if handle.length > 1 && handle.startsWith "!" && handle.endsWith "!" then
        pure (handle, ← tagUri false false "" start)
      else
        let suffix ← tagUri false false handle start
        if suffix.text.isEmpty then pure ("", .ofString "!") else pure ("!", suffix)
  let c ← cur
  if !isBlankZ c && !((← get).flowLevel > 0 && c = ',') then
    fail (some "while scanning a tag") start "did not find expected whitespace or line break"
  return ⟨.tag handle suffix, start, ← mark⟩

/-- Skips the indentation of the lines of a block scalar and reads their breaks; fixes the
indentation when it is not known yet. -/
def blockScalarBreaks (indent : Nat) (start : Mark) : Scan (Nat × String × Mark) := do
  let mut breaks := ""
  let mut stop ← mark
  let mut maxIndent := 0
  for _ in [0:← fuel] do
    for _ in [0:← fuel] do
      if (indent == 0 || (← mark).column < indent) && (← cur) == ' ' then skip else break
    if (← mark).column > maxIndent then maxIndent := (← mark).column
    if (indent == 0 || (← mark).column < indent) && (← cur) == '\t' then
      fail (some "while scanning a block scalar") start
        "found a tab character where an indentation space is expected"
    if !isBreak (← cur) then break
    breaks := breaks ++ (← readLine)
    stop ← mark
  let indent ← if indent == 0 then do
      let base := (← get).indent + 1
      let i : Int := max (max maxIndent base) 1
      pure i.toNat
    else pure indent
  return (indent, breaks, stop)

/-- Reads a literal (`|`) or folded (`>`) block scalar. -/
def scanBlockScalar (literal : Bool) : Scan Token := do
  let start ← mark
  skip
  let context := "while scanning a block scalar"
  let mut chomping : Int := 0
  let mut increment := 0
  let c ← cur
  if c = '+' || c = '-' then
    chomping := if c = '+' then 1 else -1
    skip
    if isDigit (← cur) then
      if (← cur) == '0' then fail (some context) start "found an indentation indicator equal to 0"
      increment := (← cur).toNat - 48
      skip
  else if isDigit c then
    if c = '0' then fail (some context) start "found an indentation indicator equal to 0"
    increment := c.toNat - 48
    skip
    let d ← cur
    if d = '+' || d = '-' then
      chomping := if d = '+' then 1 else -1
      skip
  finishLine context start
  let mut stop ← mark
  let base := (← get).indent
  let mut indent := if increment > 0 then (if base ≥ 0 then (base + increment).toNat else increment) else 0
  let (i, breaks, e) ← blockScalarBreaks indent start
  indent := i
  stop := e
  let mut trailing := breaks
  let mut leadingBreak := ""
  let mut text := ""
  let mut leadingBlank := false
  for _ in [0:← fuel] do
    if !((← mark).column == indent && !(← atEnd)) then break
    let trailingBlank := isBlank (← cur)
    if !literal && leadingBreak.startsWith "\n" && !leadingBlank && !trailingBlank then
      if trailing.isEmpty then text := text.push ' '
      leadingBreak := ""
    else
      text := text ++ leadingBreak
      leadingBreak := ""
    text := text ++ trailing
    trailing := ""
    leadingBlank := isBlank (← cur)
    for _ in [0:← fuel] do
      if isBreakZ (← cur) then break
      text := text.push (← read)
    leadingBreak ← readLine
    let (_, breaks, e) ← blockScalarBreaks indent start
    trailing := breaks
    stop := e
  if chomping != -1 then text := text ++ leadingBreak
  if chomping == 1 then text := text ++ trailing
  return ⟨.scalar text (if literal then .literal else .folded), start, stop⟩

/-- Whether the pattern starts a document marker `---` or `...` at the start of a line. -/
def atDocumentMarker : Scan Bool := do
  if (← mark).column != 0 then return false
  let a ← ahead 0
  let b ← ahead 1
  let c ← ahead 2
  return ((a = '-' && b = '-' && c = '-') || (a = '.' && b = '.' && c = '.')) && isBlankZ (← ahead 3)

/-- Reads an escape of a double-quoted scalar from its backslash. -/
def escape (start : Mark) : Scan String := do
  let context := some "while parsing a quoted scalar"
  let c ← ahead 1
  let simple : Option String := match c with
    | '0' => some "\x00"
    | 'a' => some "\x07"
    | 'b' => some "\x08"
    | 't' | '\t' => some "\t"
    | 'n' => some "\n"
    | 'v' => some "\x0b"
    | 'f' => some "\x0c"
    | 'r' => some "\r"
    | 'e' => some "\x1b"
    | ' ' => some " "
    | '"' => some "\""
    | '\'' => some "'"
    | '/' => some "/"
    | '\\' => some "\\"
    | 'N' => some "\x85"
    | '_' => some "\xa0"
    | 'L' => some "\u2028"
    | 'P' => some "\u2029"
    | _ => none
  let width := match c with
    | 'x' => 2
    | 'u' => 4
    | 'U' => 8
    | _ => 0
  if simple.isNone && width == 0 then fail context start "found unknown escape character"
  skip
  skip
  match simple with
  | some t => return t
  | none =>
    let mut value := 0
    for k in [0:width] do
      let d ← ahead k
      if !isHex d then fail context start "did not find expected hexdecimal number"
      value := value * 16 + hexValue d
    if (0xD800 ≤ value && value ≤ 0xDFFF) || value > 0x10FFFF then
      fail context start "found invalid Unicode character escape code"
    for _ in [0:width] do skip
    return (Char.ofNat value).toString

/-- Joins the blanks or line breaks between two parts of a flow or plain scalar: a single line
break folds into a space, more breaks stand for themselves. -/
def joinBreaks (leadingBreak trailing : String) : String :=
  if leadingBreak.startsWith "\n" then (if trailing.isEmpty then " " else trailing)
  else leadingBreak ++ trailing

/-- Reads a single- or double-quoted scalar. -/
def scanFlowScalar (single : Bool) : Scan Token := do
  let start ← mark
  skip
  let context := some "while scanning a quoted scalar"
  let quote := if single then '\'' else '"'
  let mut text := ""
  for _ in [0:← fuel] do
    if ← atDocumentMarker then fail context start "found unexpected document indicator"
    if ← atEnd then fail context start "found unexpected end of stream"
    let mut leadingBlanks := false
    for _ in [0:← fuel] do
      let c ← cur
      if isBlankZ c then break
      if single && c = '\'' && (← ahead 1) == '\'' then
        text := text.push '\''
        skip
        skip
      else if c = quote then break
      else if !single && c = '\\' && isBreak (← ahead 1) then
        skip
        skipLine
        leadingBlanks := true
        break
      else if !single && c = '\\' then text := text ++ (← escape start)
      else text := text.push (← read)
    if (← cur) == quote then break
    let mut whitespace := ""
    let mut leadingBreak := ""
    let mut trailing := ""
    for _ in [0:← fuel] do
      let c ← cur
      if isBlank c then
        if !leadingBlanks then whitespace := whitespace.push (← read) else skip
      else if isBreak c then
        if !leadingBlanks then
          whitespace := ""
          leadingBreak ← readLine
          leadingBlanks := true
        else trailing := trailing ++ (← readLine)
      else break
    if leadingBlanks then text := text ++ joinBreaks leadingBreak trailing
    else text := text ++ whitespace
  skip
  return ⟨.scalar text (if single then .single else .double), start, ← mark⟩

/-- Reads a plain scalar. -/
def scanPlainScalar : Scan Token := do
  let start ← mark
  let mut stop := start
  let indent := (← get).indent + 1
  let mut text := ""
  let mut leadingBlanks := false
  let mut whitespace := ""
  let mut leadingBreak := ""
  let mut trailing := ""
  let context := some "while scanning a plain scalar"
  for _ in [0:← fuel] do
    if ← atDocumentMarker then break
    if (← cur) == '#' then break
    let mut moved := false
    for _ in [0:← fuel] do
      let c ← cur
      if isBlankZ c then break
      let flow := (← get).flowLevel > 0
      let n ← ahead 1
      if flow && c = ':' && ",?[]{}".contains n then fail context start "found unexpected ':'"
      if (c = ':' && isBlankZ n) || (flow && ",[]{}".contains c) then break
      if leadingBlanks || !whitespace.isEmpty then
        if leadingBlanks then
          text := text ++ joinBreaks leadingBreak trailing
          leadingBreak := ""
          trailing := ""
          leadingBlanks := false
        else
          text := text ++ whitespace
          whitespace := ""
      text := text.push (← read)
      moved := true
      stop ← mark
    if !(isBlank (← cur) || isBreak (← cur)) then break
    for _ in [0:← fuel] do
      let c ← cur
      if isBlank c then
        if leadingBlanks && ((← mark).column : Int) < indent && c = '\t' then
          fail context start "found a tab character that violates indentation"
        if !leadingBlanks then whitespace := whitespace.push (← read) else skip
      else if isBreak c then
        if !leadingBlanks then
          whitespace := ""
          leadingBreak ← readLine
          leadingBlanks := true
        else trailing := trailing ++ (← readLine)
      else break
    if (← get).flowLevel == 0 && ((← mark).column : Int) < indent then break
    if !moved && (← atEnd) then break
  if leadingBlanks then modify fun s => { s with keyAllowed := true }
  return ⟨.scalar text .plain, start, stop⟩

/-- Queues the token of an indicator of the given width. -/
def indicator (kind : TokenKind) (width : Nat) : Scan Unit := do
  let start ← mark
  for _ in [0:width] do skip
  enqueue kind start (← mark)

/-- Reads the next token into the queue. -/
def fetchNextToken : Scan Unit := do
  if !(← get).started then return ← fetchStreamStart
  scanToNextToken
  staleSimpleKeys
  unrollIndent (← mark).column
  if ← atEnd then return ← fetchStreamEnd
  let c ← cur
  let column := (← mark).column
  let flow := (← get).flowLevel > 0
  let next ← ahead 1
  if column == 0 && c = '%' then
    unrollIndent (-1)
    removeSimpleKey
    modify fun s => { s with keyAllowed := false }
    let t ← scanDirective
    enqueue t.kind t.start t.stop
  else if ← atDocumentMarker then
    unrollIndent (-1)
    removeSimpleKey
    modify fun s => { s with keyAllowed := false }
    indicator (if c = '-' then .documentStart else .documentEnd) 3
  else if c = '[' || c = '{' then
    saveSimpleKey
    increaseFlowLevel
    modify fun s => { s with keyAllowed := true }
    indicator (if c = '[' then .flowSequenceStart else .flowMappingStart) 1
  else if c = ']' || c = '}' then
    removeSimpleKey
    decreaseFlowLevel
    modify fun s => { s with keyAllowed := false }
    indicator (if c = ']' then .flowSequenceEnd else .flowMappingEnd) 1
  else if c = ',' then
    removeSimpleKey
    modify fun s => { s with keyAllowed := true }
    indicator .flowEntry 1
  else if c = '-' && isBlankZ next then
    if !flow then
      if !(← get).keyAllowed then fail none (← mark) "block sequence entries are not allowed in this context"
      rollIndent column none .blockSequenceStart (← mark)
    removeSimpleKey
    modify fun s => { s with keyAllowed := true }
    indicator .blockEntry 1
  else if c = '?' && (flow || isBlankZ next) then
    if !flow then
      if !(← get).keyAllowed then fail none (← mark) "mapping keys are not allowed in this context"
      rollIndent column none .blockMappingStart (← mark)
    removeSimpleKey
    modify fun s => { s with keyAllowed := !flow }
    indicator .key 1
  else if c = ':' && (flow || isBlankZ next) then
    let s ← get
    match s.keys with
    | k :: rest =>
      if k.possible then
        let t : Token := ⟨.key, k.mark, k.mark⟩
        set { s with queue := s.queue.insertIdx (k.tokenNumber - s.parsed) t }
        rollIndent k.mark.column (some k.tokenNumber) .blockMappingStart k.mark
        modify fun s => { s with keys := { k with possible := false } :: rest, keyAllowed := false }
      else
        if !flow then
          if !s.keyAllowed then fail none (← mark) "mapping values are not allowed in this context"
          rollIndent column none .blockMappingStart (← mark)
        modify fun s => { s with keyAllowed := !flow }
    | [] => pure ()
    indicator .value 1
  else if c = '*' || c = '&' then
    saveSimpleKey
    modify fun s => { s with keyAllowed := false }
    let t ← scanAnchor (c = '*')
    enqueue t.kind t.start t.stop
  else if c = '!' then
    saveSimpleKey
    modify fun s => { s with keyAllowed := false }
    let t ← scanTag
    enqueue t.kind t.start t.stop
  else if (c = '|' || c = '>') && !flow then
    removeSimpleKey
    modify fun s => { s with keyAllowed := true }
    let t ← scanBlockScalar (c = '|')
    enqueue t.kind t.start t.stop
  else if c = '\'' || c = '"' then
    saveSimpleKey
    modify fun s => { s with keyAllowed := false }
    let t ← scanFlowScalar (c = '\'')
    enqueue t.kind t.start t.stop
  else if !(isBlankZ c || "-?:,[]{}#&*!|>'\"%@`".contains c) || (c = '-' && !isBlank next) ||
      (!flow && (c = '?' || c = ':') && !isBlankZ next) then
    saveSimpleKey
    modify fun s => { s with keyAllowed := false }
    let t ← scanPlainScalar
    enqueue t.kind t.start t.stop
  else fail (some "while scanning for the next token") (← mark) "found character that cannot start any token"

/-- Reads tokens until the first queued one can no longer be preceded by a simple key. -/
def fetchMoreTokens : Scan Unit := do
  for _ in [0:(← fuel) + 4] do
    let s ← get
    let need ← if s.queue.isEmpty then pure true else do
      staleSimpleKeys
      let s ← get
      pure (s.keys.any fun k => k.possible && k.tokenNumber == s.parsed)
    if !need then break
    fetchNextToken
  modify fun s => { s with available := true }

def peekToken : Scan Token := do
  if !(← get).available then fetchMoreTokens
  return (← get).queue.headD ⟨.streamEnd, (← mark), (← mark)⟩

def skipToken : Scan Unit :=
  modify fun s => { s with queue := s.queue.drop 1, parsed := s.parsed + 1, available := false }

/-- The scanner of a text: its first character not allowed in YAML, if any, fails at once, at
its byte offset. -/
def Scanner.start (text : String) : Except Failure Scanner := do
  let chars := match text.toList with
    | '\uFEFF' :: cs => cs
    | cs => cs
  let skipped := if text.startsWith "\uFEFF" then 3 else 0
  let (bad, _) := chars.foldl (fun (acc : Option (Nat × Char) × Nat) c =>
    match acc with
    | (some b, n) => (some b, n)
    | (none, n) => if isAllowed c then (none, n + c.utf8Size) else (some (n, c), n)) (none, skipped)
  match bad with
  | some (offset, _) => throw { problem := "control characters are not allowed", offset }
  | none => return { rest := chars }

end Conform.Yaml
