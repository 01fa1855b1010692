import Conform.Json.Basic
/-!
Reading JSON text. The reader is strict: one value, blanks around it, no comments, no trailing
commas, at most 127 nested containers. An integer literal is kept as an integer when it fits the
unsigned 64-bit range, or, when negative, the signed one; every other number, `-0` included,
is a float. A float is read by scaling its significand by a power of ten held as a float, so a
literal with more than 19 significant digits keeps only its first ones.

A failure names its cause and the place where the reader stood, as a line and a byte column.
-/
namespace Conform.Json

/-- Why a text is not JSON. -/
inductive Fault where
  | eofList
  | eofObject
  | eofString
  | eofValue
  | expectedColon
  | expectedListEnd
  | expectedObjectEnd
  | expectedIdent
  | expectedValue
  | invalidEscape
  | invalidNumber
  | numberOutOfRange
  | controlCharacter
  | keyMustBeString
  | loneSurrogate
  | trailingComma
  | trailingCharacters
  | unexpectedEndOfHexEscape
  | recursionLimit
  /-- A value of the wrong shape for what was asked, in words. -/
  | shape (text : String)
  deriving Repr, DecidableEq

/-- The words for a fault. -/
def Fault.text : Fault → String
  | .eofList => "EOF while parsing a list"
  | .eofObject => "EOF while parsing an object"
  | .eofString => "EOF while parsing a string"
  | .eofValue => "EOF while parsing a value"
  | .expectedColon => "expected `:`"
  | .expectedListEnd => "expected `,` or `]`"
  | .expectedObjectEnd => "expected `,` or `\x7d`"
  | .expectedIdent => "expected ident"
  | .expectedValue => "expected value"
  | .invalidEscape => "invalid escape"
  | .invalidNumber => "invalid number"
  | .numberOutOfRange => "number out of range"
  | .controlCharacter => "control character (\\u0000-\\u001F) found while parsing a string"
  | .keyMustBeString => "key must be a string"
  | .loneSurrogate => "lone leading surrogate in hex escape"
  | .trailingComma => "trailing comma"
  | .trailingCharacters => "trailing characters"
  | .unexpectedEndOfHexEscape => "unexpected end of hex escape"
  | .recursionLimit => "recursion limit exceeded"
  | .shape text => text

/-- A reading failure with its place; line 0 stands for a failure with no place in a text. -/
structure ReadError where
  fault : Fault
  line : Nat
  column : Nat
  deriving Repr, DecidableEq

/-- The words for a reading failure, with its place when it has one. -/
def ReadError.message (e : ReadError) : String :=
  if e.line = 0 then e.fault.text
  else s!"{e.fault.text} at line {e.line} column {e.column}"

/-- Where the reader stands: the characters still to read, and the line and byte column of the
last character read. -/
structure Cursor where
  rest : List Char
  line : Nat := 1
  column : Nat := 0

def Cursor.ofString (s : String) : Cursor := { rest := s.toList }

/-- Position after reading one more character. -/
def Cursor.advance (line column : Nat) (c : Char) : Nat × Nat :=
  if c = '\n' then (line + 1, 0) else (line, column + c.utf8Size)

namespace Cursor

variable (c : Cursor)

def peek? : Option Char := c.rest.head?

def bump : Cursor :=
  match c.rest with
  | [] => c
  | ch :: rest =>
    let (line, column) := advance c.line c.column ch
    { rest, line, column }

/-- A failure at the last character read. -/
def fail (f : Fault) : ReadError := ⟨f, c.line, c.column⟩

/-- A failure one byte further on, at the character about to be read. -/
def failAhead (f : Fault) : ReadError :=
  match c.rest with
  | [] => ⟨f, c.line, c.column⟩
  | '\n' :: _ => ⟨f, c.line + 1, 0⟩
  | _ :: _ => ⟨f, c.line, c.column + 1⟩

/-- Skips blanks: space, tab, line feed and carriage return. -/
def skipBlank : Cursor → Cursor
  | ⟨' ' :: rest, l, col⟩ => skipBlank ⟨rest, l, col + 1⟩
  | ⟨'\t' :: rest, l, col⟩ => skipBlank ⟨rest, l, col + 1⟩
  | ⟨'\r' :: rest, l, col⟩ => skipBlank ⟨rest, l, col + 1⟩
  | ⟨'\n' :: rest, l, _⟩ => skipBlank ⟨rest, l + 1, 0⟩
  | c => c

end Cursor

/-- A reading step: from a cursor to a result and the cursor after it, or a failure. -/
abbrev Reader (α : Type) := StateT Cursor (Except ReadError) α

namespace Reader

def fail {α : Type} (f : Fault) : Reader α := do throw ((← get).fail f)

def failAhead {α : Type} (f : Fault) : Reader α := do throw ((← get).failAhead f)

def peek? : Reader (Option Char) := do return (← get).peek?

def bump : Reader Unit := modify Cursor.bump

def next? : Reader (Option Char) := do
  let c ← peek?
  bump
  return c

/-- Skips blanks and returns the next character, unread. -/
def peekPastBlank : Reader (Option Char) := do
  modify Cursor.skipBlank
  peek?

end Reader

open Reader

/-- Reads the rest of a literal such as `null` after its first letter. -/
def readIdent : List Char → Reader Unit
  | [] => pure ()
  | ch :: rest => do
    match ← next? with
    | none => fail .eofValue
    | some c => if c = ch then readIdent rest else fail .expectedIdent

/-- Powers of ten from `10^0` to `10^308`, each the float nearest to it. -/
def pow10 (k : Nat) : Float := Float.ofScientific 1 false k

/-- `significand · 10^exponent` by one float multiplication or division, or by repeated
division by `10^308` for exponents below `-308`. A product that overflows is out of range. -/
def scaleBy10 (positive : Bool) (significand : Nat) (exponent : Int) : Reader Float := do
  let f := (UInt64.ofNat significand).toFloat
  let r ← go f exponent 4
  return if positive then r else -r
where
  go (f : Float) (e : Int) : Nat → Reader Float
    | 0 => pure 0
    | fuel + 1 =>
      if e.natAbs ≤ 308 then
        if 0 ≤ e then
          let g := f * pow10 e.natAbs
          if g.isInf then fail .numberOutOfRange else pure g
        else pure (f / pow10 e.natAbs)
      else if f == 0 then pure f
      else if 0 ≤ e then fail .numberOutOfRange
      else go (f / pow10 308) (e + 308) fuel

def u64Max : Nat := Nat.pow 2 64 - 1

/-- Whether appending digit `d` to `n` leaves the range up to `bound`. -/
def overflows (n d bound : Nat) : Bool := n ≥ bound / 10 ∧ (n > bound / 10 ∨ d > bound % 10)

def digitValue (c : Char) : Nat := c.toNat - 48

def isDigit (c : Char) : Bool := '0' ≤ c ∧ c ≤ '9'

/-- Reads an exponent's digits after the sign, once the exponent no longer fits 32 bits:
the value is zero or out of range. -/
def exponentOverflow (positive zeroSignificand positiveExp : Bool) (fuel : Nat) : Reader Float := do
  if !zeroSignificand && positiveExp then fail .numberOutOfRange
  else
    skipDigits fuel
    return if positive then 0 else -0
where
  skipDigits : Nat → Reader Unit
    | 0 => pure ()
    | n + 1 => do
      match ← peek? with
      | some c => if isDigit c then do bump; skipDigits n else pure ()
      | none => pure ()

/-- Reads an exponent (the cursor on `e` or `E`) and scales the significand by it. -/
def readExponent (positive : Bool) (significand : Nat) (start : Int) (fuel : Nat) :
    Reader Float := do
  bump
  let positiveExp ← match ← peek? with
    | some '+' => do bump; pure true
    | some '-' => do bump; pure false
    | _ => pure true
  match ← next? with
  | none => fail .eofValue
  | some c =>
    if !isDigit c then fail .invalidNumber
    else
      match ← digits (digitValue c) fuel with
      | none => exponentOverflow positive (significand = 0) positiveExp fuel
      | some e =>
        let e' : Int := if positiveExp then start + e else start - e
        -- the exponent sum saturates at the 32-bit bounds
        let e'' := max (-2147483648) (min 2147483647 e')
        scaleBy10 positive significand e''
where
  digits (acc : Nat) : Nat → Reader (Option Nat)
    | 0 => pure (some acc)
    | n + 1 => do
      match ← peek? with
      | some c =>
        if isDigit c then do
          bump
          if overflows acc (digitValue c) 2147483647 then return none
          digits (acc * 10 + digitValue c) n
        else pure (some acc)
      | none => pure (some acc)

/-- Reads the digits after a decimal point (the cursor on the point); `start` is the exponent
that the integer part's digits beyond the significand brought. -/
def readFraction (positive : Bool) (significand : Nat) (start : Int) (fuel : Nat) :
    Reader Float := do
  bump
  go significand start fuel
where
  go (sig : Nat) (e : Int) : Nat → Reader Float
    | 0 => scaleBy10 positive sig e
    | n + 1 => do
      match ← peek? with
      | some c =>
        if isDigit c then
          if overflows sig (digitValue c) u64Max then
            -- further digits cannot change the significand
            exponentOverflow.skipDigits n
            match ← peek? with
            | some 'e' | some 'E' => readExponent positive sig e n
            | _ => scaleBy10 positive sig e
          else do
            bump
            go (sig * 10 + digitValue c) (e - 1) n
        else finish sig e n
      | none => finish sig e n
  /-- Ends the fraction; a point with no digit after it is no number. -/
  finish (sig : Nat) (e : Int) (n : Nat) : Reader Float := do
    if e = start then
      match ← peek? with
      | some _ => failAhead .invalidNumber
      | none => failAhead .eofValue
    else
      match ← peek? with
      | some 'e' | some 'E' => readExponent positive sig e n
      | _ => scaleBy10 positive sig e

/-- Reads the rest of an integer part that no longer fits 64 bits: the extra digits only
raise the exponent. -/
def readLongInteger (positive : Bool) (significand : Nat) (fuel : Nat) : Reader Float :=
  go 0 fuel
where
  go (e : Int) : Nat → Reader Float
    | 0 => scaleBy10 positive significand e
    | n + 1 => do
      match ← peek? with
      | some '.' => readFraction positive significand e n
      | some 'e' | some 'E' => readExponent positive significand e n
      | some c => if isDigit c then do bump; go (e + 1) n else scaleBy10 positive significand e
      | none => scaleBy10 positive significand e

/-- Ends a number whose integer part is `significand`: a fraction or exponent makes it a float;
otherwise it is an integer, except a negative one outside the signed range, or `-0`. -/
def readNumberTail (positive : Bool) (significand : Nat) (fuel : Nat) : Reader Number := do
  match ← peek? with
  | some '.' => return .float (← readFraction positive significand 0 fuel)
  | some 'e' | some 'E' => return .float (← readExponent positive significand 0 fuel)
  | _ =>
    if positive then return .int significand
    else if significand = 0 ∨ significand > Nat.pow 2 63 then
      return .float (-(UInt64.ofNat significand).toFloat)
    else return .int (-(significand : Int))

/-- Reads a number after its optional minus sign. -/
def readNumber (positive : Bool) (fuel : Nat) : Reader Number := do
  match ← next? with
  | none => fail .eofValue
  | some '0' =>
    match ← peek? with
    | some c => if isDigit c then failAhead .invalidNumber else readNumberTail positive 0 fuel
    | none => readNumberTail positive 0 fuel
  | some c =>
    if isDigit c then integer (digitValue c) fuel else fail .invalidNumber
where
  integer (sig : Nat) : Nat → Reader Number
    | 0 => readNumberTail positive sig 0
    | n + 1 => do
      match ← peek? with
      | some c =>
        if isDigit c then
          if overflows sig (digitValue c) u64Max then
            return .float (← readLongInteger positive sig n)
          else do
            bump
            integer (sig * 10 + digitValue c) n
        else readNumberTail positive sig n
      | none => readNumberTail positive sig n

def hexValue? (c : Char) : Option Nat :=
  if '0' ≤ c ∧ c ≤ '9' then some (c.toNat - 48)
  else if 'a' ≤ c ∧ c ≤ 'f' then some (c.toNat - 87)
  else if 'A' ≤ c ∧ c ≤ 'F' then some (c.toNat - 55)
  else none

/-- The place reached after reading `n` more bytes; a character cut in the middle counts its
bytes up to the cut. -/
def Cursor.afterBytes : Cursor → Nat → Nat × Nat
  | c, 0 => (c.line, c.column)
  | ⟨[], l, col⟩, _ => (l, col)
  | ⟨ch :: rest, l, col⟩, n + 1 =>
    if ch.utf8Size ≤ n + 1 then
      let (l', col') := Cursor.advance l col ch
      Cursor.afterBytes ⟨rest, l', col'⟩ (n + 1 - ch.utf8Size)
    else (l, col + (n + 1))
termination_by _ n => n
decreasing_by have := ch.utf8Size_pos; omega

/-- Reads the four hexadecimal digits of a `\u` escape: four bytes are taken whatever they are,
and fewer than four left end the text. -/
def readHex4 : Reader Nat := do
  let c ← get
  match c.rest.take 4 with
  | [a, b, d, e] =>
    if [a, b, d, e].all (fun ch => ch.utf8Size = 1) then
      bump; bump; bump; bump
      match hexValue? a, hexValue? b, hexValue? d, hexValue? e with
      | some w, some x, some y, some z => return ((w * 16 + x) * 16 + y) * 16 + z
      | _, _, _, _ => fail .invalidEscape
    else
      let (l, col) := c.afterBytes 4
      throw ⟨.invalidEscape, l, col⟩
  | chars =>
    if chars.foldl (fun n ch => n + ch.utf8Size) 0 ≥ 4 then
      let (l, col) := c.afterBytes 4
      throw ⟨.invalidEscape, l, col⟩
    else
      let (l, col) := c.afterBytes 4
      throw ⟨.eofString, l, col⟩

/-- Reads a `\u` escape, with its trailing surrogate when it starts a pair. -/
def readUnicodeEscape : Reader Char := do
  let n ← readHex4
  if 0xDC00 ≤ n ∧ n ≤ 0xDFFF then fail .loneSurrogate
  else if n < 0xD800 ∨ n > 0xDBFF then return Char.ofNat n
  else
    match ← peek? with
    | none => fail .eofString
    | some '\\' =>
      bump
      match ← peek? with
      | none => fail .eofString
      | some 'u' =>
        bump
        let n₂ ← readHex4
        if n₂ < 0xDC00 ∨ n₂ > 0xDFFF then fail .loneSurrogate
        else return Char.ofNat ((((n - 0xD800) * 1024) ||| (n₂ - 0xDC00)) + 0x10000)
      | some _ => failAhead .unexpectedEndOfHexEscape
    | some _ => failAhead .unexpectedEndOfHexEscape

/-- Reads one escape after its backslash. -/
def readEscape : Reader Char := do
  match ← next? with
  | none => fail .eofString
  | some '"' => pure '"'
  | some '\\' => pure '\\'
  | some '/' => pure '/'
  | some 'b' => pure '\x08'
  | some 'f' => pure '\x0c'
  | some 'n' => pure '\n'
  | some 'r' => pure '\r'
  | some 't' => pure '\t'
  | some 'u' => readUnicodeEscape
  | some _ => fail .invalidEscape

/-- Reads a string's characters after its opening quote, up to and including the closing one. -/
def readString (fuel : Nat) : Reader String :=
  go [] fuel
where
  go (acc : List Char) : Nat → Reader String
    | 0 => fail .eofString
    | n + 1 => do
      match ← next? with
      | none => fail .eofString
      | some '"' => return String.ofList acc.reverse
      | some '\\' => go ((← readEscape) :: acc) n
      | some c => if c.toNat < 32 then fail .controlCharacter else go (c :: acc) n

/-- Reads one value after blanks. `depth` is how many more containers may open. -/
def readValue (fuel : Nat) : Nat → Reader Json
  | 0 => failAhead .recursionLimit
  | depth + 1 => do
    match ← peekPastBlank with
    | none => failAhead .eofValue
    | some 'n' => do bump; readIdent ['u', 'l', 'l']; pure .null
    | some 't' => do bump; readIdent ['r', 'u', 'e']; pure (.bool true)
    | some 'f' => do bump; readIdent ['a', 'l', 's', 'e']; pure (.bool false)
    | some '-' => do bump; pure (.num (← readNumber false fuel))
    | some '"' => do bump; pure (.str (← readString fuel))
    | some '[' =>
      if depth = 0 then failAhead .recursionLimit
      else do
        bump
        let items ← readItems (readValue fuel depth) true [] fuel
        pure (.arr items)
    | some '{' =>
      if depth = 0 then failAhead .recursionLimit
      else do
        bump
        let members ← readMembers (readValue fuel depth) true [] fuel
        pure (.obj members)
    | some c =>
      if isDigit c then pure (.num (← readNumber true fuel)) else failAhead .expectedValue
where
  /-- Reads array items up to and including the closing bracket. -/
  readItems (item : Reader Json) (first : Bool) (acc : List Json) : Nat → Reader (List Json)
    | 0 => failAhead .eofList
    | n + 1 => do
      match ← peekPastBlank with
      | some ']' => do bump; pure acc.reverse
      | some ',' =>
        if first then failAhead .expectedValue
        else do
          bump
          match ← peekPastBlank with
          | some ']' => failAhead .trailingComma
          | none => failAhead .eofValue
          | some _ => readItems item false ((← item) :: acc) n
      | some _ =>
        if first then readItems item false ((← item) :: acc) n
        else failAhead .expectedListEnd
      | none => failAhead .eofList
  /-- Reads object members up to and including the closing brace; a repeated key keeps its
  first position and takes the later value. -/
  readMembers (item : Reader Json) (first : Bool) (acc : List (String × Json)) :
      Nat → Reader (List (String × Json))
    | 0 => failAhead .eofObject
    | n + 1 => do
      match ← peekPastBlank with
      | some '}' => do bump; pure acc
      | some ',' =>
        if first then failAhead .keyMustBeString
        else do
          bump
          match ← peekPastBlank with
          | some '}' => failAhead .trailingComma
          | none => failAhead .eofValue
          | some '"' => member item acc n
          | some _ => failAhead .keyMustBeString
      | some '"' =>
        if first then member item acc n else failAhead .expectedObjectEnd
      | some _ => if first then failAhead .keyMustBeString else failAhead .expectedObjectEnd
      | none => failAhead .eofObject
  member (item : Reader Json) (acc : List (String × Json)) (n : Nat) :
      Reader (List (String × Json)) := do
    bump
    let key ← readString n
    match ← peekPastBlank with
    | some ':' => bump
    | some _ => failAhead .expectedColon
    | none => failAhead .eofObject
    let v ← item
    readMembers item false (Members.insert acc key v) n

/-- Skips a number's text after its optional minus sign, checking its shape only: its value
is never formed, so no number is out of range here. -/
def skipNumber : Reader Unit := do
  match ← peek? with
  | some '0' =>
    bump
    match ← peek? with
    | some c => if isDigit c then failAhead .invalidNumber else fraction
    | none => pure ()
  | some c =>
    if '1' ≤ c ∧ c ≤ '9' then do bump; skipDigits; fraction
    else do bump; fail .invalidNumber
  | none => fail .invalidNumber
where
  skipDigits : Reader Unit := do exponentOverflow.skipDigits (← get).rest.length
  exponent : Reader Unit := do
    bump
    match ← peek? with
    | some '+' | some '-' => bump
    | _ => pure ()
    match ← peek? with
    | some c => if isDigit c then do bump; skipDigits else do bump; fail .invalidNumber
    | none => fail .invalidNumber
  fraction : Reader Unit := do
    match ← peek? with
    | some '.' =>
      bump
      match ← peek? with
      | some c =>
        if isDigit c then do
          skipDigits
          match ← peek? with
          | some 'e' | some 'E' => exponent
          | _ => pure ()
        else failAhead .invalidNumber
      | none => failAhead .invalidNumber
    | some 'e' | some 'E' => exponent
    | _ => pure ()

/-- Skips a string's text after its opening quote, up to and including the closing quote. An
escape is checked for its shape only: a `\u` escape takes four hexadecimal digits, and a lone
surrogate is let through. -/
def skipString : Nat → Reader Unit
  | 0 => fail .eofString
  | n + 1 => do
    match ← peek? with
    | none => fail .eofString
    | some '"' => bump
    | some '\\' =>
      bump
      match ← next? with
      | none => fail .eofString
      | some c =>
        if c = 'u' then do let _ ← readHex4; skipString n
        else if "\"\\/bfnrt".contains c then skipString n
        else fail .invalidEscape
    | some c => if c.toNat < 32 then fail .controlCharacter else do bump; skipString n

/-- Where a skip stands inside the containers it has entered. -/
inductive SkipAt where
  /-- Before a value. -/
  | value
  /-- Before an item of the innermost container: in an object, its key and colon first. -/
  | entry
  /-- After the opening bracket or brace of the innermost container, or, when `afterItem`, after
  one of its items. -/
  | inner (afterItem : Bool)

/-- Skips a value without keeping it, as a reader does for a member it does not know. Unlike
`readValue`, containers may nest to any depth, and a comma before a closing bracket is taken for
the start of a missing value or key. `opened` holds the innermost container's bracket first. -/
def skipValueAt (fuel : Nat) : List Char → SkipAt → Nat → Reader Unit
  | _, _, 0 => failAhead .eofValue
  | opened, .value, n + 1 => do
    let scalar : Reader Unit := match opened with
      | [] => pure ()
      | _ => skipValueAt fuel opened (.inner true) n
    match ← peekPastBlank with
    | none => failAhead .eofValue
    | some 'n' => do bump; readIdent ['u', 'l', 'l']; scalar
    | some 't' => do bump; readIdent ['r', 'u', 'e']; scalar
    | some 'f' => do bump; readIdent ['a', 'l', 's', 'e']; scalar
    | some '-' => do bump; skipNumber; scalar
    | some '"' => do bump; skipString fuel; scalar
    | some '[' => do bump; skipValueAt fuel ('[' :: opened) (.inner false) n
    | some '{' => do bump; skipValueAt fuel ('{' :: opened) (.inner false) n
    | some c => if isDigit c then do skipNumber; scalar else failAhead .expectedValue
  | opened, .entry, n + 1 => do
    if opened.head? = some '{' then
      match ← peekPastBlank with
      | some '"' => do bump; skipString fuel
      | some _ => failAhead .keyMustBeString
      | none => failAhead .eofObject
      match ← peekPastBlank with
      | some ':' => bump
      | some _ => failAhead .expectedColon
      | none => failAhead .eofObject
    skipValueAt fuel opened .value n
  | [], .inner _, _ => pure ()
  | bracket :: outer, .inner afterItem, n + 1 => do
    let closing := if bracket = '[' then ']' else '}'
    match ← peekPastBlank with
    | some c =>
      if c = ',' ∧ afterItem then do bump; skipValueAt fuel (bracket :: outer) .entry n
      else if c = closing then do
        bump
        match outer with
        | [] => pure ()
        | _ => skipValueAt fuel outer (.inner true) n
      else if afterItem then
        failAhead (if bracket = '[' then .expectedListEnd else .expectedObjectEnd)
      else skipValueAt fuel (bracket :: outer) .entry n
    | none => failAhead (if bracket = '[' then .eofList else .eofObject)

/-- Skips one value after blanks; see `skipValueAt`. -/
def skipValue (fuel : Nat) : Reader Unit := skipValueAt fuel [] .value (3 * fuel)

/-- How many containers may nest in a text. -/
def depthLimit : Nat := 128

/-- Reads a whole text as one JSON value with nothing but blanks after it. -/
def parse (s : String) : Except ReadError Json := do
  let fuel := s.length + 1
  let (v, c) ← (readValue fuel depthLimit).run (Cursor.ofString s)
  let c := c.skipBlank
  match c.rest with
  | [] => pure v
  | _ => throw (c.failAhead .trailingCharacters)

end Conform.Json
