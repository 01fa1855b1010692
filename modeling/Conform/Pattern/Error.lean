/-!
Pattern syntax errors and their display. An error names what went wrong and the span of the
pattern at fault, sometimes with a second span (the earlier flag a duplicate repeats). The
display quotes the pattern line by line, marks each span under its line with carets (at least
one), and ends with the error's text; a pattern of several lines is framed by two rules of
tildes and has its lines numbered.
-/
namespace Conform.Pattern

/-- A place in a pattern: the bytes before it, and its line and column counted from 1. -/
structure Position where
  offset : Nat
  line : Nat
  column : Nat
  deriving Inhabited, BEq, Repr

namespace Position

def origin : Position := ⟨0, 1, 1⟩

def next (p : Position) (c : Char) : Position :=
  if c = '\n' then ⟨p.offset + c.utf8Size, p.line + 1, 1⟩
  else ⟨p.offset + c.utf8Size, p.line, p.column + 1⟩

end Position

/-- A stretch of a pattern from `start` up to `stop`. -/
structure Span where
  start : Position
  stop : Position
  deriving Inhabited, BEq, Repr

/-- What went wrong in a pattern. -/
inductive Fault where
  | classEscapeInvalid
  | classRangeInvalid
  | classRangeLiteral
  | classUnclosed
  | decimalInvalid
  | escapeHexEmpty
  | escapeHexInvalid
  | escapeHexInvalidDigit
  | escapeUnexpectedEof
  | escapeUnrecognized
  | flagDanglingNegation
  | flagDuplicate
  | flagRepeatedNegation
  | flagUnexpectedEof
  | flagUnrecognized
  | groupNameDuplicate
  | groupNameEmpty
  | groupNameInvalid
  | groupNameUnexpectedEof
  | groupUnclosed
  | groupUnopened
  | nestLimitExceeded (limit : Nat)
  | repetitionCountInvalid
  | repetitionCountDecimalEmpty
  | repetitionCountUnclosed
  | repetitionMissing
  | specialWordBoundaryUnclosed
  | specialWordBoundaryUnrecognized
  | specialWordOrRepetitionUnexpectedEof
  | unicodeClassInvalid
  | unsupportedBackreference
  | unsupportedLookAround
  | unicodeNotAllowed
  | invalidUtf8
  | unicodePropertyNotFound
  | unicodePropertyValueNotFound
  deriving Repr, Inhabited

def Fault.text : Fault → String
  | .classEscapeInvalid => "invalid escape sequence found in character class"
  | .classRangeInvalid => "invalid character class range, the start must be <= the end"
  | .classRangeLiteral => "invalid range boundary, must be a literal"
  | .classUnclosed => "unclosed character class"
  | .decimalInvalid => "decimal literal invalid"
  | .escapeHexEmpty => "hexadecimal literal empty"
  | .escapeHexInvalid => "hexadecimal literal is not a Unicode scalar value"
  | .escapeHexInvalidDigit => "invalid hexadecimal digit"
  | .escapeUnexpectedEof => "incomplete escape sequence, reached end of pattern prematurely"
  | .escapeUnrecognized => "unrecognized escape sequence"
  | .flagDanglingNegation => "dangling flag negation operator"
  | .flagDuplicate => "duplicate flag"
  | .flagRepeatedNegation => "flag negation operator repeated"
  | .flagUnexpectedEof => "expected flag but got end of regex"
  | .flagUnrecognized => "unrecognized flag"
  | .groupNameDuplicate => "duplicate capture group name"
  | .groupNameEmpty => "empty capture group name"
  | .groupNameInvalid => "invalid capture group character"
  | .groupNameUnexpectedEof => "unclosed capture group name"
  | .groupUnclosed => "unclosed group"
  | .groupUnopened => "unopened group"
  | .nestLimitExceeded limit =>
    s!"exceed the maximum number of nested parentheses/brackets ({limit})"
  | .repetitionCountInvalid => "invalid repetition count range, the start must be <= the end"
  | .repetitionCountDecimalEmpty => "repetition quantifier expects a valid decimal"
  | .repetitionCountUnclosed => "unclosed counted repetition"
  | .repetitionMissing => "repetition operator missing expression"
  | .specialWordBoundaryUnclosed =>
    "special word boundary assertion is either unclosed or contains an invalid character"
  | .specialWordBoundaryUnrecognized =>
    "unrecognized special word boundary assertion, valid choices are: start, end, start-half or end-half"
  | .specialWordOrRepetitionUnexpectedEof =>
    "found either the beginning of a special word boundary or a bounded repetition on a \\b with an opening brace, but no closing brace"
  | .unicodeClassInvalid => "invalid Unicode character class"
  | .unsupportedBackreference => "backreferences are not supported"
  | .unsupportedLookAround => "look-around, including look-ahead and look-behind, is not supported"
  | .unicodeNotAllowed => "Unicode not allowed here"
  | .invalidUtf8 => "pattern can match invalid UTF-8"
  | .unicodePropertyNotFound => "Unicode property not found"
  | .unicodePropertyValueNotFound => "Unicode property value not found"

/-- A fault at a span, with the span it clashes with if any. -/
structure Failure where
  fault : Fault
  span : Span
  aux : Option Span := none
  deriving Inhabited

namespace Failure

/-- The lines of a text: split at each line feed, a final empty piece dropped, and a carriage
return before a line feed removed. -/
def lines (text : String) : List String :=
  if text.isEmpty then []
  else
    let pieces := text.splitOn "\n"
    let closed := pieces.dropLast.map fun l =>
      if l.endsWith "\r" then String.ofList l.toList.dropLast else l
    let last := pieces.getLast?.getD ""
    if last.isEmpty then closed else closed ++ [last]

/-- Inserts a span into a list sorted by start offset, then stop offset. -/
def insertSpan (s : Span) : List Span → List Span
  | [] => [s]
  | t :: ts =>
    if s.start.offset < t.start.offset ∨
        (s.start.offset = t.start.offset ∧ s.stop.offset ≤ t.stop.offset) then s :: t :: ts
    else t :: insertSpan s ts

/-- The caret line under a pattern line for the spans on it, after `pad` blanks. -/
def carets (pad : Nat) (spans : List Span) : String :=
  let (out, _) := spans.foldl (fun (acc : String × Nat) s =>
    let (text, pos) := acc
    let gap := s.start.column - 1 - pos
    let width := max 1 (s.stop.column - s.start.column)
    (text ++ "".pushn ' ' gap ++ "".pushn '^' width, max pos (s.start.column - 1) + width))
    ("".pushn ' ' pad, 0)
  out

/-- The display of a failure in a pattern. -/
def render (pattern : String) (f : Failure) : String :=
  let all := match f.aux with
    | some a => insertSpan a [f.span]
    | none => [f.span]
  let oneLine := all.filter fun s => s.start.line == s.stop.line
  let multiLine := all.filter fun s => s.start.line != s.stop.line
  let ls := lines pattern
  let count := ls.length + (if pattern.endsWith "\n" then 1 else 0)
  let width := if count ≤ 1 then 0 else (toString count).length
  let pad := if width = 0 then 4 else 2 + width
  let numbered (i : Nat) : String :=
    if width = 0 then "    "
    else
      let n := toString (i + 1)
      "".pushn ' ' (width - n.length) ++ n ++ ": "
  let notated := String.join <| (ls.zipIdx).map fun (l, i) =>
    let here := oneLine.filter fun s => s.start.line == i + 1
    numbered i ++ l ++ "\n" ++ (if here.isEmpty then "" else carets pad here ++ "\n")
  if pattern.contains '\n' then
    let rule := "".pushn '~' 79
    let notes := multiLine.map fun s =>
      s!"on line {s.start.line} (column {s.start.column}) through line {s.stop.line} (column {s.stop.column - 1})"
    "regex parse error:\n" ++ rule ++ "\n" ++ notated ++ rule ++ "\n" ++
      (if notes.isEmpty then "" else "\n".intercalate notes ++ "\n") ++ "error: " ++ f.fault.text
  else "regex parse error:\n" ++ notated ++ "error: " ++ f.fault.text

end Failure

end Conform.Pattern
