import Conform.Record
import Conform.Message
/-!
What a running check sees, and what a step is.

A validation call walks the input; its place is a path of segments, one key per object field
and one index per array element. A step takes the value at the current place and the scope
(the path, the records reported so far in the call, and the message catalogue) and returns
the value it leaves there together with the records it reports, in order. A step cannot
remove a record or leave a segment behind: records are only appended after it returns, and a
child's segment is added to the scope it is given, not to its caller's.
-/
namespace Conform

/-- One step of a path into a value. -/
inductive Segment where
  /-- An object member. -/
  | key (k : String)
  /-- An array element. -/
  | index (i : Nat)
  /-- Any element of an array, as compile labels name the item schema. -/
  | items
  deriving Repr, DecidableEq

/-- Appends one segment to a rendered path: a key after a dot unless the path is empty, an
index in brackets, and the item marker as empty brackets. -/
def renderSegment (out : String) : Segment → String
  | .key k => if out.isEmpty then k else out ++ "." ++ k
  | .index i => out ++ "[" ++ toString i ++ "]"
  | .items => out ++ "[]"

/-- A path as text, such as `payload.coords[1]` or `tags[]`; the root is the empty text. -/
def renderPath (path : List Segment) : String := path.foldl renderSegment ""

/-- The state of a running validation call as a step sees it. -/
structure Scope where
  path : List Segment := []
  records : List Record := []
  messages : Messages := Messages.defaults
  deriving Inhabited

/-- A step of validation: from the value at the current place and the scope to the value left
there and the records reported, in order. -/
abbrev Step := Json → Scope → Json × List Record

namespace Scope

variable (s : Scope)

def field : String := renderPath s.path

def enter (seg : Segment) : Scope := { s with path := s.path ++ [seg] }

def extend (rs : List Record) : Scope := { s with records := s.records ++ rs }

/-- The record for an issue at the current path: the issue's message, or else the template
for its kind rendered at this path. -/
def record (i : Issue) : Record :=
  { kind := i.kind, field := s.field, actual := i.actual, expected := i.expected,
    message := match i.message with
      | some m => some m
      | none => s.messages.render i.kind s.field i.actual i.expected }

end Scope

namespace Step

def identity : Step := fun v _ => (v, [])

/-- Runs `first`, then, if it reported nothing, `next` on its output. -/
def andThen (first next : Step) : Step := fun v s =>
  match first v s with
  | (v', []) => next v' s
  | r => r

/-- Runs a step one segment deeper. -/
def within (seg : Segment) (body : Step) : Step := fun v s => body v (s.enter seg)

end Step

end Conform
