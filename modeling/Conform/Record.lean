import Conform.Json.Shape
/-!
Error records. A failing check reports an issue (its kind and, optionally, the offending value,
the bound it was held to and a message); the scope turns it into a record by adding the field
path and, when the issue has no message, the message template for its kind. A validation call
collects records in the order they are reported and never drops or reorders one.
-/
namespace Conform

/-- One failed check of one validation call. -/
structure Record where
  kind : String
  field : String
  actual : Option Json := none
  expected : Option Json := none
  message : Option String := none
  deriving Inhabited

/-- What a check reports; the path and the message template are filled in when it is recorded. -/
structure Issue where
  kind : String
  actual : Option Json := none
  expected : Option Json := none
  message : Option String := none

/-- The result of one validation call: valid, or the records it collected, in order. -/
inductive Outcome where
  | valid
  | invalid (records : List Record)

namespace Record

/-- The record as a JSON object with the keys `type`, `field`, `actual`, `expected` and
`message` in that order, an absent part left out. -/
def toJson (r : Record) : Json :=
  .obj ([("type", .str r.kind), ("field", .str r.field)]
    ++ (r.actual.map fun v => ("actual", v)).toList
    ++ (r.expected.map fun v => ("expected", v)).toList
    ++ (r.message.map fun m => ("message", .str m)).toList)

/-- What a record list is called when it has the wrong shape. -/
def recordName : String := "struct ZiErrorRecord"

/-- Reads an optional string part: null is absent. -/
def optionalText? : Json → Except String (Option String)
  | .null => .ok none
  | .str s => .ok (some s)
  | v => .error (Json.invalidType (Json.shapeText v) "a string")

/-- Reads a required string part. -/
def text? : Json → Except String String
  | .str s => .ok s
  | v => .error (Json.invalidType (Json.shapeText v) "a string")

/-- Reads the parts given as an object: `type` and `field` are required strings, `actual` and
`expected` any value (null is absent), `message` a string or null; other keys are skipped. -/
def ofMembers (ms : List (String × Json)) : Except String Record := do
  let mut kind : Option String := none
  let mut field : Option String := none
  let mut actual : Option Json := none
  let mut expected : Option Json := none
  let mut message : Option String := none
  for (k, v) in ms do
    match k with
    | "type" => kind := some (← text? v)
    | "field" => field := some (← text? v)
    | "actual" => actual := if v.isNull then none else some v
    | "expected" => expected := if v.isNull then none else some v
    | "message" => message := ← optionalText? v
    | _ => pure ()
  match kind, field with
  | none, _ => throw "missing field `type`"
  | some _, none => throw "missing field `field`"
  | some k, some f => return { kind := k, field := f, actual, expected, message }

/-- Reads the parts given as an array in the order `type`, `field`, `actual`, `expected`,
`message`; the last three may be left out. -/
def ofItems (items : List Json) : Except String Record := do
  let short (n : Nat) : String := s!"invalid length {n}, expected {recordName} with 5 elements"
  match items with
  | [] => throw (short 0)
  | [k] => let _ ← text? k; throw (short 1)
  | k :: f :: rest =>
    let kind ← text? k
    let field ← text? f
    let part (i : Nat) : Option Json := (rest[i]?).bind fun v => if v.isNull then none else some v
    let message ← match rest[2]? with
      | some v => optionalText? v
      | none => pure none
    if items.length > 5 then
      throw s!"invalid length {items.length}, expected fewer elements in array"
    return { kind, field, actual := part 0, expected := part 1, message }

/-- Reads one record from a JSON value. -/
def ofJson? : Json → Except String Record
  | .obj ms => ofMembers ms
  | .arr items => ofItems items
  | v => .error (Json.invalidType (Json.shapeText v) recordName)

/-- Reads a list of records from a JSON array. -/
def listOfJson? : Json → Except String (List Record)
  | .arr items => items.mapM ofJson?
  | v => .error (Json.invalidType (Json.shapeText v) "a sequence")

end Record

namespace Outcome

/-- The outcome of a call that collected `records`. -/
def ofRecords : List Record → Outcome
  | [] => .valid
  | rs => .invalid rs

def isValid : Outcome → Bool
  | .valid => true
  | .invalid _ => false

def errors : Outcome → List Record
  | .valid => []
  | .invalid rs => rs

/-- The outcome as JSON: `true`, or the list of records. -/
def toJson : Outcome → Json
  | .valid => .bool true
  | .invalid rs => .arr (rs.map Record.toJson)

end Outcome

end Conform
