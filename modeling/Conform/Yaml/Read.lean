import Conform.Yaml.Load
/-!
Reading the first YAML document as a JSON value.

Scalars resolve as the loader describes; a float that is not finite has no JSON form and
becomes null, and an integer beyond 64 bits is out of range. Sequences become arrays and
mappings objects, whose keys are the text of scalar keys; a key given twice keeps its first
place and its last value. A node with a local tag such as `!name` or `!` is a variant of an
enum, which JSON has no form for. The first document is the whole of the text: a second one is an
error, and so is a parser failure after the first document's value.
-/
namespace Conform.Yaml

def enumProblem : Problem := .say (Json.invalidType "enum" "any valid JSON value")

def Scalar.toJson : Scalar → Outcome Json
  | .null => .ok .null
  | .bool b => .ok (.bool b)
  | .int i => .ok (.num (.int i))
  | .wide _ _ => .error (.say "JSON number out of range")
  | .float x => .ok (if Decimal.isFinite x then .num (.float x) else .null)
  | .str s => .ok (.str s)

namespace Document

variable (d : Document)

/-- Reads the node at the cursor as JSON, at most `depth` collections deep. -/
def value : Nat → Path → Cursor → Outcome (Json × Cursor)
  | depth, path, c => do
    let (n, m) ← d.event? c.pos
    let (n, m, path, inner, resume) ← match n with
      | .alias id => do
        let j ← d.jump id c
        let (n', m') ← d.event? j.pos
        pure (n', m', Path.alias path, { j with pos := j.pos + 1 }, some (c.pos + 1))
      | _ => pure (n, m, path, { c with pos := c.pos + 1 }, none)
    let (v, after) ← (match n with
      | .scalar tag s style => do
        if (variantOf? tag).isSome then throw enumProblem
        match Scalar.resolve tag s style with
        | .ok v => pure (← v.toJson, inner)
        | .error msg => throw (.say msg)
      | .void => pure (.null, inner)
      | .sequenceStart tag => do
        if (variantOf? tag).isSome then throw enumProblem
        match depth with
        | 0 => throw (.recursionLimit m)
        | depth + 1 =>
          let mut items : Array Json := #[]
          let mut cur := inner
          for _ in [0:d.nodes.size] do
            if ← d.atClose cur then break
            let (v, next) ← value depth (.seq path items.size) cur
            items := items.push v
            cur := next
          pure (.arr items.toList, { cur with pos := cur.pos + 1 })
      | .mappingStart tag => do
        if (variantOf? tag).isSome then throw enumProblem
        match depth with
        | 0 => throw (.recursionLimit m)
        | depth + 1 =>
          let mut members : List (String × Json) := []
          let mut cur := inner
          for k in [0:d.nodes.size] do
            if ← d.atClose cur then break
            let (key, _) ← d.event? cur.pos
            let expected := if k = 0 then "a string key" else "a string"
            let (name, next) ← d.text path expected cur
            let (v, next) ← value depth (valuePath path key) next
            members := Members.insert members name v
            cur := next
          pure (.obj members, { cur with pos := cur.pos + 1 })
      | _ => throw .endOfStream : Outcome (Json × Cursor)).mapError (·.locate m path)
    return (v, match resume with
      | some pos => { after with pos }
      | none => after)

end Document

/-- Reads a YAML text as one JSON value, or gives the error's text. -/
def parse (text : String) : Except String Json :=
  let d := Document.load text
  let result : Outcome Json := do
    let (v, _) ← d.value 128 .root {}
    if let some p := d.error then throw p
    if d.more then throw .moreThanOneDocument
    return v
  result.mapError Problem.text

end Conform.Yaml
