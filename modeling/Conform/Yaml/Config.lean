import Conform.Config
import Conform.Yaml.Load
/-!
Reading a compiler configuration from YAML text.

The document is a mapping with the optional keys `default_mode` and `messages`; other keys
are skipped, a key given twice is an error, and an empty document or an empty plain scalar
gives the defaults. The mode is a plain scalar naming it, or a local tag naming it on an
empty node (`!async`). The messages are a mapping whose keys and values are taken as text,
whatever they would resolve to; a later entry for a key replaces an earlier one.
-/
namespace Conform.Yaml

def modeNamed (name : String) : Outcome Mode :=
  match Mode.ofName? name with
  | some v => .ok v
  | none => .error (.say s!"unknown variant `{name}`, expected `sync` or `async`")

/-- Whether a node is an empty map: the void node or an empty plain scalar. -/
def isEmptyMap : Node → Bool
  | .void => true
  | .scalar _ s style => s.isEmpty && style == .plain
  | _ => false

namespace Document

variable (d : Document)

/-- The node at the cursor with one alias followed: the node, its mark and path, the cursor
inside it, and the position to resume at after an alias. -/
def resolved (path : Path) (c : Cursor) : Outcome (Node × Mark × Path × Cursor × Option Nat) := do
  let (n, m) ← d.event? c.pos
  match n with
  | .alias id =>
    let j ← d.jump id c
    let (n', m') ← d.event? j.pos
    return (n', m', .alias path, j, some (c.pos + 1))
  | _ => return (n, m, path, c, none)

/-- Moves past the node read, or back after an alias. -/
def resume (c : Cursor) (back : Option Nat) : Cursor :=
  match back with
  | some pos => { c with pos }
  | none => c

/-- Reads an execution mode. A variant named by a tag is looked up before the node is placed:
a name that is no mode is left for the enclosing mapping to place, or, through an alias, is
placed at the alias. -/
def mode (path : Path) (c : Cursor) : Outcome (Mode × Cursor) := do
  let (_, aliasMark) ← d.event? c.pos
  let (n, m, inner, c, back) ← d.resolved path c
  let after := { c with pos := c.pos + 1 }
  let unitOf (n : Node) : Outcome Unit := match n with
    | .scalar _ s style =>
      if style == .plain && (s.isEmpty || Scalar.isNullText s) then .ok ()
      else .error (.say (Scalar.invalidValue s "null"))
    | .sequenceStart _ => .error (.say (Json.invalidType "sequence" "unit"))
    | .mappingStart _ => .error (.say (Json.invalidType "map" "unit"))
    | _ => .ok ()
  let tag := match n with
    | .scalar tag _ _ | .sequenceStart tag | .mappingStart tag => tag
    | _ => none
  match variantOf? tag with
  | some t =>
    let v ← (modeNamed t).mapError fun p => if back.isSome then p.locate aliasMark path else p
    (unitOf n).mapError (·.locate m inner)
    return (v, resume after back)
  | none =>
    let result : Outcome Mode := match n with
      | .scalar _ s _ => modeNamed s
      | .sequenceStart _ => throw (.say (Json.invalidType "sequence" "a YAML tag starting with '!'"))
      | .mappingStart _ => throw (.say (Json.invalidType "map" "a YAML tag starting with '!'"))
      | _ => throw .endOfStream
    let v ← result.mapError (·.locate m inner)
    return (v, resume after back)

/-- Reads a mapping of text to text. -/
def messages (path : Path) (c : Cursor) : Outcome (List (String × String) × Cursor) := do
  let (n, m, path, c, back) ← d.resolved path c
  let result : Outcome (List (String × String) × Cursor) := match n with
    | .mappingStart _ => do
      let mut entries : List (String × String) := []
      let mut cur := { c with pos := c.pos + 1 }
      for _ in [0:d.nodes.size] do
        if ← d.atClose cur then break
        let (key, _) ← d.event? cur.pos
        let (name, next) ← d.text path "a string" cur
        let (v, next) ← d.text (valuePath path key) "a string" next
        entries := Members.insert entries name v
        cur := next
      return (entries, { cur with pos := cur.pos + 1 })
    | n =>
      if isEmptyMap n then .ok ([], { c with pos := c.pos + 1 })
      else .error (invalidType n "a map")
  let (v, after) ← result.mapError (·.locate m path)
  return (v, resume after back)

/-- Reads a configuration. -/
def config (c : Cursor) : Outcome (Config × Cursor) := do
  let (n, m, path, c, back) ← d.resolved .root c
  let result : Outcome (Config × Cursor) := match n with
    | .mappingStart _ => do
      let mut mode : Option Mode := none
      let mut templates : Option (List (String × String)) := none
      let mut cur := { c with pos := c.pos + 1 }
      for _ in [0:d.nodes.size] do
        if ← d.atClose cur then break
        let (key, _) ← d.event? cur.pos
        let (name, next) ← d.text path "field identifier" cur
        if name = "default_mode" then
          if mode.isSome then throw (.say "duplicate field `default_mode`")
          let (v, next) ← d.mode (valuePath path key) next
          mode := some v
          cur := next
        else if name = "messages" then
          if templates.isSome then throw (.say "duplicate field `messages`")
          let (v, next) ← d.messages (valuePath path key) next
          templates := some v
          cur := next
        else cur ← d.skipNode next
      return ({ defaultMode := mode.getD .sync, messages := templates.getD [] },
        { cur with pos := cur.pos + 1 })
    | n =>
      if isEmptyMap n then .ok ({}, { c with pos := c.pos + 1 })
      else .error (invalidType n "struct ZiCompilerConfig")
  let (v, after) ← result.mapError (·.locate m path)
  return (v, resume after back)

end Document

end Conform.Yaml

namespace Conform

def Config.ofYamlText (text : String) : Except Error Config :=
  let d := Yaml.Document.load text
  let result : Yaml.Outcome Config := do
    let (v, _) ← d.config {}
    if let some p := d.error then throw p
    if d.more then throw .moreThanOneDocument
    return v
  result.mapError fun p => .serialization p.text

end Conform
