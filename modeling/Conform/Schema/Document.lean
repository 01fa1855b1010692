import Conform.Schema.Shorthand
/-!
Schema documents. A JSON value is a schema when it is a string (a shorthand) or an object: an
object with `$$type` is the shorthand in `$$type` with its other members as the field schemas
`props`; otherwise its string `type` is the rule tag and its other members raw options.

A whole document is an object whose members are the fields of a root `object` rule; its
`$$async` becomes the root's `$$async` option and its `$$strict` the `strict` option, and other
`$$` keys are skipped, or refused when reading strictly. With `$$root: true` the document is
itself the root schema, read without its `$$root` member (whose place the last member takes).
A string document is a shorthand.
-/
namespace Conform

namespace Schema

mutual
/-- Reads a schema from a JSON value. -/
def ofJson : Json → Except Error Schema
  | .str s => .ok (.shorthand s)
  | .obj members => nodeOfMembers members
  | v => .error (.schema s!"a schema must be a string or a map, got {v.kindName}")

/-- Reads a schema node from an object's members. -/
def nodeOfMembers (members : List (String × Json)) : Except Error Schema :=
  match members.lookup "$$type" with
  | some (.str tag) => do
    let node ← Shorthand.expand tag
    let props ← propsOfMembers members
    .ok (node.set "props" (.fields props)).toSchema
  | some _ => .error (.schema "'$$type' must be a string")
  | none =>
    match members.lookup "type" with
    | some (.str tag) =>
      .ok (members.foldl (fun n (k, v) => if k = "type" then n else n.set k (.value v))
        (Node.ofRule tag)).toSchema
    | some _ => .error (.schema "'type' must be a string")
    | none => .error (.schema "schema node is missing 'type'")

/-- Reads the field schemas of a `$$type` object: every member but `$$type`, in order. -/
def propsOfMembers : List (String × Json) → Except Error (List (String × Schema))
  | [] => .ok []
  | (k, v) :: rest =>
    if k = "$$type" then propsOfMembers rest
    else do
      let s ← ofJson v
      let r ← propsOfMembers rest
      .ok ((k, s) :: r)
end

end Schema

namespace Document

/-- Reads the members of a document into the root node's options and fields; `strict` refuses
unknown `$$` keys. -/
def rootOfMembers (strict : Bool) :
    List (String × Json) → Node → Except Error (Node × List (String × Schema))
  | [], n => .ok (n, [])
  | (k, v) :: rest, n =>
    if k = "$$async" then rootOfMembers strict rest (n.set "$$async" (.value v))
    else if k = "$$strict" then rootOfMembers strict rest (n.set "strict" (.value v))
    else if k = "$$root" then rootOfMembers strict rest n
    else if k.startsWith "$$" then
      if strict then .error (.schema s!"unknown meta key '{k}'")
      else rootOfMembers strict rest n
    else do
      let s ← Schema.ofJson v
      let (n', props) ← rootOfMembers strict rest n
      .ok (n', (k, s) :: props)

/-- Reads a schema document. -/
def toSchema (strict : Bool) : Json → Except Error Schema
  | .str s => .ok (.shorthand s)
  | .obj members =>
    match members.lookup "$$root" with
    | some (.bool true) => Schema.nodeOfMembers (Members.swapRemove members "$$root")
    | _ => do
      let (n, props) ← rootOfMembers strict members (Node.ofRule "object")
      .ok (n.set "props" (.fields props)).toSchema
  | v => .error (.schema s!"schema document must be a map, got {v.kindName}")

end Document

end Conform
