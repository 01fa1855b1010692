import Conform.Schema.Basic
import Conform.Json.Print
/-!
Schemas as JSON, for display: a shorthand is `{"shorthand": text}` and a node is
`{"rule": tag, "options": {key: option}}` with its options in key order. An option is
`{"value": data}`, `{"schema": schema}`, `{"sequence": [schema]}`,
`{"fields": [[name, schema]]}` in declaration order, or `{"check": mode}`.
-/
namespace Conform

mutual
/-- A schema as JSON. -/
def Schema.toJson : Schema → Json
  | .shorthand t => .obj [("shorthand", .str t)]
  | .node rule options => .obj [("rule", .str rule), ("options", .obj (Opt.membersJson options))]

def Opt.toJson : Opt → Json
  | .value v => .obj [("value", v)]
  | .schema s => .obj [("schema", s.toJson)]
  | .sequence steps => .obj [("sequence", .arr (Schema.listJson steps))]
  | .fields fs => .obj [("fields", .arr (Schema.fieldsJson fs))]
  | .check c => .obj [("check", .str c.mode.name)]

def Schema.listJson : List Schema → List Json
  | [] => []
  | s :: rest => s.toJson :: Schema.listJson rest

def Schema.fieldsJson : List (String × Schema) → List Json
  | [] => []
  | (name, s) :: rest => .arr [.str name, s.toJson] :: Schema.fieldsJson rest

def Opt.membersJson : List (String × Opt) → List (String × Json)
  | [] => []
  | (k, o) :: rest => (k, o.toJson) :: Opt.membersJson rest
end

/-- A node as JSON. -/
def Node.toJson (n : Node) : Json := n.toSchema.toJson

end Conform
