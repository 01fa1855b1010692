import Conform.Mode
import Conform.Run.Scope
/-!
Schemas as data. A schema is a shorthand text such as `number|min:1`, or a node: a rule tag
with options, kept sorted by key, a later setting of a key replacing the earlier one. An
option is raw JSON, a nested schema, a sequence of schemas, an ordered list of named field
schemas, or a custom check. Documents only produce raw options and field lists; the other
kinds come from schemas built in code. Raw options that hold nested schemas are read by the
rule that uses them.
-/
namespace Conform

/-- A custom check: a step run on the value, synchronous or asynchronous. -/
structure Check where
  mode : Mode
  step : Step

mutual
/-- A validation schema. -/
inductive Schema where
  | shorthand (text : String)
  | node (rule : String) (options : List (String × Opt))

/-- An option of a schema node. -/
inductive Opt where
  | value (v : Json)
  | schema (s : Schema)
  | sequence (steps : List Schema)
  | fields (fields : List (String × Schema))
  | check (c : Check)
end

instance : Inhabited Schema := ⟨.shorthand ""⟩

/-- A schema node: a rule tag and its options, sorted by key. -/
structure Node where
  rule : String
  options : List (String × Opt) := []
  deriving Inhabited

namespace Options

variable {α : Type}

/-- Sets `key` in a list sorted by key: an existing entry is replaced in place, a new one goes
where the order puts it. -/
def insert : List (String × α) → String → α → List (String × α)
  | [], k, v => [(k, v)]
  | (k', v') :: rest, k, v =>
    if k = k' then (k, v) :: rest
    else if k < k' then (k, v) :: (k', v') :: rest
    else (k', v') :: insert rest k v

end Options

namespace Node

def ofRule (rule : String) : Node := { rule }

def toSchema (n : Node) : Schema := .node n.rule n.options

def get? (n : Node) (key : String) : Option Opt := n.options.lookup key

def set (n : Node) (key : String) (o : Opt) : Node :=
  { n with options := Options.insert n.options key o }

def optional (n : Node) : Node := n.set "optional" (.value (.bool true))

def withDefault (n : Node) (v : Json) : Node := n.set "default" (.value v)

def asynchronous (n : Node) : Node := n.set "$$async" (.value (.bool true))

end Node

namespace Schema

/-- The node of a schema given as a node. -/
def node? : Schema → Option Node
  | .node rule options => some { rule, options }
  | .shorthand _ => none

/-- A pipe over steps. -/
def pipe (steps : List Schema) : Node := (Node.ofRule "pipe").set "steps" (.sequence steps)

/-- An object with field schemas in order. -/
def object (props : List (String × Schema)) : Node :=
  (Node.ofRule "object").set "props" (.fields props)

/-- An array whose items follow a schema. -/
def array (items : Schema) : Node := (Node.ofRule "array").set "items" (.schema items)

/-- A custom rule running a check. -/
def custom (c : Check) : Node := (Node.ofRule "custom").set "check" (.check c)

end Schema

namespace Json

mutual
/-- Size of a JSON value: one per value, plus the characters of each string. -/
def weight : Json → Nat
  | .str s => s.length + 1
  | .arr items => 1 + weightItems items
  | .obj members => 1 + weightMembers members
  | _ => 1

def weightItems : List Json → Nat
  | [] => 0
  | v :: rest => weight v + weightItems rest

def weightMembers : List (String × Json) → Nat
  | [] => 0
  | (_, v) :: rest => weight v + weightMembers rest
end

end Json

mutual
/-- Size of a schema, counting shorthand text and raw option values as well as nested
schemas; every schema a rule reads out of a node's options is smaller than the node. -/
def Schema.weight : Schema → Nat
  | .shorthand t => t.length + 1
  | .node _ options => 1 + Opt.weightMembers options

def Opt.weight : Opt → Nat
  | .value v => v.weight
  | .schema s => s.weight
  | .sequence steps => 1 + Schema.weightList steps
  | .fields fields => 1 + Schema.weightFields fields
  | .check _ => 1

def Schema.weightList : List Schema → Nat
  | [] => 0
  | s :: rest => s.weight + Schema.weightList rest

def Schema.weightFields : List (String × Schema) → Nat
  | [] => 0
  | (_, s) :: rest => s.weight + Schema.weightFields rest

def Opt.weightMembers : List (String × Opt) → Nat
  | [] => 0
  | (_, o) :: rest => o.weight + Opt.weightMembers rest
end

end Conform
