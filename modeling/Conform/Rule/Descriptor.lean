import Conform.Schema.Document
/-!
Rule descriptors: a schema node after shorthand expansion, with the compile label of the place
where it stands. Rules read their options through typed accessors; an option of the wrong
shape is an invalid-option error naming the rule, the option and the label. Nested schemas
may be given as typed options or as raw JSON, which is read as a schema on access.
-/
namespace Conform

/-- A schema node being compiled, with its compile label. -/
structure Descriptor where
  node : Node
  label : String
  deriving Inhabited

namespace Descriptor

variable (d : Descriptor)

def rule : String := d.node.rule

/-- The option under a key, as given. -/
def option? (key : String) : Option Opt := d.node.get? key

def has (key : String) : Bool := (d.option? key).isSome

/-- The invalid-option error for a key of this node. -/
def invalid (key message : String) : Error := .invalidOption d.rule key d.label message

/-- The raw JSON under a key, if it is raw. -/
def value? (key : String) : Option Json :=
  match d.option? key with
  | some (.value v) => some v
  | _ => none

/-- A boolean option that may be absent. -/
def optionalFlag (key : String) : Except Error (Option Bool) :=
  match d.option? key with
  | none => .ok none
  | some (.value (.bool b)) => .ok (some b)
  | some _ => .error (d.invalid key "expected a boolean")

/-- A boolean option, false when absent. -/
def flag (key : String) : Except Error Bool := do
  return (← d.optionalFlag key).getD false

/-- A numeric option as a float. -/
def number (key : String) : Except Error (Option Float) :=
  match d.option? key with
  | none => .ok none
  | some (.value (.num n)) => .ok (some n.toFloat)
  | some _ => .error (d.invalid key "expected a number")

/-- A non-negative integer option. -/
def count (key : String) : Except Error (Option Nat) :=
  match d.option? key with
  | none => .ok none
  | some (.value (.num n)) =>
    match n.toNat? with
    | some k => .ok (some k)
    | none => .error (d.invalid key "expected a non-negative integer")
  | some _ => .error (d.invalid key "expected a non-negative integer")

def string (key : String) : Except Error (Option String) :=
  match d.option? key with
  | none => .ok none
  | some (.value (.str s)) => .ok (some s)
  | some _ => .error (d.invalid key "expected a string")

/-- A nested schema option: a typed schema, or raw JSON read as one. -/
def schema (key : String) : Except Error (Option Schema) :=
  match d.option? key with
  | none => .ok none
  | some (.schema s) => .ok (some s)
  | some (.value raw) =>
    match Schema.ofJson raw with
    | .ok s => .ok (some s)
    | .error e => .error (d.invalid key e.message)
  | some _ => .error (d.invalid key "expected a schema")

/-- Reads named schemas from raw object members, naming the first field that fails. -/
def fieldsOfMembers (key : String) :
    List (String × Json) → Except Error (List (String × Schema))
  | [] => .ok []
  | (name, raw) :: rest =>
    match Schema.ofJson raw with
    | .error e => .error (d.invalid key s!"field '{name}': {e.message}")
    | .ok s => do
      let r ← fieldsOfMembers key rest
      .ok ((name, s) :: r)

/-- A field-schemas option: typed fields, or a raw object of schemas in member order. -/
def fields (key : String) : Except Error (Option (List (String × Schema))) :=
  match d.option? key with
  | none => .ok none
  | some (.fields fs) => .ok (some fs)
  | some (.value (.obj ms)) => (d.fieldsOfMembers key ms).map some
  | some _ => .error (d.invalid key "expected a map of field schemas")

/-- Reads schemas from raw array items, naming the first element that fails. -/
def stepsOfItems (key : String) (index : Nat) : List Json → Except Error (List Schema)
  | [] => .ok []
  | raw :: rest =>
    match Schema.ofJson raw with
    | .error e => .error (d.invalid key s!"element {index}: {e.message}")
    | .ok s => do
      let r ← stepsOfItems key (index + 1) rest
      .ok (s :: r)

/-- A sequence option: a typed sequence, or a raw array of schemas. Any other option, and an
absent one, gives none. -/
def sequence (key : String) : Except Error (Option (List Schema)) :=
  match d.option? key with
  | some (.sequence steps) => .ok (some steps)
  | some (.value (.arr items)) => (d.stepsOfItems key 0 items).map some
  | _ => .ok none

/-- A check option. -/
def check (key : String) : Except Error (Option Check) :=
  match d.option? key with
  | none => .ok none
  | some (.check c) => .ok (some c)
  | some _ => .error (d.invalid key "expected a check function")

end Descriptor

end Conform
