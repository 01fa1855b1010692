import Conform.Registry
/-!
The object rule. Its field schemas are the option `props`, else `properties`. Running on an
object, it runs each field's schema, in the order declared, on the field's value (null when
absent) one key deeper, and writes the result back when the field was present or the result is
not null. Then strictness applies: `strict: true` reports the undeclared keys, in the object's
order and joined by `, `, as `objectStrict`; `strict: "remove"` drops them. A value that is not an
object is reported `object`.
-/
namespace Conform.Rule

/-- What an object does with keys it does not declare. -/
inductive Strictness where
  | off
  | reject
  | remove
  deriving DecidableEq, Repr

/-- The strictness of an object rule, from `strict` or else `$$strict`. -/
def Strictness.ofDescriptor (d : Descriptor) : Except Error Strictness :=
  let key := if d.has "strict" then "strict" else "$$strict"
  match d.option? key with
  | none => .ok .off
  | some (.value (.bool false)) => .ok .off
  | some (.value (.bool true)) => .ok .reject
  | some (.value (.str "remove")) => .ok .remove
  | _ => .error (d.invalid key "expected a boolean or \"remove\"")

/-- Runs the field steps over an object's members, in order; gives the members and the
records. -/
def runFields (s : Scope) : List (String × Step) → List (String × Json) → List Record →
    List (String × Json) × List Record
  | [], members, records => (members, records)
  | (key, step) :: rest, members, records =>
    let slot := members.lookup key
    let (out, found) := step (slot.getD .null) ((s.extend records).enter (.key key))
    let members := if slot.isSome || !out.isNull then Members.insert members key out else members
    runFields s rest members (records ++ found)

/-- The step of an object rule. -/
def objectStep (fields : List (String × Step)) (strictness : Strictness) : Step := fun v s =>
  match v with
  | .obj members =>
    let (members, records) := runFields s fields members []
    let declares (k : String) : Bool := fields.any (·.1 == k)
    match strictness with
    | .off => (.obj members, records)
    | .reject =>
      let extra := (members.map (·.1)).filter (!declares ·)
      if extra.isEmpty then (.obj members, records)
      else (.obj members,
        records ++ [(s.extend records).record
          { kind := "objectStrict", actual := some (.str (", ".intercalate extra)) }])
    | .remove => (.obj (members.filter (declares ·.1)), records)
  | other => (other, [s.record { kind := "object", actual := some other }])

def object : RuleCompiler := fun d => do
  let props ← match ← Emit.ofExcept (d.fields "props") with
    | some props => pure props
    | none => pure ((← Emit.ofExcept (d.fields "properties")).getD [])
  let strictness ← Emit.ofExcept (Strictness.ofDescriptor d)
  let mut compiled : List (String × Fragment) := []
  for (key, schema) in props do
    compiled := compiled ++ [(key, ← Emit.compileField key schema)]
  let mut steps : List (String × Step) := []
  for (key, f) in compiled do
    steps := steps ++ [(key, ← Emit.stage f)]
  Emit.leaf (objectStep steps strictness)

end Conform.Rule
