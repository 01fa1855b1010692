import Conform.Registry
/-!
The rules `any`, which accepts every value, and `boolean`, which accepts a boolean and, with
`convert`, reads `"true"`, `"1"`, `"on"`, `1` as true and `"false"`, `"0"`, `"off"`, `0` as false.
-/
namespace Conform.Rule

/-- The rule that accepts every value unchanged. -/
def any : RuleCompiler := fun _ => Emit.identity

/-- The boolean a value stands for when converting. -/
def booleanOf? : Json → Option Bool
  | .str "true" | .str "1" | .str "on" => some true
  | .str "false" | .str "0" | .str "off" => some false
  | .num n =>
    let x := n.toFloat
    if x == 1 then some true else if x == 0 then some false else none
  | _ => none

/-- The step of the boolean rule. -/
def booleanStep (convert : Bool) : Step := fun v s =>
  match v with
  | .bool _ => (v, [])
  | _ =>
    match (if convert then booleanOf? v else none) with
    | some b => (.bool b, [])
    | none => (v, [s.record { kind := "boolean", actual := some v }])

def boolean : RuleCompiler := fun d => do
  let convert ← Emit.ofExcept (d.flag "convert")
  Emit.leaf (booleanStep convert)

end Conform.Rule
