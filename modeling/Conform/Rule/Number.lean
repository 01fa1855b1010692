import Conform.Registry
import Conform.Decimal.Parse
import Conform.Text.Blank
/-!
The number rule. It accepts a JSON number and, with `convert`, a string that reads as a
decimal number once trimmed, or a boolean (as 1 or 0); a value that is no finite number is
reported `number`. A converted value is replaced by its number, an integral one below `2^53`
in magnitude written as an integer. Then the bounds are checked in the order `min`, `max`,
`equal`, `notEqual`, `integer`, `positive`, `negative`, each failure reported with the value.
-/
namespace Conform

/-- A float as a JSON number: an integer when integral and below `2^53` in magnitude. -/
def Json.ofNumber (x : Float) : Json :=
  if Decimal.fract x == 0 && x.abs < 9007199254740992 then .ofInt (Decimal.integralValue x)
  else .ofFloat x

namespace Rule

/-- The options of the number rule. -/
structure NumberRule where
  convert : Bool := false
  min : Option Float := none
  max : Option Float := none
  equal : Option Float := none
  notEqual : Option Float := none
  integer : Bool := false
  positive : Bool := false
  negative : Bool := false

namespace NumberRule

/-- Reads the options of a number rule, in the order of its fields. -/
def ofDescriptor (d : Descriptor) : Except Error NumberRule := do
  let convert ← d.flag "convert"
  let min ← d.number "min"
  let max ← d.number "max"
  let equal ← d.number "equal"
  let notEqual ← d.number "notEqual"
  let integer ← d.flag "integer"
  let positive ← d.flag "positive"
  let negative ← d.flag "negative"
  return { convert, min, max, equal, notEqual, integer, positive, negative }

/-- The number a value stands for under the rule's conversion. -/
def read? (r : NumberRule) : Json → Option Float
  | .num n => some n.toFloat
  | .str t => if r.convert then Decimal.readFloat? (Text.trim t) else none
  | .bool b => if r.convert then some (if b then 1 else 0) else none
  | _ => none

/-- The issues of a number `n` standing for the value `out`, in order. -/
def issues (r : NumberRule) (n : Float) (out : Json) : List Issue :=
  let bound (kind : String) (b : Option Float) (fails : Float → Bool) : List Issue :=
    match b with
    | some x => if fails x then [{ kind, expected := some (Json.ofNumber x), actual := some out }]
      else []
    | none => []
  let flag (kind : String) (on fails : Bool) : List Issue :=
    if on && fails then [{ kind, actual := some out }] else []
  bound "numberMin" r.min (fun x => n < x) ++
  bound "numberMax" r.max (fun x => n > x) ++
  bound "numberEqual" r.equal (fun x => n != x) ++
  bound "numberNotEqual" r.notEqual (fun x => n == x) ++
  flag "numberInteger" r.integer (Decimal.fract n != 0) ++
  flag "numberPositive" r.positive (n <= 0) ++
  flag "numberNegative" r.negative (n >= 0)

def step (r : NumberRule) : Step := fun v s =>
  match (r.read? v).filter Decimal.isFinite with
  | none => (v, [s.record { kind := "number", actual := some v }])
  | some n =>
    let out := match v with
      | .num _ => v
      | _ => Json.ofNumber n
    (out, (r.issues n out).map s.record)

end NumberRule

def number : RuleCompiler := fun d => do
  let r ← Emit.ofExcept (NumberRule.ofDescriptor d)
  Emit.leaf r.step

end Rule

end Conform
