import Conform.Rule.Basic
import Conform.Rule.Number
import Conform.Rule.Text
import Conform.Rule.Object
import Conform.Rule.Sequence
import Conform.Rule.Pipe
/-!
The built-in rules: `any`, `string`, `number`, `boolean`, `object`, `array`, `custom` and
`pipe`.
-/
namespace Conform

/-- The built-in rules by tag. -/
def Registry.builtinRules : List (String × RuleCompiler) :=
  [("any", Rule.any), ("string", Rule.text), ("number", Rule.number), ("boolean", Rule.boolean),
   ("object", Rule.object), ("array", Rule.array), ("custom", Rule.custom), ("pipe", Rule.pipe)]

def Registry.builtins : Registry :=
  Registry.builtinRules.foldl (fun r (tag, c) => (r.override tag c).2) {}

end Conform
