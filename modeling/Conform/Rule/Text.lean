import Conform.Registry
import Conform.Pattern.Match
import Conform.Text.Case
/-!
The string rule. It accepts a string and, with `convert`, a number (as its JSON text) or a
boolean (as `true` or `false`); anything else is reported `string`. The text is then trimmed
(`trim`, else `trimLeft`, else `trimRight`) and recased (`lowercase`, else `uppercase`), and the
checks run on the result, in order: `empty: false` refuses the empty text, `min`, `max` and
`length` bound its count of characters, and `pattern` must match somewhere in it. The value
becomes the resulting text.
-/
namespace Conform.Rule

/-- The options of the string rule. -/
structure TextRule where
  convert : Bool := false
  trim : Bool := false
  trimLeft : Bool := false
  trimRight : Bool := false
  lowercase : Bool := false
  uppercase : Bool := false
  empty : Bool := true
  min : Option Nat := none
  max : Option Nat := none
  length : Option Nat := none
  pattern : Option Pattern.Regex := none

namespace TextRule

/-- Reads the options of a string rule; the pattern is compiled first, and a pattern that does
not compile is an invalid option whose message is the pattern's error. -/
def ofDescriptor (d : Descriptor) : Except Error TextRule := do
  let pattern ← match ← d.string "pattern" with
    | some source =>
      match Pattern.Regex.compile source with
      | .ok r => pure (some r)
      | .error message => throw (d.invalid "pattern" message)
    | none => pure none
  let convert ← d.flag "convert"
  let trim ← d.flag "trim"
  let trimLeft ← d.flag "trimLeft"
  let trimRight ← d.flag "trimRight"
  let lowercase ← d.flag "lowercase"
  let uppercase ← d.flag "uppercase"
  let empty := (← d.optionalFlag "empty").getD true
  let min ← d.count "min"
  let max ← d.count "max"
  let length ← d.count "length"
  return { convert, trim, trimLeft, trimRight, lowercase, uppercase, empty, min, max, length,
           pattern }

/-- The text a value stands for under the rule's conversion. -/
def read? (r : TextRule) : Json → Option String
  | .str t => some t
  | .num n => if r.convert then some n.text else none
  | .bool b => if r.convert then some (if b then "true" else "false") else none
  | _ => none

/-- The text after trimming and recasing. -/
def sanitize (r : TextRule) (t : String) : String :=
  let t := if r.trim then Text.trim t
    else if r.trimLeft then Text.trimStart t
    else if r.trimRight then Text.trimEnd t
    else t
  if r.lowercase then Text.toLower t else if r.uppercase then Text.toUpper t else t

/-- The issues of a sanitized text, in order. -/
def issues (r : TextRule) (t : String) : List Issue :=
  let len := t.length
  let bound (kind : String) (b : Option Nat) (fails : Nat → Bool) : List Issue :=
    match b with
    | some x =>
      if fails x then [{ kind, expected := some (.ofNat x), actual := some (.ofNat len) }] else []
    | none => []
  (if !r.empty && len = 0 then [{ kind := "stringEmpty", actual := some (.str t) }] else []) ++
  bound "stringMin" r.min (fun x => len < x) ++
  bound "stringMax" r.max (fun x => len > x) ++
  bound "stringLength" r.length (fun x => len != x) ++
  match r.pattern with
  | some p =>
    if p.isMatch t then []
    else [{ kind := "stringPattern", expected := some (.str p.source), actual := some (.str t) }]
  | none => []

/-- The step of a string rule. -/
def step (r : TextRule) : Step := fun v s =>
  match r.read? v with
  | none => (v, [s.record { kind := "string", actual := some v }])
  | some t =>
    let t := r.sanitize t
    (.str t, (r.issues t).map s.record)

end TextRule

def text : RuleCompiler := fun d => do
  let r ← Emit.ofExcept (TextRule.ofDescriptor d)
  Emit.leaf r.step

end Conform.Rule
