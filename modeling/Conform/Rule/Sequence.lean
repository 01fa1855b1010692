import Conform.Registry
/-!
The array rule. Running on an array, it checks the count of elements (`empty: false` refuses
none, `min`, `max` and `length` bound it) and then, with an `items` schema, runs the schema on
each element one index deeper and writes the results back. A value that is not an array is
reported `array`.
-/
namespace Conform.Rule

/-- The bounds on the count of an array's elements. -/
structure Bounds where
  empty : Bool := true
  min : Option Nat := none
  max : Option Nat := none
  length : Option Nat := none

namespace Bounds

/-- Reads the bounds of an array rule. -/
def ofDescriptor (d : Descriptor) : Except Error Bounds := do
  let empty := (← d.optionalFlag "empty").getD true
  let min ← d.count "min"
  let max ← d.count "max"
  let length ← d.count "length"
  return { empty, min, max, length }

/-- The issues of an array with `len` elements, in order. -/
def issues (b : Bounds) (len : Nat) : List Issue :=
  let bound (kind : String) (x : Option Nat) (fails : Nat → Bool) : List Issue :=
    match x with
    | some n =>
      if fails n then [{ kind, expected := some (.ofNat n), actual := some (.ofNat len) }] else []
    | none => []
  (if !b.empty && len = 0 then [{ kind := "arrayEmpty", actual := some (.arr []) }] else []) ++
  bound "arrayMin" b.min (fun n => len < n) ++
  bound "arrayMax" b.max (fun n => len > n) ++
  bound "arrayLength" b.length (fun n => len != n)

end Bounds

/-- Runs an element step over elements from index `i`; gives the results and the records. -/
def runElements (s : Scope) (step : Step) : Nat → List Json → List Record → List Json × List Record
  | _, [], records => ([], records)
  | i, e :: rest, records =>
    let (out, found) := step e ((s.extend records).enter (.index i))
    let (outs, records) := runElements s step (i + 1) rest (records ++ found)
    (out :: outs, records)

/-- The step of an array rule. -/
def arrayStep (b : Bounds) (items : Option Step) : Step := fun v s =>
  match v with
  | .arr elements =>
    let records := (b.issues elements.length).map s.record
    match items with
    | none => (v, records)
    | some step =>
      let (outs, records) := runElements s step 0 elements records
      (.arr outs, records)
  | other => (other, [s.record { kind := "array", actual := some other }])

def array : RuleCompiler := fun d => do
  let bounds ← Emit.ofExcept (Bounds.ofDescriptor d)
  let items ← match ← Emit.ofExcept (d.schema "items") with
    | some schema => some <$> Emit.compileNested (some .items) schema none
    | none => pure none
  let step ← match items with
    | some f => some <$> Emit.stage f
    | none => pure none
  Emit.leaf (arrayStep bounds step)

end Conform.Rule
