import Conform.Checks
/-!
Sample rule compilers that show what a rule compiler can ask of its compilation: its label,
its mode, the fragment table, nested compilation with a continuation, and fragments that run
only in one mode.
-/
namespace Conform.Rule

/-- Even integers pass, halved with `halve`; anything else is reported `even`. -/
def even : RuleCompiler := fun d => do
  let halve ← Emit.ofExcept (d.flag "halve")
  Emit.leaf fun v s =>
    match Checks.int64? v with
    | some n => if n % 2 = 0 then (if halve then .ofInt (n / 2) else v, [])
      else (v, [s.record { kind := "even", actual := some v }])
    | none => (v, [s.record { kind := "even", actual := some v }])

/-- A string gets `!` appended; other values stay. -/
def shout : RuleCompiler := fun _ =>
  Emit.leaf fun v _ =>
    match v with
    | .str t => (.str (t ++ "!"), [])
    | _ => (v, [])

/-- Every value becomes null. -/
def blank : RuleCompiler := fun _ => Emit.leaf fun _ _ => (.null, [])

/-- Every value becomes the rule's label and the compilation's label, joined by `|`. -/
def label : RuleCompiler := fun d => do
  let here ← Emit.label
  Emit.leaf fun _ _ => (.str (d.label ++ "|" ++ here), [])

/-- Every value becomes the size of the fragment table when the rule was compiled. -/
def fragments : RuleCompiler := fun _ => do
  let n ← Emit.count
  Emit.leaf fun _ _ => (.ofNat n, [])

/-- Every value becomes the name of the compilation's mode. -/
def mode : RuleCompiler := fun _ => do
  let m ← Emit.mode
  Emit.leaf fun _ _ => (.str m.name, [])

/-- An asynchronous identity: it cannot compile synchronously. -/
def suspend : RuleCompiler := fun _ => return Fragment.identity .async

/-- A synchronous runner that is never ready: it reports `suspended` and yields null. -/
def stall : RuleCompiler := fun _ => return Fragment.immediate fun _ _ => .pending

/-- Runs item steps on the elements of an array from index `i`, one index deeper; a missing
element is validated as null and not written back. -/
def runTuple (s : Scope) : Nat → List Step → List Json → List Record → List Json × List Record
  | _, [], elements, records => (elements, records)
  | i, step :: rest, elements, records =>
    let (out, found) := step (elements.getD i .null) ((s.extend records).enter (.index i))
    let elements := if i < elements.length then elements.set i out else elements
    runTuple s (i + 1) rest elements (records ++ found)

/-- A fixed-length array whose `items` are one schema per index; synchronous only. -/
def tuple : RuleCompiler := fun d => do
  let items := (← Emit.ofExcept (d.sequence "items")).getD []
  let mut compiled : List Fragment := []
  for (schema, i) in items.zipIdx do
    compiled := compiled ++ [← Emit.compileNested (some (.index i)) schema none]
  let mut steps : List Step := []
  for f in compiled do
    steps := steps ++ [(← Emit.ofExcept (f.lift .sync)).step]
  return ⟨.sync, fun v s =>
    match v with
    | .arr elements =>
      let (elements, records) := runTuple s 0 steps elements []
      (.arr elements, records)
    | _ => (v, [s.record { kind := "tuple", actual := some v }])⟩

/-- Compiles the `inner` schema (else `any`) with a continuation that wraps its output as
`{"then": value}`. -/
def andThen : RuleCompiler := fun d => do
  let inner := (← Emit.ofExcept (d.schema "inner")).getD (.shorthand "any")
  let wrap ← Emit.leaf fun v _ => (.obj [("then", v)], [])
  Emit.compileNested none inner (some wrap)

/-- Registers one more identity fragment and yields a constant describing the table then. -/
def peek : RuleCompiler := fun _ => do
  let i ← Emit.registerFragment (← Emit.identity)
  let m := (← Emit.fragment? i).map (·.mode)
  let beyond := (← Emit.fragment? (i + 1)).isSome
  let n ← Emit.count
  let info : Json := .obj [("index", .ofNat i),
    ("mode", match m with
      | some m => .str m.name
      | none => .null),
    ("beyond", .bool beyond), ("count", .ofNat n)]
  Emit.leaf fun _ _ => (info, [])

/-- The sample rules by name. -/
def samples : List (String × RuleCompiler) :=
  [("even", even), ("shout", shout), ("blank", blank), ("label", label),
   ("fragments", fragments), ("mode", mode), ("suspend", suspend), ("stall", stall),
   ("tuple", tuple), ("then", andThen), ("peek", peek)]

end Conform.Rule
