import Conform.Rule.Pipe
import Conform.Decimal.Parse
import Conform.Json.Read
import Conform.Text.Basic
/-!
A catalogue of named checks, so that documents written as data can use the `custom` rule. A
check is named `[async:]NAME[:ARG]`: the optional `async:` makes the check asynchronous, and ARG
is everything after the first `:` that follows the name.

The custom rule of this catalogue looks the string `check` option of its node up and compiles
the named check; any other `check` option is left to the plain custom rule, which refuses it.
-/
namespace Conform

namespace Checks

/-- The value as a signed 64-bit integer, if it is an integer in range. -/
def int64? : Json → Option Int
  | .num n => n.toInt?
  | _ => none

/-- The successor in signed 64-bit arithmetic: the largest value wraps round to the least. -/
def succ64 (n : Int) : Int :=
  if n + 1 = 9223372036854775808 then -9223372036854775808 else n + 1

/-- Adds one to an integer, or to the integer a string holds between blanks, in signed 64-bit
arithmetic. -/
def increment : Step := fun v _ =>
  match v with
  | .str t =>
    let trimmed := Text.trim t
    match Decimal.readInt64? trimmed with
    | some n => (.str (Text.replaceFirst t trimmed (toString (succ64 n))), [])
    | none => (v, [])
  | _ =>
    match int64? v with
    | some n => (.ofInt (succ64 n), [])
    | none => (v, [])

/-- Halves an even integer; anything else is reported `even`. -/
def halveEven : Step := fun v s =>
  match int64? v with
  | some n => if n % 2 = 0 then (.ofInt (n / 2), []) else (v, [s.record { kind := "even", actual := some v }])
  | none => (v, [s.record { kind := "even", actual := some v }])

/-- Reports an issue described by JSON text: its string `type` (else `custom`), its `actual`
and `expected` when present, and its string `message`; text that is no JSON describes nothing. -/
def issueOf (spec : String) : Issue :=
  let d := (Json.parse spec).toOption.getD .null
  { kind := match d.field? "type" with
      | some (.str k) => k
      | _ => "custom",
    actual := d.field? "actual",
    expected := d.field? "expected",
    message := match d.field? "message" with
      | some (.str m) => some m
      | _ => none }

/-- Reads a decimal number written with a comma or a point: an integral result becomes an
integer, another finite one a float, a non-finite one null. Anything else is reported
`number`. -/
def decimal : Step := fun v s =>
  match v with
  | .str t =>
    match Decimal.readFloat? (Text.replaceFirst t "," ".") with
    | some x =>
      if Decimal.fract x == 0 then (.ofInt (Decimal.saturatingInt64 x), [])
      else if Decimal.isFinite x then (.ofFloat x, [])
      else (.null, [])
    | none => (v, [s.record { kind := "number" }])
  | _ => (v, [s.record { kind := "number" }])

/-- Reports an issue one segment deeper and leaves the value. -/
def reportWithin (seg : Segment) (i : Issue) : Step := fun v s => (v, [(s.enter seg).record i])

/-- The body of a named check, given its name and argument. -/
def body? (name : String) (arg : String) : Option Step :=
  match name with
  | "identity" => some Step.identity
  | "null" => some fun _ _ => (.null, [])
  | "increment" => some increment
  | "halve_even" => some halveEven
  | "report" => some fun v s => (v, [s.record { kind := arg, actual := some v }])
  | "report_msg" => some fun v s => (v, [s.record { kind := "custom", message := some arg }])
  | "issue" => some fun v s => (v, [s.record (issueOf arg)])
  | "set" => some fun _ _ => ((Json.parse arg).toOption.getD .null, [])
  | "parse_json" => some fun v s =>
    match v with
    | .str t =>
      match Json.parse t with
      | .ok parsed => (parsed, [])
      | .error _ => (v, [s.record { kind := "json", actual := some v }])
    | _ => (v, [s.record { kind := "json", actual := some v }])
  | "merge_role" => some fun v _ =>
    match v with
    | .obj ms => if (ms.lookup "role").isSome then (v, []) else (.obj (ms ++ [("role", .str "guest")]), [])
    | _ => (v, [])
  | "decimal" => some decimal
  | "path" => some fun _ s => (.str s.field, [])
  | "count" => some fun _ s => (.ofNat s.records.length, [])
  | "within" => some (fun v s => reportWithin (.key arg) { kind := "within", actual := some v } v s)
  | "index" =>
    some (reportWithin (.index ((Decimal.readNat64? arg).getD 0)) { kind := "index" })
  | "items" => some (reportWithin .items { kind := "items" })
  | "errors" => some fun _ s => (.arr (s.records.map Record.toJson), [])
  | "depth" => some fun _ s => (.ofNat s.path.length, [])
  | _ => none

/-- The check a spec names, if it names one. -/
def named? (spec : String) : Option Check :=
  let (mode, rest) := if spec.startsWith "async:" then (Mode.async, spec.drop 6 |>.toString)
    else (Mode.sync, spec)
  let (name, arg) := match rest.splitOn ":" with
    | [name] => (name, "")
    | name :: more => (name, ":".intercalate more)
    | [] => (rest, "")
  (body? name arg).map fun step => { mode, step }

end Checks

/-- The custom rule with the named checks: a string `check` option that names a check is
replaced by that check before the plain custom rule compiles the node. -/
def Rule.namedCustom : RuleCompiler := fun d =>
  match d.value? "check" with
  | some (.str spec) =>
    match Checks.named? spec with
    | some c => Rule.custom { d with node := d.node.set "check" (.check c) }
    | none => Rule.custom d
  | _ => Rule.custom d

end Conform
