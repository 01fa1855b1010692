import Conform.Run.Fragment
/-!
Validators: the compiled root fragment with the fragment table, the mode and the message
catalogue. A call runs the root step on the value with a fresh scope and returns the outcome
and the value as the steps left it. A validator is called in its own mode; a call in the other
mode fails and leaves the value untouched.
-/
namespace Conform

/-- A compiled validator. -/
structure Validator where
  root : Fragment
  table : Array Fragment
  mode : Mode
  messages : Messages

namespace Validator

variable (val : Validator)

def fragmentCount : Nat := val.table.size

def fragment? (i : Nat) : Option Fragment := val.table[i]?

/-- Runs the root step on a value with a fresh scope. -/
def run (v : Json) : Outcome × Json :=
  let (out, records) := val.root.step v { messages := val.messages }
  (Outcome.ofRecords records, out)

/-- Validates a value through a calling mode: the outcome and the value left, or the mode
mismatch when the root fragment does not run in that mode. -/
def validate (call : Mode) (v : Json) : Except Error (Outcome × Json) :=
  if val.root.mode = call then .ok (val.run v) else .error (.executionMode val.mode call)

end Validator

end Conform
