import Conform.Error
import Conform.Run.Scope
/-!
Fragments: compiled steps tagged with the mode they run in. A synchronous fragment can be
lifted to run asynchronously with the same effects; an asynchronous one cannot run
synchronously. A runner driven synchronously that is not ready at its first poll reports
`suspended` and yields null.
-/
namespace Conform

/-- A compiled step and the mode it runs in. -/
structure Fragment where
  mode : Mode
  step : Step

/-- A runner's answer to its first poll. -/
inductive Poll (α : Type) where
  | ready (a : α)
  | pending

namespace Fragment

def identity (m : Mode) : Fragment := ⟨m, Step.identity⟩

/-- The fragment in the mode `m`: a synchronous fragment may run in either mode, an
asynchronous one only asynchronously. -/
def lift (f : Fragment) (m : Mode) : Except Error Fragment :=
  match f.mode, m with
  | .async, .sync => .error (.executionMode .sync .async)
  | _, _ => .ok { f with mode := m }

/-- A synchronous fragment that drives a runner to its first poll; a runner still pending
reports `suspended` at the current path and yields null. -/
def immediate (runner : Json → Scope → Poll (Json × List Record)) : Fragment :=
  ⟨.sync, fun v s =>
    match runner v s with
    | .ready r => r
    | .pending => (.null, [s.record { kind := "suspended" }])⟩

end Fragment

end Conform
