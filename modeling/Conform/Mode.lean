/-!
Execution modes. A validator runs either synchronously, each step finishing when called, or
asynchronously, steps awaited one after another. The mode is fixed when a schema is compiled.
-/
namespace Conform

/-- How a compiled validator is run. -/
inductive Mode where
  | sync
  | async
  deriving Repr, DecidableEq, Inhabited

/-- The mode's name, as configurations spell it. -/
def Mode.name : Mode → String
  | .sync => "sync"
  | .async => "async"

def Mode.ofName? : String → Option Mode
  | "sync" => some .sync
  | "async" => some .async
  | _ => none

end Conform
