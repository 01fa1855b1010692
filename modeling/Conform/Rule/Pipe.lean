import Conform.Registry
/-!
The pipe rule and the custom rule. A pipe runs its `steps` one after another, each on the
previous one's output, and stops after the first step that reports something; without a
sequence of steps it leaves the value as it is. A custom rule runs its `check` function; an
asynchronous check needs an asynchronous compilation.
-/
namespace Conform.Rule

/-- Runs steps in order until one reports. -/
def pipeStep : List Step → Step
  | [], v, _ => (v, [])
  | step :: rest, v, s =>
    match step v s with
    | (w, []) => pipeStep rest w s
    | r => r

def pipe : RuleCompiler := fun d => do
  match ← Emit.ofExcept (d.sequence "steps") with
  | none => Emit.identity
  | some steps =>
    let mut compiled : List Fragment := []
    for schema in steps do
      compiled := compiled ++ [← Emit.compileNested none schema none]
    let mut stages : List Step := []
    for f in compiled do
      stages := stages ++ [← Emit.stage f]
    Emit.leaf (pipeStep stages)

def custom : RuleCompiler := fun d => do
  match ← Emit.ofExcept (d.check "check") with
  | none => Emit.ofExcept (.error (d.invalid "check" "a check function is required"))
  | some c =>
    match c.mode, ← Emit.mode with
    | .sync, _ => Emit.leaf c.step
    | .async, .sync =>
      Emit.ofExcept (.error (d.invalid "check" "asynchronous checks need a schema compiled with $$async"))
    | .async, .async => return ⟨.async, c.step⟩

end Conform.Rule
