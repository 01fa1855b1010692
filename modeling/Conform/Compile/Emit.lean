import Conform.Run.Fragment
import Conform.Schema.Basic
/-!
What a rule compiler may do while compiling a node. It reads the compilation context (the mode,
the compile label, the fragment table), registers fragments, which get the next free index,
and compiles nested schemas, optionally one label segment deeper and with a continuation, going
on with the fragment or the error each gives back. It ends with a fragment or an error. Rule
compilers are written in the monad `Emit`, a description of these requests; the compiler
answers them in order (`runRequestsIn`). So no rule compiler can change the mode, drop a
registered fragment or leave the label changed.
-/
namespace Conform

/-- The state of one compilation: its mode, the label of the node being compiled, and the
fragments registered so far, by index. -/
structure Context where
  mode : Mode
  label : List Segment := []
  table : Array Fragment := #[]

/-- Requests of a rule compiler, ending in a result or an error. -/
inductive Emit (α : Type) where
  | pure (a : α)
  | fail (e : Error)
  /-- Reads the compilation context. -/
  | context (k : Context → Emit α)
  /-- Registers a fragment and receives its index. -/
  | register (f : Fragment) (k : Nat → Emit α)
  /-- Compiles a schema, a segment deeper when one is given, with a continuation, and receives
  the fragment or the error the compilation ends with. -/
  | nested (seg : Option Segment) (s : Schema) (next : Option Fragment)
      (k : Except Error Fragment → Emit α)

namespace Emit

variable {α β : Type}

def bind : Emit α → (α → Emit β) → Emit β
  | .pure a, f => f a
  | .fail e, _ => .fail e
  | .context k, f => .context fun c => (k c).bind f
  | .register fr k, f => .register fr fun i => (k i).bind f
  | .nested seg s next k, f => .nested seg s next fun r => (k r).bind f

instance : Monad Emit where
  pure := .pure
  bind := bind

/-- A result or an error. -/
def ofExcept : Except Error α → Emit α
  | .ok a => .pure a
  | .error e => .fail e

def mode : Emit Mode := .context fun c => .pure c.mode

def label : Emit String := .context fun c => .pure (renderPath c.label)

def count : Emit Nat := .context fun c => .pure c.table.size

def fragment? (i : Nat) : Emit (Option Fragment) := .context fun c => .pure c.table[i]?

/-- Registers a fragment and returns its index. -/
def registerFragment (f : Fragment) : Emit Nat := .register f .pure

/-- Compiles a nested schema; its failure is the caller's. -/
def compileNested (seg : Option Segment) (s : Schema) (next : Option Fragment) : Emit Fragment :=
  .nested seg s next ofExcept

/-- Compiles the schema of an object field, one key deeper. -/
def compileField (key : String) (s : Schema) : Emit Fragment :=
  compileNested (some (.key key)) s none

/-- A fragment of the compilation's mode running a step. -/
def leaf (step : Step) : Emit Fragment := do
  let m ← mode
  return ⟨m, step⟩

/-- The step of a fragment run inside a composite of the compilation's mode; an asynchronous
fragment cannot run inside a synchronous composite. -/
def stage (f : Fragment) : Emit Step := do
  let g ← ofExcept (f.lift (← mode))
  return g.step

/-- The identity fragment of the compilation's mode. -/
def identity : Emit Fragment := leaf Step.identity

end Emit

end Conform
