import Conform.Config
import Conform.Registry
import Conform.Validator
/-!
The compiler. Compiling a schema fixes one mode, from the root node's `$$async` or else the
configuration, then compiles the root rule. Compiling a rule resolves its tag, reads how it
treats a missing value, lets the rule's compiler build its body (answering its requests),
registers the body in the fragment table and wraps it in a frame. A rule compiler may ask for
nested schemas without end, so compiling is a partial function: its least fixed point gives
`none` where compilation does not end. A failed compilation hands back its context too, since
a rule compiler may go on after a nested schema fails.

A frame runs as follows. A null value with a raw `default` is replaced by it, the body skipped;
a null value of an `optional` or `nullable` rule stays null, the body skipped; a null value of
any other rule but `pipe` is reported `required` and nothing more runs. Otherwise the body runs,
and the continuation, if any, runs on its output unless the body reported something.
-/
namespace Conform

/-- How a rule treats a missing (null) value. -/
inductive Presence where
  | required
  | optional
  | withDefault (v : Json)
  /-- The body itself handles null, as pipe steps do. -/
  | delegated

/-- A rule's presence: a raw `default` wins, then a true `optional`, then a true `nullable`;
`pipe` delegates, every other rule requires a value. -/
def Presence.ofDescriptor (d : Descriptor) : Except Error Presence := do
  if let some v := d.value? "default" then return .withDefault v
  if ← d.flag "optional" then return .optional
  if ← d.flag "nullable" then return .optional
  if d.rule = "pipe" then return .delegated
  return .required

/-- The step of a framed rule body with an optional continuation. -/
def frameStep (p : Presence) (body : Step) (next : Option Step) : Step := fun v s =>
  let proceed (w : Json) : Json × List Record :=
    match next with
    | none => (w, [])
    | some k => k w s
  match p, v with
  | .required, .null => (.null, [s.record { kind := "required" }])
  | .withDefault d, .null => proceed d
  | .optional, .null => proceed .null
  | _, _ =>
    match body v s with
    | (w, []) => proceed w
    | r => r

/-- A frame in mode `m`; the continuation must run in that mode. -/
def frame (m : Mode) (p : Presence) (body : Fragment) (next : Option Fragment) :
    Except Error Fragment := do
  let next ← match next with
    | none => pure none
    | some k => some <$> k.lift m
  return ⟨m, frameStep p body.step (next.map Fragment.step)⟩

/-- The context a nested schema is compiled in: one label segment deeper when a segment is
given. -/
def Context.enter (c : Context) : Option Segment → Context
  | some g => { c with label := c.label ++ [g] }
  | none => c

/-- The end of a rule's compilation, from the context `ctx` its rule compiler left: the body is
brought to the mode `m` and registered in the table, then framed. A body that cannot run in `m`
is refused before it is registered; a frame that is refused leaves the body registered. -/
def closeBody (m : Mode) (p : Presence) (next : Option Fragment) (body : Fragment)
    (ctx : Context) : Except Error Fragment × Context :=
  match body.lift m with
  | .error e => (.error e, ctx)
  | .ok body => (frame m p body next, { ctx with table := ctx.table.push body })

mutual
/-- The recursion of `compileRuleIn`, tied with that of `runRequestsIn` as one least fixed
point. -/
def compileRule._fix (reg : Registry) (s : Schema) (next : Option Fragment) (ctx : Context) :
    Option (Except Error Fragment × Context) :=
  match reg.resolve s (renderPath ctx.label) with
  | .error e => some (.error e, ctx)
  | .ok (d, compiler) =>
    match Presence.ofDescriptor d with
    | .error e => some (.error e, ctx)
    | .ok presence => do
      match ← runRequests._fix reg (compiler d) ctx with
      | (.error e, ctx') => return (.error e, ctx')
      | (.ok body, ctx') => return closeBody ctx.mode presence next body ctx'
partial_fixpoint

/-- The recursion of `runRequestsIn`, tied with that of `compileRuleIn`. -/
def runRequests._fix (reg : Registry) {α : Type} :
    Emit α → Context → Option (Except Error α × Context)
  | .pure a, c => some (.ok a, c)
  | .fail e, c => some (.error e, c)
  | .context k, c => runRequests._fix reg (k c) c
  | .register f k, c => runRequests._fix reg (k c.table.size) { c with table := c.table.push f }
  | .nested seg s next k, c => do
    match ← compileRule._fix reg s next (c.enter seg) with
    | (r, c') => runRequests._fix reg (k r) { c' with label := c.label }
partial_fixpoint
end

/-- Compiles a schema with a continuation in a context: the framed fragment or the error, with
the context the compilation left, on failure too (what was registered before a failure stays
registered); `none` when compilation does not end, as when a rule compiler keeps asking for
nested schemas. -/
def compileRuleIn (reg : Registry) (s : Schema) (next : Option Fragment) (ctx : Context) :
    Option (Except Error Fragment × Context) :=
  compileRule._fix reg s next ctx

/-- Answers a rule compiler's requests in order against a context, compiling nested schemas
with `compileRuleIn` and restoring the label after each; the program goes on from the fragment
or the error a nested schema gives. -/
def runRequestsIn (reg : Registry) {α : Type} (prog : Emit α) (c : Context) :
    Option (Except Error α × Context) :=
  runRequests._fix reg prog c

/-- A result paired with the context it was reached in; an error forgets the context. -/
def withContext {α : Type} : Except Error α × Context → Except Error (α × Context)
  | (r, c) => r.map fun a => (a, c)

/-- Compiles a schema with a continuation in a context: the framed fragment and the context with
the body registered, or an error. -/
def compileRule (reg : Registry) (s : Schema) (next : Option Fragment) (ctx : Context) :
    Option (Except Error (Fragment × Context)) :=
  (compileRuleIn reg s next ctx).map withContext

/-- Answers a rule compiler's requests: the result and the context it leaves, or an error. -/
def runRequests (reg : Registry) {α : Type} (prog : Emit α) (c : Context) :
    Option (Except Error (α × Context)) :=
  (runRequestsIn reg prog c).map withContext

/-- A compiler: a registry of rule compilers and a configuration. -/
structure Compiler where
  registry : Registry
  config : Config := {}

namespace Compiler

variable (c : Compiler)

/-- The mode a schema compiles to: the root node's boolean `$$async`, else the configured
default. -/
def declaredMode : Schema → Except Error Mode
  | .shorthand _ => .ok c.config.defaultMode
  | .node rule options =>
    match options.lookup "$$async" with
    | none => .ok c.config.defaultMode
    | some (.value (.bool true)) => .ok .async
    | some (.value (.bool false)) => .ok .sync
    | some _ => .error (.invalidOption rule "$$async" "" "expected a boolean")

/-- Compiles a schema into a validator; `none` when compilation does not end. -/
def compile (s : Schema) : Option (Except Error Validator) :=
  match c.declaredMode s with
  | .error e => some (.error e)
  | .ok m => (compileRule c.registry s none { mode := m }).map fun r => do
    let (root, ctx) ← r
    return { root, table := ctx.table, mode := m, messages := c.config.buildMessages }

end Compiler

end Conform
