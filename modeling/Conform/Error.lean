import Conform.Mode
/-!
Failures of compiling a schema, of loading a schema document or a configuration, and of
calling a validator through the wrong mode. A value that fails validation is no failure of
this kind: it yields error records.
-/
namespace Conform

/-- Why a schema, document or configuration could not be turned into a validator. -/
inductive Error where
  /-- No rule compiler is registered for the tag; `path` is the compile label of the node. -/
  | unknownRule (tag path : String)
  /-- An option of a rule node has the wrong shape. -/
  | invalidOption (rule option path message : String)
  /-- A rule compiler is already registered under the tag. -/
  | duplicateRule (tag : String)
  /-- A schema document is malformed. -/
  | schema (message : String)
  /-- A fragment or a call does not match the validator's mode. -/
  | executionMode (expected actual : Mode)
  /-- A schema file could not be read. -/
  | io (message : String)
  /-- A text could not be read as JSON or YAML, or not as the type asked for. -/
  | serialization (message : String)
  /-- A nested compilation went deeper than the schema's own size allows. -/
  | internal (message : String)
  deriving Repr, DecidableEq

/-- The error in words. -/
def Error.message : Error → String
  | .unknownRule tag path => s!"unknown rule '{tag}' at '{path}'"
  | .invalidOption rule option path message =>
    s!"invalid option '{option}' on rule '{rule}' at '{path}': {message}"
  | .duplicateRule tag => s!"rule '{tag}' is already registered"
  | .schema message => s!"schema error: {message}"
  | .executionMode expected actual =>
    s!"execution mode mismatch: expected {expected.name}, got {actual.name}"
  | .io message => s!"io error: {message}"
  | .serialization message => s!"serialization error: {message}"
  | .internal message => s!"internal error: {message}"

end Conform
