import Conform.Compile.Emit
import Conform.Rule.Descriptor
/-!
The rule registry: a finite map from rule tags to rule compilers, kept sorted by tag.
Registering a tag that is present fails and leaves the registry as it was; overriding always
installs the compiler and hands back the one it replaced. Resolving a schema expands a
shorthand and looks its tag up.
-/
namespace Conform

/-- A rule compiler: the requests that compile a node. -/
abbrev RuleCompiler := Descriptor → Emit Fragment

/-- Rule compilers by tag, sorted by tag with no tag twice. -/
structure Registry where
  rules : List (String × RuleCompiler) := []
  deriving Inhabited

namespace Registry

variable (r : Registry)

def get? (tag : String) : Option RuleCompiler := r.rules.lookup tag

def contains (tag : String) : Bool := (r.get? tag).isSome

def tags : List String := r.rules.map Prod.fst

def size : Nat := r.rules.length

def isEmpty : Bool := r.rules.isEmpty

/-- Installs a compiler under a tag, replacing any compiler there; returns the replaced one. -/
def override (tag : String) (c : RuleCompiler) : Option RuleCompiler × Registry :=
  (r.get? tag, ⟨Options.insert r.rules tag c⟩)

/-- Adds a compiler under a tag that is not yet registered. -/
def register (tag : String) (c : RuleCompiler) : Except Error Registry :=
  if r.contains tag then .error (.duplicateRule tag) else .ok (r.override tag c).2

/-- The descriptor of a schema at a label: a shorthand is expanded, a node taken as it is. -/
def normalize (s : Schema) (label : String) : Except Error Descriptor :=
  match s with
  | .shorthand text => do return ⟨← Shorthand.expand text, label⟩
  | .node rule options => .ok ⟨{ rule, options }, label⟩

/-- The descriptor of a schema and the compiler registered for its rule. -/
def resolve (s : Schema) (label : String) : Except Error (Descriptor × RuleCompiler) := do
  let d ← normalize s label
  match r.get? d.rule with
  | some c => .ok (d, c)
  | none => .error (.unknownRule d.rule label)

/-- The registry's debugging text, listing its tags. -/
def debugText : String :=
  "ZiRuleRegistry \x7b rules: [" ++ ", ".intercalate (r.tags.map Json.quoteVerbatim) ++ "] \x7d"

end Registry

end Conform
