import Conform.Json.Print
import Conform.Text.Basic
/-!
Message templates. Each error kind may have a template with the placeholders `{field}`,
`{actual}` and `{expected}`. Rendering fills them one after another: first every `{field}`,
then, in the text so far, every `{actual}`, then every `{expected}`. A string value fills in its
raw text, any other value its compact JSON, an absent one nothing.
-/
namespace Conform

/-- A catalogue of message templates by error kind. -/
structure Messages where
  templates : List (String × String)

namespace Messages

/-- The built-in templates. -/
def defaults : Messages where
  templates := [
    ("required", "The '{field}' field is required."),
    ("string", "The '{field}' field must be a string."),
    ("stringEmpty", "The '{field}' field must not be empty."),
    ("stringMin",
      "The '{field}' field length must be greater than or equal to {expected} characters long."),
    ("stringMax",
      "The '{field}' field length must be less than or equal to {expected} characters long."),
    ("stringLength", "The '{field}' field length must be {expected} characters long."),
    ("stringPattern", "The '{field}' field fails to match the required pattern."),
    ("number", "The '{field}' field must be a number."),
    ("numberMin", "The '{field}' field must be greater than or equal to {expected}."),
    ("numberMax", "The '{field}' field must be less than or equal to {expected}."),
    ("numberEqual", "The '{field}' field must be equal to {expected}."),
    ("numberNotEqual", "The '{field}' field can't be equal to {expected}."),
    ("numberInteger", "The '{field}' field must be an integer."),
    ("numberPositive", "The '{field}' field must be a positive number."),
    ("numberNegative", "The '{field}' field must be a negative number."),
    ("boolean", "The '{field}' field must be a boolean."),
    ("object", "The '{field}' must be an Object."),
    ("objectStrict", "The object '{field}' contains forbidden keys: '{actual}'."),
    ("array", "The '{field}' field must be an array."),
    ("arrayEmpty", "The '{field}' field must not be an empty array."),
    ("arrayMin", "The '{field}' field must contain at least {expected} items."),
    ("arrayMax", "The '{field}' field must contain less than or equal to {expected} items."),
    ("arrayLength", "The '{field}' field must contain {expected} items.")]

instance : Inhabited Messages := ⟨defaults⟩

/-- Sets the template of a kind. -/
def set (m : Messages) (kind template : String) : Messages :=
  ⟨Members.insert m.templates kind template⟩

def get? (m : Messages) (kind : String) : Option String :=
  m.templates.lookup kind

/-- How a value fills a placeholder: a string by its text, another value by its JSON. -/
def display : Option Json → String
  | none => ""
  | some (.str s) => s
  | some v => v.compact

/-- The message for a kind at a field: the kind's template with `{field}`, then `{actual}`,
then `{expected}` filled in; none when the kind has no template. -/
def render (m : Messages) (kind field : String) (actual expected : Option Json) :
    Option String :=
  (m.get? kind).map fun template =>
    let withField := Text.replaceAll template "{field}" field
    let withActual := Text.replaceAll withField "{actual}" (display actual)
    Text.replaceAll withActual "{expected}" (display expected)

end Messages

end Conform
