import Conform.Error
import Conform.Json.Read
import Conform.Text.Blank
import Conform.Schema.Basic
/-!
Shorthand schemas. A shorthand is `tag|part|part…`: the text is split at every `|` and each
piece trimmed of blanks. The first piece is the rule tag and must not be empty; the others,
empty ones skipped, set options in order. A piece `key:value` splits at its first `:` and
sets the trimmed key to the trimmed value read as a JSON scalar (a boolean, a number or null),
or else to the trimmed value as a string; a piece without `:` sets itself to `true`.
-/
namespace Conform

namespace Shorthand

/-- Splits a character list at every occurrence of `sep`. -/
def splitChars (sep : Char) : List Char → List (List Char)
  | [] => [[]]
  | c :: cs =>
    if c = sep then [] :: splitChars sep cs
    else match splitChars sep cs with
      | [] => [[c]]
      | p :: ps => (c :: p) :: ps

/-- Splits a character list at the first `sep`, if there is one. -/
def splitFirst (sep : Char) : List Char → Option (List Char × List Char)
  | [] => none
  | c :: cs =>
    if c = sep then some ([], cs)
    else (splitFirst sep cs).map fun (a, b) => (c :: a, b)

/-- The value a shorthand option text stands for: a JSON boolean, number or null if the text
reads as one, otherwise the text itself. -/
def scalar (raw : String) : Json :=
  match Json.parse raw with
  | .ok (.bool b) => .bool b
  | .ok (.num n) => .num n
  | .ok .null => .null
  | _ => .str raw

/-- Sets the option a trimmed, nonempty piece stands for. -/
def setPiece (n : Node) (piece : List Char) : Node :=
  match splitFirst ':' piece with
  | some (key, raw) =>
    n.set (String.ofList (Text.trimChars key)) (.value (scalar (String.ofList (Text.trimChars raw))))
  | none => n.set (String.ofList piece) (.value (.bool true))

/-- The node a shorthand stands for. -/
def expand (text : String) : Except Error Node :=
  match (splitChars '|' text.toList).map Text.trimChars with
  | [] => .error (.schema s!"shorthand '{text}' has no rule tag")
  | tag :: pieces =>
    if tag.isEmpty then .error (.schema s!"shorthand '{text}' has no rule tag")
    else .ok ((pieces.filter (fun p => !p.isEmpty)).foldl setPiece (Node.ofRule (String.ofList tag)))

end Shorthand

end Conform
