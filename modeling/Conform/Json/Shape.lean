import Conform.Json.Print
import Conform.Text.Printable
/-!
Words for a value of the wrong shape, as typed readers report it: "invalid type: integer
`5`, expected a string". A string is shown quoted: quotes, backslashes and the common control
characters get backslash escapes, and any other character that is not shown as itself (see
`Text.isPrintable`) or that extends the one before it is written `\u{hex}`.
-/
namespace Conform.Json

/-- Hexadecimal digits of `n`, lowercase, without leading zeros. -/
def hexText (n : Nat) : String :=
  String.ofList (Nat.toDigits 16 n)

/-- One character of a quoted string shown verbatim: quotes, backslashes and the common
control characters are escaped by letter, other characters that are not shown by code point. -/
def escapeVerbatim (c : Char) : String :=
  match c with
  | '"' => "\\\""
  | '\\' => "\\\\"
  | '\n' => "\\n"
  | '\t' => "\\t"
  | '\r' => "\\r"
  | '\x00' => "\\0"
  | c =>
    if Text.isGraphemeExtended c || !Text.isPrintable c then
      "\\u" ++ "\x7b" ++ hexText c.toNat ++ "\x7d"
    else c.toString

def quoteVerbatim (s : String) : String :=
  "\"" ++ String.join (s.toList.map escapeVerbatim) ++ "\""

/-- How a value is named when it has the wrong shape. -/
def shapeText : Json → String
  | .null => "null"
  | .bool b => s!"boolean `{b}`"
  | .num (.int i) => s!"integer `{i}`"
  | .num (.float x) => s!"floating point `{floatText x}`"
  | .str s => "string " ++ quoteVerbatim s
  | .arr _ => "sequence"
  | .obj _ => "map"

/-- The complaint about a value of the wrong shape where `expected` was wanted. -/
def invalidType (found expected : String) : String :=
  s!"invalid type: {found}, expected {expected}"

end Conform.Json
