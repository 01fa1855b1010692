import Conform.Json.Basic
import Conform.Decimal.Shortest
/-!
Compact JSON text: no blanks, members in their order, strings quoted with the short escapes
and `\u00xx` for the other control characters, and floats in their shortest digits.

A float is written positionally when its point position `k` (the value is `0.d₁…dₙ × 10^k`)
satisfies `-5 < k ≤ 16`, an integral value then ending in `.0`; otherwise it is written with
one leading digit and a signed exponent, as in `1e+16`, `1.5e-7`.
-/
namespace Conform

namespace Decimal

def digitChars (d : Nat) : List Char := Nat.toDigits 10 d

def zeros (n : Nat) : List Char := List.replicate n '0'

/-- Positional text of `0.d₁…dₙ × 10^k`; `pointZero` adds `.0` to an integral value. -/
def positional (ds : List Char) (k : Int) (pointZero : Bool) : List Char :=
  if k ≤ 0 then '0' :: '.' :: (zeros k.natAbs ++ ds)
  else if k.toNat < ds.length then ds.take k.toNat ++ '.' :: ds.drop k.toNat
  else ds ++ zeros (k.toNat - ds.length) ++ (if pointZero then ['.', '0'] else [])

/-- Scientific text of `0.d₁…dₙ × 10^k`: `d₁.d₂…dₙe±(k-1)`, the plus sign written when
`plusSign` holds. -/
def scientific (ds : List Char) (k : Int) (plusSign : Bool) : List Char :=
  let lead := match ds with
    | [] => ['0']
    | [d] => [d]
    | d :: rest => d :: '.' :: rest
  let e := k - 1
  let sign := if e < 0 then ['-'] else if plusSign then ['+'] else []
  lead ++ 'e' :: sign ++ digitChars e.natAbs

end Decimal

/-- JSON text of a float. A value that is not finite has no JSON form and is written `null`. -/
def floatText (x : Float) : String :=
  if x.isNaN || x.isInf then "null"
  else
    let d := Decimal.shortest x
    let ds := Decimal.digitChars d.digits
    let body :=
      if -5 < d.point ∧ d.point ≤ 16 then Decimal.positional ds d.point true
      else Decimal.scientific ds d.point true
    String.ofList ((if Decimal.isNegative x then ['-'] else []) ++ body)

def hexDigit (n : Nat) : Char :=
  if n < 10 then Char.ofNat (48 + n) else Char.ofNat (87 + n)

/-- The escaped form of one character inside a JSON string. -/
def escapeChar (c : Char) : List Char :=
  match c with
  | '"' => ['\\', '"']
  | '\\' => ['\\', '\\']
  | '\n' => ['\\', 'n']
  | '\t' => ['\\', 't']
  | '\r' => ['\\', 'r']
  | '\x08' => ['\\', 'b']
  | '\x0c' => ['\\', 'f']
  | c =>
    if c.toNat < 32 then ['\\', 'u', '0', '0', hexDigit (c.toNat / 16), hexDigit (c.toNat % 16)]
    else [c]

def quote (s : String) : String :=
  String.ofList ('"' :: (s.toList.flatMap escapeChar ++ ['"']))

namespace Number

/-- JSON text of a number. -/
def text : Number → String
  | .int i => toString i
  | .float x => floatText x

end Number

namespace Json

mutual
/-- Compact JSON text of a value. -/
def compact : Json → String
  | .null => "null"
  | .bool true => "true"
  | .bool false => "false"
  | .num n => n.text
  | .str s => quote s
  | .arr items => "[" ++ compactItems items ++ "]"
  | .obj members => "\x7b" ++ compactMembers members ++ "\x7d"

def compactItems : List Json → String
  | [] => ""
  | [v] => compact v
  | v :: rest => compact v ++ "," ++ compactItems rest

def compactMembers : List (String × Json) → String
  | [] => ""
  | [(k, v)] => quote k ++ ":" ++ compact v
  | (k, v) :: rest => quote k ++ ":" ++ compact v ++ "," ++ compactMembers rest
end

end Json

end Conform
