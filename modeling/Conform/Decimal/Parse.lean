/-!
Reading decimal text as a float, rounded to nearest. The text is an optional sign, then
`inf`, `infinity` or `nan` in any case, or digits with at most one point and at least one
digit, followed by an optional exponent: `e` or `E`, an optional sign and at least one digit.
Nothing else may stand in the text, blanks included.
-/
namespace Conform.Decimal

def isDigitChar (c : Char) : Bool := '0' ≤ c ∧ c ≤ '9'

def spanDigits (cs : List Char) : List Char × List Char :=
  (cs.takeWhile isDigitChar, cs.dropWhile isDigitChar)

def digitsValue (ds : List Char) : Nat :=
  ds.foldl (fun acc c => acc * 10 + (c.toNat - 48)) 0

/-- `m · 10^e` as the nearest float; values far beyond the float range are decided without
computing them. -/
def ofDigits (m : Nat) (e : Int) : Float :=
  if m = 0 then 0
  else
    let size : Int := (Nat.toDigits 10 m).length
    if size + e > 310 then Float.ofScientific 1 false 400
    else if size + e < -330 then 0
    else if e < 0 then Float.ofScientific m true e.natAbs
    else Float.ofScientific m false e.natAbs

/-- An optional exponent: none for a malformed one, `some 0` when there is none. -/
def exponent? : List Char → Option Int
  | [] => some 0
  | c :: rest =>
    if c = 'e' ∨ c = 'E' then
      let (neg, digits) := match rest with
        | '-' :: ds => (true, ds)
        | '+' :: ds => (false, ds)
        | ds => (false, ds)
      if digits.isEmpty ∨ !digits.all isDigitChar then none
      else
        let v : Int := digitsValue digits
        some (if neg then -v else v)
    else none

/-- The magnitude a text without sign stands for. -/
def magnitude? (cs : List Char) : Option Float :=
  let lower := String.ofList (cs.map Char.toLower)
  if lower = "inf" ∨ lower = "infinity" then some (Float.ofScientific 1 false 400)
  else if lower = "nan" then some (0 / 0)
  else
    let (whole, rest) := spanDigits cs
    let (frac, rest) := match rest with
      | '.' :: more => spanDigits more
      | _ => ([], rest)
    let hasPoint := match cs.dropWhile isDigitChar with
      | '.' :: _ => true
      | _ => false
    if whole.isEmpty ∧ frac.isEmpty then none
    else if !hasPoint ∧ !frac.isEmpty then none
    else
      (exponent? rest).map fun e =>
        ofDigits (digitsValue (whole ++ frac)) (e - frac.length)

/-- The fractional part of a float, with the sign of the float. -/
def fract (x : Float) : Float := x - (if x ≥ 0 then x.floor else x.ceil)

def isFinite (x : Float) : Bool := !(x.isNaN || x.isInf)

/-- The integer nearest below the magnitude of an integral float, with its sign. -/
def integralValue (x : Float) : Int :=
  let n : Int := x.abs.toUInt64.toNat
  if x < 0 then -n else n

/-- Reads a decimal integer text, with an optional plus sign, as an unsigned 64-bit integer. -/
def readNat64? (s : String) : Option Nat :=
  let digits := match s.toList with
    | '+' :: ds => ds
    | ds => ds
  if digits.isEmpty ∨ !digits.all isDigitChar then none
  else
    let v := digitsValue digits
    if v < Nat.pow 2 64 then some v else none

/-- Reads a decimal integer text, with an optional sign, as a signed 64-bit integer. -/
def readInt64? (s : String) : Option Int :=
  let (neg, digits) := match s.toList with
    | '-' :: ds => (true, ds)
    | '+' :: ds => (false, ds)
    | ds => (false, ds)
  if digits.isEmpty ∨ !digits.all isDigitChar then none
  else
    let v : Int := digitsValue digits
    let v := if neg then -v else v
    if -9223372036854775808 ≤ v ∧ v < 9223372036854775808 then some v else none

/-- The integer a float converts to with saturation: truncated toward zero, NaN as zero, and
values beyond the signed 64-bit range as its nearest end. -/
def saturatingInt64 (x : Float) : Int :=
  if x.isNaN then 0
  else if x ≥ 9223372036854775807 then 9223372036854775807
  else if x ≤ -9223372036854775808 then -9223372036854775808
  else
    let n : Int := x.abs.toUInt64.toNat
    if x < 0 then -n else n

/-- Reads a decimal text as a float. -/
def readFloat? (s : String) : Option Float :=
  match s.toList with
  | '-' :: rest => (magnitude? rest).map (fun x => -x)
  | '+' :: rest => magnitude? rest
  | cs => magnitude? cs

end Conform.Decimal
