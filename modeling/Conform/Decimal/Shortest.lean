/-!
Shortest decimal digits of a binary64 float. A finite float is `m · 2^e`; the reals that read
back as it form an interval around it, closed when `m` is even. Of the decimals with the fewest
significant digits in that interval, the one nearest the float is chosen (a tie goes to the
even digit string). All comparisons are exact `Nat` arithmetic on scaled values.
-/
namespace Conform.Decimal

/-- A finite float as sign, integer mantissa and binary exponent: the value is `± m · 2^e`. -/
structure Binary where
  negative : Bool
  mantissa : Nat
  exponent : Int
  /-- The float below lies half as far as the float above (the mantissa is a power of two). -/
  narrowBelow : Bool

/-- Splits a float's bits into sign, mantissa and exponent. -/
def Binary.ofFloat (x : Float) : Binary :=
  let bits := x.toBits.toNat
  let biased : Nat := (bits / Nat.pow 2 52) % 2048
  let fraction : Nat := bits % Nat.pow 2 52
  let negative := bits / Nat.pow 2 63 = 1
  if biased = 0 then ⟨negative, fraction, -1074, false⟩
  else ⟨negative, fraction + Nat.pow 2 52, (biased : Int) - 1075, fraction = 0 ∧ biased > 1⟩

/-- Significant digits and the position of the decimal point: the value is
`0.d₁d₂…dₙ × 10^point`, where `digits` is `d₁d₂…dₙ` read as a number without trailing zeros. -/
structure Digits where
  digits : Nat
  point : Int
  deriving Repr, DecidableEq

/-- `a · 2^x · 10^y` as a rational `num / den` with natural parts. -/
def scaled (a : Nat) (x y : Int) : Nat × Nat :=
  (a * Nat.pow 2 x.toNat * Nat.pow 10 y.toNat, Nat.pow 2 (-x).toNat * Nat.pow 10 (-y).toNat)

/-- Compares `a · 2^x · 10^y` with `b · 2^x' · 10^y'` exactly. -/
def compareScaled (a : Nat) (x y : Int) (b : Nat) (x' y' : Int) : Ordering :=
  let (n₁, d₁) := scaled a x y
  let (n₂, d₂) := scaled b x' y'
  compare (n₁ * d₂) (n₂ * d₁)

def digitCount (n : Nat) : Nat := (Nat.toDigits 10 n).length

/-- Removes trailing zeros of `d`, raising the exponent `t` of `d · 10^t` to match. -/
def trimZeros (d : Nat) (t : Int) : Nat × Int :=
  go d t (digitCount d)
where
  go (d : Nat) (t : Int) : Nat → Nat × Int
    | 0 => (d, t)
    | fuel + 1 => if d ≠ 0 ∧ d % 10 = 0 then go (d / 10) (t + 1) fuel else (d, t)

namespace Binary

variable (b : Binary)

/-- Whether `m · 2^e ≥ 10^j`. -/
def atLeastPow10 (j : Int) : Bool :=
  compareScaled b.mantissa b.exponent 0 1 0 j != .lt

/-- The point position `k` with `10^(k-1) ≤ m · 2^e < 10^k`, for a nonzero mantissa. -/
def point : Int :=
  let guess : Int := ((Nat.log2 b.mantissa : Int) + b.exponent) * 30103 / 100000 + 1
  fix guess 4
where
  fix (k : Int) : Nat → Int
    | 0 => k
    | fuel + 1 =>
      if b.atLeastPow10 k then fix (k + 1) fuel
      else if !b.atLeastPow10 (k - 1) then fix (k - 1) fuel
      else k

/-- Whether `d · 10^t` reads back as this float: it lies within half a gap of `m · 2^e`,
the ends counting when `m` is even. Quantities are taken in units of `2^(e-2)`. -/
def reads (d : Nat) (t : Int) : Bool :=
  let unit := b.exponent - 2
  let low := 4 * b.mantissa - (if b.narrowBelow then 1 else 2)
  let high := 4 * b.mantissa + 2
  let lowCmp := compareScaled d 0 t low unit 0
  let highCmp := compareScaled d 0 t high unit 0
  if b.mantissa % 2 = 0 then lowCmp != .lt && highCmp != .gt
  else lowCmp == .gt && highCmp == .lt

/-- The decimal of `n` significant digits that reads back, if one exists: of the two
neighbours of the float on the grid `10^(k-n)`, the one that reads back, or the nearer if both
do (a tie goes to the even one). -/
def candidate (n : Nat) : Option (Nat × Int) :=
  let t := b.point - n
  let (num, den) := scaled b.mantissa b.exponent (-t)
  let lo := num / den
  let hi := lo + 1
  match b.reads lo t, b.reads hi t with
  | true, true =>
    match compare (2 * num) ((2 * lo + 1) * den) with
    | .lt => some (lo, t)
    | .gt => some (hi, t)
    | .eq => some (if lo % 2 = 0 then lo else hi, t)
  | true, false => some (lo, t)
  | false, true => some (hi, t)
  | false, false => none

/-- The 17-digit decimal just below the float, which always reads back. -/
def floor17 : Nat × Int :=
  let t := b.point - 17
  let (num, den) := scaled b.mantissa b.exponent (-t)
  (num / den, t)

/-- The first digit count from `n` up to 17 that has a decimal reading back as the float. -/
def search (n : Nat) : Nat → Nat × Int
  | 0 => b.floor17
  | fuel + 1 =>
    match b.candidate n with
    | some r => r
    | none => search (n + 1) fuel

end Binary

/-- The shortest digits of a finite float's magnitude; zero has the single digit `0` before a
point at position 1. -/
def shortest (x : Float) : Digits :=
  let b := Binary.ofFloat x
  if b.mantissa = 0 then ⟨0, 1⟩
  else
    let (d, t) := b.search 1 17
    let (d', t') := trimZeros d t
    ⟨d', t' + digitCount d'⟩

def isNegative (x : Float) : Bool := (Binary.ofFloat x).negative

end Conform.Decimal
