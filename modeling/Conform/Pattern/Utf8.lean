/-!
UTF-8 for the byte automata a pattern compiles to. A range of code points becomes a list of
byte-range sequences: each sequence is one byte range per position of the encoding, and the
byte strings the sequences spell are exactly the encodings of the code points in the range, in
increasing order. The range is cut at the surrogate gap, at the boundaries between encoding
widths, and then at multiples of 64, 4096 and 262144 until every piece varies freely in its
trailing bytes.
-/
namespace Conform.Pattern

/-- The UTF-8 bytes of a code point. -/
def utf8Bytes (c : Nat) : List Nat :=
  if c < 0x80 then [c]
  else if c < 0x800 then [0xC0 + c / 64, 0x80 + c % 64]
  else if c < 0x10000 then [0xE0 + c / 4096, 0x80 + c / 64 % 64, 0x80 + c % 64]
  else [0xF0 + c / 262144, 0x80 + c / 4096 % 64, 0x80 + c / 64 % 64, 0x80 + c % 64]

/-- The code point that UTF-8 bytes spell, when they are the encoding of exactly one. -/
def utf8Single? (bytes : List Nat) : Option Nat :=
  let c? : Option Nat := match bytes with
    | [a] => if a < 0x80 then some a else none
    | [a, b] => some ((a - 0xC0) * 64 + (b - 0x80))
    | [a, b, c] => some ((a - 0xE0) * 4096 + (b - 0x80) * 64 + (c - 0x80))
    | [a, b, c, d] => some ((a - 0xF0) * 262144 + (b - 0x80) * 4096 + (c - 0x80) * 64 + (d - 0x80))
    | _ => none
  c?.bind fun c => if utf8Bytes c == bytes then some c else none

/-- The last code point whose encoding takes `n` bytes, for `n` from one to three. -/
def lastOfWidth (n : Nat) : Nat :=
  match n with
  | 1 => 0x7F
  | 2 => 0x7FF
  | _ => 0xFFFF

/-- The first cut of a range at a change of encoding width, as its two sides. -/
def widthCut? (s e : Nat) : Option ((Nat × Nat) × (Nat × Nat)) :=
  [1, 2, 3].findSome? fun n =>
    let m := lastOfWidth n
    if s ≤ m ∧ m < e then some ((s, m), (m + 1, e)) else none

/-- The first cut of a range at a multiple of `64 ^ n` that keeps the range from varying
freely in its last `n` bytes, as its two sides. -/
def blockCut? (s e : Nat) : Option ((Nat × Nat) × (Nat × Nat)) :=
  [1, 2, 3].findSome? fun n =>
    let m := Nat.pow 64 n
    if s / m = e / m then none
    else if s % m ≠ 0 then some ((s, s - s % m + m - 1), (s - s % m + m, e))
    else if e % m ≠ m - 1 then some ((s, e - e % m - 1), (e - e % m, e))
    else none

/-- Works through a stack of code point ranges, giving the byte-range sequences in order. -/
def byteRunsGo : Nat → List (Nat × Nat) → List (List (Nat × Nat))
  | 0, _ => []
  | _, [] => []
  | fuel + 1, (s, e) :: stack =>
    if s < 0xE000 ∧ 0xD7FF < e then byteRunsGo fuel ((s, 0xD7FF) :: (0xE000, e) :: stack)
    else if e < s then byteRunsGo fuel stack
    else match widthCut? s e with
      | some (r1, r2) => byteRunsGo fuel (r1 :: r2 :: stack)
      | none =>
        if e ≤ 0x7F then [(s, e)] :: byteRunsGo fuel stack
        else match blockCut? s e with
          | some (r1, r2) => byteRunsGo fuel (r1 :: r2 :: stack)
          | none => ((utf8Bytes s).zip (utf8Bytes e)) :: byteRunsGo fuel stack

/-- The byte-range sequences of a range of code points; no range needs more than a few dozen
steps. -/
def byteRuns (s e : Nat) : List (List (Nat × Nat)) := byteRunsGo 64 [(s, e)]

end Conform.Pattern
