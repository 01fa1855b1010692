import Conform.Pattern.Basic
/-!
Character sets as lists of code point ranges, the form the engine keeps a class in: sorted,
disjoint, never touching, and without the surrogate code points, which are not characters.
The set operations of bracketed classes work on these lists directly, and folding case closes
a list under simple case folding (with Unicode off, under ASCII case), so the list of a set
holds the characters `CharSet.contains` accepts.
-/
namespace Conform.Pattern

namespace Ranges

/-- Sorted ranges that neither overlap nor touch, from ranges in any order. -/
def tidy (rs : List (Nat × Nat)) : List (Nat × Nat) :=
  Text.RangeSet.coalesce (rs.mergeSort fun x y => decide (x.1 ≤ y.1))

/-- The ranges cut off above `top`. -/
def clip (top : Nat) (rs : List (Nat × Nat)) : List (Nat × Nat) :=
  rs.filterMap fun (a, b) => if a ≤ top then some (a, Nat.min b top) else none

/-- The code points up to `top` that none of the tidy ranges holds. -/
def complementTo (top : Nat) (rs : List (Nat × Nat)) : List (Nat × Nat) :=
  clip top (Text.RangeSet.gaps rs 0)

def union (a b : List (Nat × Nat)) : List (Nat × Nat) := tidy (a ++ b)

def inter (a b : List (Nat × Nat)) : List (Nat × Nat) :=
  complementTo Text.RangeSet.maxCode
    (union (complementTo Text.RangeSet.maxCode a) (complementTo Text.RangeSet.maxCode b))

def diff (a b : List (Nat × Nat)) : List (Nat × Nat) :=
  inter a (complementTo Text.RangeSet.maxCode b)

def symm (a b : List (Nat × Nat)) : List (Nat × Nat) := union (diff a b) (diff b a)

def contains (rs : List (Nat × Nat)) (c : Nat) : Bool := (Text.RangeSet.mk rs.toArray).contains c

/-- Each code point that simple case folding moves, with the code point it moves to. -/
def foldPairs : List (Nat × Nat) :=
  Text.foldRuns.runs.toList.flatMap fun r =>
    (List.range ((r.last - r.first) / r.step + 1)).map fun i =>
      let c := r.first + i * r.step
      (c, ((c : Int) + r.delta).toNat)

/-- The tidy list closed under simple case folding: a code point joins when one that folds to
the same code point is in the list. -/
def foldUnicode (rs : List (Nat × Nat)) : List (Nat × Nat) :=
  let targets := tidy (foldPairs.filterMap fun (c, t) =>
    if contains rs c || contains rs t then some (t, t) else none)
  let joined := foldPairs.flatMap fun (c, t) =>
    if contains targets t then [(c, c), (t, t)] else []
  tidy (rs ++ joined)

/-- The tidy list closed under ASCII case. -/
def foldAscii (rs : List (Nat × Nat)) : List (Nat × Nat) :=
  let upper := (inter rs [(65, 90)]).map fun (a, b) => (a + 32, b + 32)
  let lower := (inter rs [(97, 122)]).map fun (a, b) => (a - 32, b - 32)
  tidy (rs ++ upper ++ lower)

end Ranges

/-- The ranges of a Perl class, read over all of Unicode or over ASCII only. -/
def Perl.ranges (k : Perl) (unicode : Bool) : List (Nat × Nat) :=
  match k, unicode with
  | .digit, true => Text.digitSet.ranges.toList
  | .space, true => Text.blankRanges
  | .word, true => Text.wordSet.ranges.toList
  | .digit, false => Posix.digit.ranges
  | .space, false => Posix.space.ranges
  | .word, false => Posix.word.ranges

/-- The tidy ranges of a set, surrogate code points included where a complement reaches
them. -/
def CharSet.spans : CharSet → List (Nat × Nat)
  | .none => []
  | .single c => [(c.toNat, c.toNat)]
  | .range lo hi => if lo ≤ hi then [(lo.toNat, hi.toNat)] else []
  | .perl k u => Ranges.tidy (k.ranges u)
  | .posix k => k.ranges
  | .anyExcept xs =>
    Ranges.complementTo Text.RangeSet.maxCode (Ranges.tidy (xs.map fun c => (c.toNat, c.toNat)))
  | .table r => Ranges.tidy r.ranges.toList
  | .union a b => Ranges.union a.spans b.spans
  | .inter a b => Ranges.inter a.spans b.spans
  | .diff a b => Ranges.diff a.spans b.spans
  | .symm a b => Ranges.symm a.spans b.spans
  | .neg a u => Ranges.complementTo (if u then Text.RangeSet.maxCode else 255) a.spans
  | .fold a true => Ranges.foldUnicode a.spans
  | .fold a false => Ranges.foldAscii a.spans

def CharSet.ranges (s : CharSet) : List (Nat × Nat) := Ranges.diff s.spans [(0xD800, 0xDFFF)]

end Conform.Pattern
