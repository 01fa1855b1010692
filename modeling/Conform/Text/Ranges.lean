/-!
Tables of Unicode data, written compactly in hexadecimal and read once. A range set is a sorted
list of disjoint inclusive ranges, written `A` or `A.B`, looked up by halving. A shift map is a
sorted list of runs `A.B+D` (or `A.B_D` for a negative shift): the code points from `A` to `B`
map to themselves plus `D`; a run marked `/2` covers every second code point from `A`.
-/
namespace Conform.Text

def hexValue (c : Char) : Nat :=
  if '0' ≤ c ∧ c ≤ '9' then c.toNat - 48
  else if 'A' ≤ c ∧ c ≤ 'F' then c.toNat - 55
  else 0

/-- The number that hexadecimal digits spell. -/
def readHex (s : String) : Nat := s.toList.foldl (fun acc c => acc * 16 + hexValue c) 0

def words (s : String) : List String := (s.splitOn " ").filter (· ≠ "")

/-- A set of code points as sorted, disjoint, inclusive ranges. -/
structure RangeSet where
  ranges : Array (Nat × Nat)

namespace RangeSet

/-- Reads a range set from its text. -/
def ofText (s : String) : RangeSet :=
  ⟨(words s).toArray.map fun w =>
    match w.splitOn "." with
    | [a, b] => (readHex a, readHex b)
    | _ => (readHex w, readHex w)⟩

/-- Whether a code point lies in one of the ranges from index `lo` up to `hi`. -/
def containsIn (r : RangeSet) (c lo hi : Nat) : Bool :=
  if _h : lo < hi then
    let mid := (lo + hi) / 2
    match r.ranges[mid]? with
    | some (a, b) =>
      if c < a then r.containsIn c lo mid
      else if b < c then r.containsIn c (mid + 1) hi
      else true
    | none => false
  else false
termination_by hi - lo

def contains (r : RangeSet) (c : Nat) : Bool := r.containsIn c 0 r.ranges.size

def maxCode : Nat := 0x10FFFF

/-- Joins a range with the sorted ranges after it that overlap or touch it, and so on. -/
def coalesceFrom : Nat × Nat → List (Nat × Nat) → List (Nat × Nat)
  | r, [] => [r]
  | (a, b), (c, d) :: rest =>
    if c ≤ b + 1 then coalesceFrom (a, Nat.max b d) rest else (a, b) :: coalesceFrom (c, d) rest

/-- Joins sorted ranges that overlap or touch. -/
def coalesce : List (Nat × Nat) → List (Nat × Nat)
  | [] => []
  | r :: rs => coalesceFrom r rs

def unionAll (sets : List RangeSet) : RangeSet :=
  let all := (sets.map fun r => r.ranges.toList).flatten
  ⟨(coalesce (all.mergeSort fun x y => decide (x.1 ≤ y.1))).toArray⟩

/-- The gaps between sorted disjoint ranges, from a code point on. -/
def gaps : List (Nat × Nat) → Nat → List (Nat × Nat)
  | [], start => if start ≤ maxCode then [(start, maxCode)] else []
  | (a, b) :: rest, start => (if start < a then [(start, a - 1)] else []) ++ gaps rest (b + 1)

def complement (r : RangeSet) : RangeSet := ⟨(gaps r.ranges.toList 0).toArray⟩

end RangeSet

/-- A run of a shift map. -/
structure ShiftRun where
  first : Nat
  last : Nat
  delta : Int
  step : Nat

namespace ShiftRun

def ofText (w : String) : ShiftRun :=
  let (body, step) := match w.splitOn "/" with
    | [b, _] => (b, 2)
    | _ => (w, 1)
  let (span, delta) := match body.splitOn "+" with
    | [a, d] => (a, (readHex d : Int))
    | _ => match body.splitOn "_" with
      | [a, d] => (a, -(readHex d : Int))
      | _ => (body, 0)
  match span.splitOn "." with
  | [a, b] => ⟨readHex a, readHex b, delta, step⟩
  | _ => ⟨readHex span, readHex span, delta, step⟩

/-- The image of a code point under the run, if the run covers it. -/
def image? (r : ShiftRun) (c : Nat) : Option Nat :=
  if r.first ≤ c ∧ c ≤ r.last ∧ (c - r.first) % r.step = 0 then some (c + r.delta).toNat
  else none

end ShiftRun

/-- A code point map as sorted, disjoint runs. -/
structure ShiftMap where
  runs : Array ShiftRun

namespace ShiftMap

def ofText (s : String) : ShiftMap := ⟨(words s).toArray.map ShiftRun.ofText⟩

/-- The image of a code point under the runs from index `lo` up to `hi`. -/
def findIn (m : ShiftMap) (c lo hi : Nat) : Option Nat :=
  if _h : lo < hi then
    let mid := (lo + hi) / 2
    match m.runs[mid]? with
    | some r =>
      if c < r.first then m.findIn c lo mid
      else if r.last < c then m.findIn c (mid + 1) hi
      else r.image? c
    | none => none
  else none
termination_by hi - lo

def image? (m : ShiftMap) (c : Nat) : Option Nat := m.findIn c 0 m.runs.size

/-- Every code point that the map sends to `t`. -/
def preimage (m : ShiftMap) (t : Nat) : List Nat :=
  m.runs.toList.filterMap fun r =>
    let c := ((t : Int) - r.delta).toNat
    if (t : Int) - r.delta ≥ 0 ∧ r.image? c = some t then some c else none

end ShiftMap

/-- The text of the entry `name: …;` in a table of named entries. -/
def lookupEntry (table name : String) : Option String :=
  ((table.splitOn ";").map fun e => e.splitOn ":").findSome? fun
    | [k, v] => if String.ofList (k.toList.filter (· != ' ')) = name then some v else none
    | _ => none

/-- Reads entries `A=B.C…`: a code point and the code points it maps to. -/
def readSpecial (s : String) : List (Nat × List Nat) :=
  (words s).map fun w =>
    match w.splitOn "=" with
    | [a, bs] => (readHex a, (bs.splitOn ".").map readHex)
    | _ => (readHex w, [])

end Conform.Text
