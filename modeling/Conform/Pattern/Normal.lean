import Conform.Pattern.Class
import Conform.Pattern.Utf8
/-!
The simplified form a pattern is compiled from. Literals are strings of UTF-8 bytes and classes
are tidy ranges; a class of one character is a literal, and a class of none is the class that
never matches. The engine simplifies while it builds this form, and the smart constructors here
do the same: a sequence splices in inner sequences, drops empty items and joins adjacent
literals; an alternative splices in inner alternatives, merges alternatives that are all
single characters or all classes into one class, and pulls a common start out of alternatives
that are all sequences; a repetition of something that only matches the empty text repeats at
most once. Groups that do not capture leave no trace, but they still decide which alternatives
belong together.
-/
namespace Conform.Pattern

/-- A pattern in simplified form. -/
inductive Normal where
  | empty
  | literal (bytes : List Nat)
  | cls (ranges : List (Nat × Nat))
  | look (l : Look)
  | rep (a : Normal) (min : Nat) (max : Option Nat) (greedy : Bool)
  | capture (index : Nat) (a : Normal)
  | concat (items : List Normal)
  | alt (branches : List Normal)
  deriving BEq, Inhabited

namespace Normal

mutual
/-- The fewest bytes a match takes; none when nothing can match. -/
def minLen : Normal → Option Nat
  | .empty => some 0
  | .literal bs => some bs.length
  | .cls [] => none
  | .cls ((lo, _) :: _) => some (utf8Bytes lo).length
  | .look _ => some 0
  | .rep a min _ _ => (minLen a).map (· * min)
  | .capture _ a => minLen a
  | .concat xs => minLenSeq xs
  | .alt xs => minLenAlt xs

def minLenSeq : List Normal → Option Nat
  | [] => some 0
  | x :: xs =>
    match minLen x, minLenSeq xs with
    | some a, some b => some (a + b)
    | _, _ => none

def minLenAlt : List Normal → Option Nat
  | [] => none
  | [x] => minLen x
  | x :: xs =>
    match minLen x, minLenAlt xs with
    | some a, some b => some (Nat.min a b)
    | _, _ => none
end

mutual
/-- The most bytes a match takes; none when there is no bound or nothing can match. -/
def maxLen : Normal → Option Nat
  | .empty => some 0
  | .literal bs => some bs.length
  | .cls rs => rs.getLast?.map fun (_, hi) => (utf8Bytes hi).length
  | .look _ => some 0
  | .rep a _ max _ => max.bind fun m => (maxLen a).map (· * m)
  | .capture _ a => maxLen a
  | .concat xs => maxLenSeq xs
  | .alt xs => maxLenAlt xs

def maxLenSeq : List Normal → Option Nat
  | [] => some 0
  | x :: xs =>
    match maxLen x, maxLenSeq xs with
    | some a, some b => some (a + b)
    | _, _ => none

def maxLenAlt : List Normal → Option Nat
  | [] => none
  | [x] => maxLen x
  | x :: xs =>
    match maxLen x, maxLenAlt xs with
    | some a, some b => some (Nat.max a b)
    | _, _ => none
end

mutual
/-- Whether every match must start at the start of the text. -/
def beginsAtStart : Normal → Bool
  | .look l => l == .start
  | .rep a min _ _ => min > 0 && beginsAtStart a
  | .capture _ a => beginsAtStart a
  | .concat xs => beginsAtStartSeq xs
  | .alt xs => beginsAtStartAlt xs
  | _ => false

/-- Whether a sequence must start at the start of the text: one of its items must, among the
first ones up to the first that can take a byte. -/
def beginsAtStartSeq : List Normal → Bool
  | [] => false
  | x :: xs => beginsAtStart x || (maxLen x == some 0 && beginsAtStartSeq xs)

def beginsAtStartAlt : List Normal → Bool
  | [] => false
  | [x] => beginsAtStart x
  | x :: xs => beginsAtStart x && beginsAtStartAlt xs
end

mutual
/-- Whether every match must end at the end of the text. -/
def endsAtFinish : Normal → Bool
  | .look l => l == .finish
  | .rep a min _ _ => min > 0 && endsAtFinish a
  | .capture _ a => endsAtFinish a
  | .concat xs => endsAtFinishSeq xs
  | .alt xs => endsAtFinishAlt xs
  | _ => false

/-- Whether a sequence must end at the end of the text: one of its items must, among the last
ones down to the last that can take a byte. -/
def endsAtFinishSeq : List Normal → Bool
  | [] => false
  | x :: xs => endsAtFinishSeq xs || (xs.all (maxLen · == some 0) && endsAtFinish x)

def endsAtFinishAlt : List Normal → Bool
  | [] => false
  | [x] => endsAtFinish x
  | x :: xs => endsAtFinish x && endsAtFinishAlt xs
end

/-- The form of a set of code points: a set of one character is a literal. -/
def ofRanges (rs : List (Nat × Nat)) : Normal :=
  match rs with
  | [(a, b)] => if a = b then .literal (utf8Bytes a) else .cls rs
  | _ => .cls rs

/-- Joins adjacent literals of a list of items, `acc` holding the bytes of the literal being
joined. -/
def joinLiterals (acc : List Nat) : List Normal → List Normal
  | [] => if acc.isEmpty then [] else [.literal acc]
  | .literal bs :: rest => joinLiterals (acc ++ bs) rest
  | x :: rest => (if acc.isEmpty then [] else [.literal acc]) ++ x :: joinLiterals [] rest

/-- A sequence of items: inner sequences are spliced in, empty items dropped and adjacent
literals joined; no item left is the empty pattern, and one item stands for itself. -/
def seqOf (xs : List Normal) : Normal :=
  let items := xs.flatMap fun
    | .concat ys => ys
    | .empty => []
    | x => [x]
  match joinLiterals [] items with
  | [] => .empty
  | [x] => x
  | ys => .concat ys

/-- The characters of alternatives that are all literals of one character. -/
def singleChars? (xs : List Normal) : Option (List Nat) :=
  xs.mapM fun (x : Normal) => match x with
    | .literal bs => utf8Single? bs
    | _ => none

/-- The code points of alternatives that are all classes. -/
def classUnion? (xs : List Normal) : Option (List (Nat × Nat)) :=
  (xs.mapM fun (x : Normal) => match x with
    | .cls rs => some rs
    | _ => none).map fun (rss : List (List (Nat × Nat))) => Ranges.tidy rss.flatten

/-- The items of alternatives that are all sequences. -/
def seqItems? (xs : List Normal) : Option (List (List Normal)) :=
  xs.mapM fun (x : Normal) => match x with
    | .concat ys => some ys
    | _ => none

/-- The longest list of items that all the lists start with. -/
def commonStart : List (List Normal) → List Normal
  | [] => []
  | y :: ys => ys.foldl (fun p z => ((p.zip z).takeWhile fun (a, b) => a == b).map (·.1)) y

/-- Alternatives: inner alternatives are spliced in; none left never matches and one stands for
itself; single characters or classes merge into a class; sequences with a common start share
it, the rest becoming alternatives after it. `fuel` bounds how often a start is shared. -/
def altOf (fuel : Nat) (xs : List Normal) : Normal :=
  let flat := xs.flatMap fun
    | .alt ys => ys
    | x => [x]
  match flat with
  | [] => .cls []
  | [x] => x
  | _ =>
    match singleChars? flat with
    | some cs => ofRanges (Ranges.tidy (cs.map fun c => (c, c)))
    | none =>
      match classUnion? flat with
      | some rs => ofRanges rs
      | none =>
        match fuel, seqItems? flat with
        | f + 1, some itemss =>
          let p := commonStart itemss
          if p.isEmpty then .alt flat
          else seqOf (p ++ [altOf f (itemss.map fun ys => seqOf (ys.drop p.length))])
        | _, _ => .alt flat

/-- A repetition. Something that only matches the empty text is repeated at most once; no
copies are the empty pattern and exactly one is the thing itself. -/
def repOf (a : Normal) (min : Nat) (max : Option Nat) (greedy : Bool) : Normal :=
  let (lo, hi) :=
    if a.maxLen == some 0 then (Nat.min min 1, some (Nat.min (max.getD 1) 1)) else (min, max)
  if lo = 0 ∧ hi = some 0 then .empty
  else if lo = 1 ∧ hi = some 1 then a
  else .rep a lo hi greedy

end Normal

/-- The simplified form of a node, with the simplified alternatives it stands for when it is an
alternative (otherwise itself alone). -/
def Node.forms : Node → Normal × List Normal
  | .empty => (.empty, [.empty])
  | .set s => let x := Normal.ofRanges s.ranges; (x, [x])
  | .look l => (.look l, [.look l])
  | .seq a b => let x := Normal.seqOf [a.forms.1, b.forms.1]; (x, [x])
  | .alt a b => let bs := a.forms.1 :: b.forms.2; (Normal.altOf bs.length bs, bs)
  | .rep a min max greedy => let x := Normal.repOf a.forms.1 min max greedy; (x, [x])
  | .group none a => let x := a.forms.1; (x, [x])
  | .group (some i) a => let x := .capture i a.forms.1; (x, [x])

def Node.normal (n : Node) : Normal := n.forms.1

end Conform.Pattern
