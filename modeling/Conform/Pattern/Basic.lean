import Conform.Text.Case
import Conform.Text.Word
import Conform.Text.Blank
/-!
Compiled patterns. A pattern is a tree of character sets, zero-width assertions, sequences,
alternatives and bounded or unbounded repetitions. Character sets are predicates on
characters closed under union, intersection, difference, symmetric difference, complement and
case folding; a set built with Unicode off lives among the code points below 256.
-/
namespace Conform.Pattern

/-- The three Perl classes `\d`, `\s` and `\w`. -/
inductive Perl where
  | digit
  | space
  | word
  deriving Repr, DecidableEq, Inhabited

/-- The POSIX classes written `[:name:]` inside brackets. -/
inductive Posix where
  | alnum
  | alpha
  | ascii
  | blank
  | cntrl
  | digit
  | graph
  | lower
  | print
  | punct
  | space
  | upper
  | word
  | xdigit
  deriving Repr, DecidableEq, Inhabited

namespace Posix

def ofName? : String → Option Posix
  | "alnum" => some .alnum
  | "alpha" => some .alpha
  | "ascii" => some .ascii
  | "blank" => some .blank
  | "cntrl" => some .cntrl
  | "digit" => some .digit
  | "graph" => some .graph
  | "lower" => some .lower
  | "print" => some .print
  | "punct" => some .punct
  | "space" => some .space
  | "upper" => some .upper
  | "word" => some .word
  | "xdigit" => some .xdigit
  | _ => none

def ranges : Posix → List (Nat × Nat)
  | .alnum => [(48, 57), (65, 90), (97, 122)]
  | .alpha => [(65, 90), (97, 122)]
  | .ascii => [(0, 127)]
  | .blank => [(9, 9), (32, 32)]
  | .cntrl => [(0, 31), (127, 127)]
  | .digit => [(48, 57)]
  | .graph => [(33, 126)]
  | .lower => [(97, 122)]
  | .print => [(32, 126)]
  | .punct => [(33, 47), (58, 64), (91, 96), (123, 126)]
  | .space => [(9, 13), (32, 32)]
  | .upper => [(65, 90)]
  | .word => [(48, 57), (65, 90), (95, 95), (97, 122)]
  | .xdigit => [(48, 57), (65, 70), (97, 102)]

def contains (k : Posix) (c : Char) : Bool :=
  (ranges k).any fun (lo, hi) => lo ≤ c.toNat && c.toNat ≤ hi

end Posix

/-- Whether a character is in a Perl class, read over all of Unicode or over ASCII only. -/
def Perl.contains (k : Perl) (unicode : Bool) (c : Char) : Bool :=
  match k, unicode with
  | .digit, true => Text.isDecimalDigit c
  | .space, true => Text.isBlank c
  | .word, true => Text.isWordChar c
  | .digit, false => Posix.digit.contains c
  | .space, false => Posix.space.contains c
  | .word, false => Posix.word.contains c

/-- A set of characters. -/
inductive CharSet where
  | none
  | single (c : Char)
  | range (lo hi : Char)
  | perl (k : Perl) (unicode : Bool)
  | posix (k : Posix)
  | anyExcept (excluded : List Char)
  | table (r : Text.RangeSet)
  | union (a b : CharSet)
  | inter (a b : CharSet)
  | diff (a b : CharSet)
  | symm (a b : CharSet)
  | neg (a : CharSet) (unicode : Bool)
  | fold (a : CharSet) (unicode : Bool)
  deriving Inhabited

/-- The other letter of an ASCII letter's case pair. -/
def asciiSwap? (c : Char) : Option Char :=
  if 'a' ≤ c ∧ c ≤ 'z' then some (Char.ofNat (c.toNat - 32))
  else if 'A' ≤ c ∧ c ≤ 'Z' then some (Char.ofNat (c.toNat + 32))
  else none

/-- Whether a character is in a set. A complement with Unicode off stays below 256; a fold
with Unicode on closes the set under simple case folding, with Unicode off under ASCII case. -/
def CharSet.contains : CharSet → Char → Bool
  | .none, _ => false
  | .single a, c => a == c
  | .range lo hi, c => lo ≤ c && c ≤ hi
  | .perl k u, c => k.contains u c
  | .posix k, c => k.contains c
  | .anyExcept xs, c => !xs.contains c
  | .table r, c => r.contains c.toNat
  | .union a b, c => a.contains c || b.contains c
  | .inter a b, c => a.contains c && b.contains c
  | .diff a b, c => a.contains c && !b.contains c
  | .symm a b, c => a.contains c != b.contains c
  | .neg a u, c => (u || c.toNat < 256) && !a.contains c
  | .fold a true, c => (Text.caseOrbit c.toNat).any fun x => a.contains (Char.ofNat x)
  | .fold a false, c => a.contains c || (asciiSwap? c).any fun d => a.contains d

/-- Whether a set built with Unicode off holds a code point from 128 to 255. -/
def CharSet.hasHighByte (s : CharSet) : Bool :=
  (List.range 128).any fun i => s.contains (Char.ofNat (128 + i))

/-- Zero-width assertions. -/
inductive Look where
  | start
  | finish
  | lineStart
  | lineEnd
  | lineStartCrlf
  | lineEndCrlf
  | wordBoundary (unicode : Bool)
  | notWordBoundary (unicode : Bool)
  | wordStart (unicode : Bool)
  | wordEnd (unicode : Bool)
  | wordStartHalf (unicode : Bool)
  | wordEndHalf (unicode : Bool)
  deriving Repr, DecidableEq, Inhabited

/-- The characters on either side of a place in a text. -/
structure Around where
  before : Option Char
  after : Option Char

namespace Look

def isWordAt (unicode : Bool) : Option Char → Bool
  | some c => Perl.word.contains unicode c
  | none => false

/-- Whether an assertion holds at a place. -/
def holds (l : Look) (a : Around) : Bool :=
  match l with
  | .start => a.before.isNone
  | .finish => a.after.isNone
  | .lineStart => a.before.isNone || a.before == some '\n'
  | .lineEnd => a.after.isNone || a.after == some '\n'
  | .lineStartCrlf =>
    a.before.isNone || a.before == some '\n' || (a.before == some '\r' && a.after != some '\n')
  | .lineEndCrlf =>
    a.after.isNone || a.after == some '\r' || (a.after == some '\n' && a.before != some '\r')
  | .wordBoundary u => isWordAt u a.before != isWordAt u a.after
  | .notWordBoundary u => isWordAt u a.before == isWordAt u a.after
  | .wordStart u => !isWordAt u a.before && isWordAt u a.after
  | .wordEnd u => isWordAt u a.before && !isWordAt u a.after
  | .wordStartHalf u => !isWordAt u a.before
  | .wordEndHalf u => !isWordAt u a.after

end Look

/-- A compiled pattern. A repetition is greedy unless written with a trailing `?`; a group is
capturing when it has a number, and either kind keeps its contents apart from the items around
it. -/
inductive Node where
  | empty
  | set (s : CharSet)
  | look (l : Look)
  | seq (a b : Node)
  | alt (a b : Node)
  | rep (a : Node) (min : Nat) (max : Option Nat) (greedy : Bool)
  | group (index : Option Nat) (a : Node)
  deriving Inhabited

namespace Node

def seqList : List Node → Node
  | [] => .empty
  | [n] => n
  | n :: ns => .seq n (seqList ns)

def altList : List Node → Node
  | [] => .empty
  | [n] => n
  | n :: ns => .alt n (altList ns)

end Node

end Conform.Pattern
