/-!
JSON values as the library carries them. An object keeps its members in the order their keys
were first written, and a number is an integer of the 64-bit ranges or a binary64 float, so
that `1` and `1.0` stay apart through validation and printing.
-/
namespace Conform

/-- A JSON number: an integer between `-2^63` and `2^64 - 1`, or a float. -/
inductive Number where
  | int (i : Int)
  | float (x : Float)

/-- A JSON value. An object is a list of members with distinct keys, in written order. -/
inductive Json where
  | null
  | bool (b : Bool)
  | num (n : Number)
  | str (s : String)
  | arr (items : List Json)
  | obj (members : List (String × Json))

instance : Inhabited Json := ⟨.null⟩

namespace Number

/-- The number as a float; an integer goes to the nearest float. -/
def toFloat : Number → Float
  | .int i => Float.ofInt i
  | .float x => x

/-- The number as an unsigned 64-bit integer, if it is one. -/
def toNat? : Number → Option Nat
  | .int i => if 0 ≤ i ∧ i < 18446744073709551616 then some i.toNat else none
  | .float _ => none

/-- The number as a signed 64-bit integer, if it is one. -/
def toInt? : Number → Option Int
  | .int i => if -9223372036854775808 ≤ i ∧ i < 9223372036854775808 then some i else none
  | .float _ => none

end Number

namespace Json

def ofInt (i : Int) : Json := .num (.int i)

def ofNat (n : Nat) : Json := .num (.int n)

def ofFloat (x : Float) : Json := .num (.float x)

def isNull : Json → Bool
  | .null => true
  | _ => false

/-- The member under `key`, if the value is an object that has one. -/
def field? (v : Json) (key : String) : Option Json :=
  match v with
  | .obj ms => ms.lookup key
  | _ => none

/-- The value's kind in words, as schema errors name it. -/
def kindName : Json → String
  | .null => "null"
  | .bool _ => "a boolean"
  | .num _ => "a number"
  | .str _ => "a string"
  | .arr _ => "an array"
  | .obj _ => "a map"

end Json

namespace Members

variable {α : Type}

/-- Sets `key` to `v`: an existing member keeps its position, a new one goes last. -/
def insert : List (String × α) → String → α → List (String × α)
  | [], k, v => [(k, v)]
  | (k', v') :: rest, k, v => if k' = k then (k, v) :: rest else (k', v') :: insert rest k v

/-- Builds an object's members from pairs in written order; a repeated key keeps its first
position and takes its last value. -/
def ofPairs (pairs : List (String × α)) : List (String × α) :=
  pairs.foldl (fun acc (k, v) => insert acc k v) []

/-- Drops the member under `key`. -/
def erase (ms : List (String × α)) (key : String) : List (String × α) :=
  ms.filter (fun m => m.1 ≠ key)

/-- Removes a key as an insertion-ordered map does when it swaps: the last member takes the
removed member's place. -/
def swapRemove (ms : List (String × α)) (key : String) : List (String × α) :=
  match ms.findIdx? (·.1 == key) with
  | none => ms
  | some i =>
    if i + 1 = ms.length then ms.take i
    else (ms.take i ++ ms.drop (ms.length - 1) ++ ms.drop (i + 1)).dropLast

end Members

end Conform
