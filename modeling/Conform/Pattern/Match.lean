import Conform.Pattern.Syntax
import Conform.Pattern.Footprint
/-!
Deciding whether a pattern matches somewhere in a text. The pattern is laid out as a program of
states (Thompson's construction): a state takes one character from a set, checks an
assertion, forks, or accepts. The text is read once from left to right while the set of live
states is kept, closed under the forks and assertions that hold at the current place; a new
thread starts at every place, so the match may begin anywhere. The pattern matches when some
live state accepts.
-/
namespace Conform.Pattern

/-- A state of a compiled pattern. -/
inductive Inst where
  | take (s : CharSet) (next : Nat)
  | look (l : Look) (next : Nat)
  | fork (a b : Nat)
  | accept
  deriving Inhabited

/-- The states of a compiled pattern and the state it starts in. -/
structure Program where
  insts : Array Inst
  start : Nat

namespace Program

def push (p : Array Inst) (i : Inst) : Nat × Array Inst := (p.size, p.push i)

/-- Lays out a node so that it continues at `next`; gives its entry state. -/
def layout : Node → Nat → Array Inst → Nat × Array Inst
  | .empty, next, p => (next, p)
  | .set s, next, p => push p (.take s next)
  | .look l, next, p => push p (.look l next)
  | .seq a b, next, p =>
    let (eb, p) := layout b next p
    layout a eb p
  | .alt a b, next, p =>
    let (ea, p) := layout a next p
    let (eb, p) := layout b next p
    push p (.fork ea eb)
  | .group _ a, next, p => layout a next p
  | .rep a min max _, next, p =>
    let (tail, p) := match max with
      | none =>
        let loop := p.size
        let p := p.push (.fork next next)
        let (ea, p) := layout a loop p
        (loop, p.setIfInBounds loop (.fork ea next))
      | some hi =>
        (List.range (hi - min)).foldl (fun (acc : Nat × Array Inst) _ =>
          let (cur, p) := acc
          let (ea, p) := layout a cur p
          push p (.fork ea next)) (next, p)
    (List.range min).foldl (fun (acc : Nat × Array Inst) _ =>
      let (cur, p) := acc
      layout a cur p) (tail, p)

def ofNode (n : Node) : Program :=
  let (stop, p) := push #[] .accept
  let (start, p) := layout n stop p
  ⟨p, start⟩

/-- Adds to `out` the taking and accepting states reachable from the `stack` without reading,
at a place with the given surroundings; `seen` marks states already visited. -/
def closure (p : Program) (around : Around) :
    Nat → List Nat → Array Bool → List Nat → Array Bool × List Nat
  | 0, _, seen, out => (seen, out)
  | _, [], seen, out => (seen, out)
  | fuel + 1, i :: stack, seen, out =>
    if seen[i]?.getD true then closure p around fuel stack seen out
    else
      let seen := seen.setIfInBounds i true
      match p.insts[i]? with
      | some (.take _ _) | some .accept => closure p around fuel stack seen (i :: out)
      | some (.look l next) =>
        if l.holds around then closure p around fuel (next :: stack) seen out
        else closure p around fuel stack seen out
      | some (.fork a b) => closure p around fuel (a :: b :: stack) seen out
      | none => closure p around fuel stack seen out

/-- The live states at a place, reached from the given entry states. -/
def live (p : Program) (around : Around) (entries : List Nat) : List Nat :=
  (p.closure around (2 * p.insts.size + entries.length + 1) entries
    (Array.replicate p.insts.size false) []).2

def accepts (p : Program) (states : List Nat) : Bool :=
  states.any fun i => match p.insts[i]? with
    | some .accept => true
    | _ => false

/-- The states reached by taking a character from the live states. -/
def advance (p : Program) (states : List Nat) (c : Char) : List Nat :=
  states.filterMap fun i => match (p.insts[i]? : Option Inst) with
    | some (.take s next) => if s.contains c then some next else none
    | _ => none

/-- Runs the program over the rest of a text, the character before it being `before`. -/
def search (p : Program) (before : Option Char) : List Char → List Nat → Bool
  | [], entries =>
    p.accepts (p.live ⟨before, none⟩ (p.start :: entries))
  | c :: cs, entries =>
    let states := p.live ⟨before, some c⟩ (p.start :: entries)
    if p.accepts states then true
    else search p (some c) cs (p.advance states c)

def found (p : Program) (text : String) : Bool := p.search none text.toList []

end Program

/-- A pattern ready to match: its source and its program. -/
structure Regex where
  source : String
  program : Program

namespace Regex

/-- Compiles a pattern, or gives the display of its first fault; a pattern whose programs would
take more memory than the engine allows is refused. -/
def compile (source : String) : Except String Regex :=
  match parse source with
  | .error f => .error (f.render source)
  | .ok node =>
    if !node.normal.fits then
      .error ("Compiled regex exceeds size limit of " ++ toString memoryLimit ++ " bytes.")
    else .ok ⟨source, Program.ofNode node⟩

def isMatch (r : Regex) (text : String) : Bool := r.program.found text

end Regex

end Conform.Pattern
