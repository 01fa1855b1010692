import Conform.Pattern.Normal
/-!
How much memory the engine's programs for a pattern take, counted the way the engine counts
while it builds them: 32 bytes a state, 8 bytes a transition of a state with a list of byte
ranges, 4 bytes a branch of a fork. A pattern has two programs, one that reads forwards and
keeps its capture groups and one that reads backwards without them, and it is refused when
either would take more than 10 MiB.

The count follows the construction state by state, since the numbering of the states decides
which of them share a slot in the tables below. A program that is not tied to the start of the
text (for the backwards program, to its end) begins with a lazy loop over any byte. A class
that reaches beyond ASCII becomes an automaton over the UTF-8 byte ranges of its code points:
reading forwards, equal nodes are built once, found through a table of 10000 slots indexed by
an FNV-1a hash of their transitions; reading backwards, equal tails are built once, found
through a table of 1000 slots. A slot holds one entry, so an entry whose slot was taken since
is built again. Alternatives that are all literals are laid out as a trie.
-/
namespace Conform.Pattern

/-- What a program built so far counts: its states, and the bytes of their transitions and
branches. -/
structure Tally where
  states : Nat
  extra : Nat

def Tally.bytes (t : Tally) : Nat := 32 * t.states + t.extra

def memoryLimit : Nat := 10485760

/-- Building a program; it stops as soon as the program takes more than the limit. -/
abbrev Build := StateT Tally Option

namespace Build

/-- Makes the tally the current one, unless it is over the limit. -/
def keep (t : Tally) : Build Unit := fun _ => if t.bytes > memoryLimit then none else some ((), t)

def states (n extra : Nat) : Build Unit := fun t => keep ⟨t.states + n, t.extra + extra⟩ t

def state (extra : Nat) : Build Unit := states 1 extra

def grow (extra : Nat) : Build Unit := states 0 extra

def nextState : Build Nat := fun t => some (t.states, t)

/-- Joins the end of a piece to what follows: an end that is a fork gains a branch. -/
def link (forks : Bool) : Build Unit := if forks then grow 4 else pure ()

end Build

def fnvPrime : UInt64 := 1099511628211

def fnvBasis : UInt64 := 14695981039346656037

def fnvMix (h : UInt64) (x : Nat) : UInt64 := (h ^^^ x.toUInt64) * fnvPrime

/-- A node of the forwards byte automaton still open: the transitions it has, as byte range
and target, and the byte range of the last one, whose target is not built yet. -/
structure OpenNode where
  done : Array (Nat × Nat × Nat)
  pending : Option (Nat × Nat)

/-- Nodes already built, by slot: the node's transitions and its state. -/
abbrev NodeTable := Array (Option (Array (Nat × Nat × Nat) × Nat))

def nodeSlot (node : Array (Nat × Nat × Nat)) : Nat :=
  let h := node.foldl (fun h (lo, hi, next) => fnvMix (fnvMix (fnvMix h lo) hi) next) fnvBasis
  (h % 10000).toNat

/-- The state of a node: the one in its slot when that is the same node, else a new one. -/
def placeNode (table : NodeTable) (node : Array (Nat × Nat × Nat)) : Build (Nat × NodeTable) := do
  let slot := nodeSlot node
  if let some (some (k, id)) := table[slot]? then
    if k == node then return (id, table)
  let id ← Build.nextState
  Build.state (8 * node.size)
  return (id, table.setIfInBounds slot (some (node, id)))

/-- A node's transitions once its last one leads to `next`. -/
def OpenNode.close (o : OpenNode) (next : Nat) : Array (Nat × Nat × Nat) :=
  match o.pending with
  | some (lo, hi) => o.done.push (lo, hi, next)
  | none => o.done

/-- Builds the open nodes above the first `keep + 1`, the deepest first leading to `next` and
each leading to the one built before; the last one kept then leads there too. -/
def settle (keep : Nat) :
    Nat → Nat → Array OpenNode → NodeTable → Build (Array OpenNode × NodeTable)
  | fuel + 1, next, stack, table =>
    if keep + 1 < stack.size then do
      let top := stack[stack.size - 1]?.getD ⟨#[], none⟩
      let (id, table) ← placeNode table (top.close next)
      settle keep fuel id stack.pop table
    else pure (stack.modify (stack.size - 1) (fun o => ⟨o.close next, none⟩), table)
  | 0, next, stack, table =>
    pure (stack.modify (stack.size - 1) (fun o => ⟨o.close next, none⟩), table)

/-- Adds one byte-range sequence: the open nodes it shares a start with stay open, the others are
built, and new open nodes take the rest of the sequence. -/
def addRun (target : Nat) (run : List (Nat × Nat)) (stack : Array OpenNode) (table : NodeTable) :
    Build (Array OpenNode × NodeTable) := do
  let shared := ((run.zip stack.toList).takeWhile fun (r, o) => o.pending == some r).length
  let (stack, table) ← settle shared stack.size target stack table
  match run.drop shared with
  | [] => pure (stack, table)
  | r :: rs =>
    let stack := stack.modify (stack.size - 1) fun o => { o with pending := some r }
    pure (rs.foldl (fun s r => s.push ⟨#[], some r⟩) stack, table)

def addRuns (target : Nat) :
    List (List (Nat × Nat)) → Array OpenNode → NodeTable → Build (Array OpenNode × NodeTable)
  | [], stack, table => pure (stack, table)
  | run :: runs, stack, table => do
    let (stack, table) ← addRun target run stack table
    addRuns target runs stack table

/-- The byte-range sequences of tidy ranges, in order. -/
def rangeRuns (rs : List (Nat × Nat)) : List (List (Nat × Nat)) :=
  rs.flatMap fun (lo, hi) => byteRuns lo hi

/-- Builds the forwards automaton of a class: first the state every sequence ends in, then the
nodes from the deepest up, the root last. -/
def forwardClass (rs : List (Nat × Nat)) : Build Unit := do
  let target ← Build.nextState
  Build.state 0
  let (stack, table) ← addRuns target (rangeRuns rs) #[⟨#[], none⟩] (Array.replicate 10000 none)
  let (stack, table) ← settle 0 stack.size target stack table
  let _ ← placeNode table ((stack[0]?.map (·.done)).getD #[])

/-- Tails already built, by slot: the state a tail leads to with the byte range read before it,
and the state that reads it. -/
abbrev TailTable := Array (Option ((Nat × Nat × Nat) × Nat))

def tailSlot (key : Nat × Nat × Nat) : Nat :=
  ((fnvMix (fnvMix (fnvMix fnvBasis key.1) key.2.1) key.2.2) % 1000).toNat

/-- Builds the states of one byte-range sequence read backwards, its first byte range last
before `stop`; gives the state that starts it. -/
def backRun (table : TailTable) (stop : Nat) :
    List (Nat × Nat) → Build (Nat × TailTable)
  | [] => pure (stop, table)
  | (lo, hi) :: rest => do
    let key := (stop, lo, hi)
    let slot := tailSlot key
    match table[slot]? with
    | some (some (k, id)) =>
      if k == key then backRun table id rest
      else do
        let id ← Build.nextState
        Build.state 0
        backRun (table.setIfInBounds slot (some (key, id))) id rest
    | _ => do
      let id ← Build.nextState
      Build.state 0
      backRun (table.setIfInBounds slot (some (key, id))) id rest

/-- Builds the backwards sequences in order, each a new branch of the fork before them. -/
def backRuns (stop : Nat) : List (List (Nat × Nat)) → TailTable → Build Unit
  | [], _ => pure ()
  | run :: runs, table => do
    let (_, table) ← backRun table stop run
    Build.grow 4
    backRuns stop runs table

/-- Builds the backwards automaton of a class: a fork into the sequences, the state they all
end in, then the sequences. -/
def backwardClass (rs : List (Nat × Nat)) : Build Unit := do
  Build.state 0
  let stop ← Build.nextState
  Build.state 0
  backRuns stop (rangeRuns rs) (Array.replicate 1000 none)

/-- A node of a trie of literals: its edges as byte and child, and the cuts where a literal
ends among them, each the range of edges before it. -/
structure TrieNode where
  edges : Array (Nat × Nat)
  cuts : Array (Nat × Nat)

def TrieNode.active (n : TrieNode) : Nat := (n.cuts.back?.map (·.2)).getD 0

/-- Follows a byte from a node among its edges after the last cut, adding a child in byte order
when there is none; gives the trie and the child. -/
def trieStep (nodes : Array TrieNode) (here b : Nat) : Array TrieNode × Nat :=
  let n := nodes[here]?.getD ⟨#[], #[]⟩
  let start := n.active
  let active := n.edges.extract start n.edges.size
  match active.find? (·.1 == b) with
  | some (_, child) => (nodes, child)
  | none =>
    let child := nodes.size
    let pos := start + (active.findIdx? (·.1 > b)).getD active.size
    let n := { n with edges := n.edges.insertIdxIfInBounds pos (b, child) }
    ((nodes.setIfInBounds here n).push ⟨#[], #[]⟩, child)

def TrieNode.mark (n : TrieNode) : TrieNode :=
  if n.edges.isEmpty && !n.cuts.isEmpty then n
  else { n with cuts := n.cuts.push (n.active, n.edges.size) }

def trieAdd (nodes : Array TrieNode) (bytes : List Nat) : Array TrieNode :=
  let (nodes, last) := bytes.foldl (fun (ns, here) b => trieStep ns here b) (nodes, 0)
  nodes.modify last TrieNode.mark

/-- The states and extra bytes of a trie node with edges, its descendants included: a state for
each nonempty chunk of edges between cuts, and a fork over the chunks and the ends of the
literals between them. -/
def trieCost (nodes : Array TrieNode) : Nat → Nat → Nat × Nat
  | 0, _ => (0, 0)
  | fuel + 1, i =>
    let n := nodes[i]?.getD ⟨#[], #[]⟩
    let chunks := n.cuts.toList.map (fun (s, e) => (n.edges.extract s e).toList) ++
      [(n.edges.extract n.active n.edges.size).toList]
    let below := chunks.foldl (fun acc chunk => chunk.foldl (fun (s, x) (_, c) =>
      if (nodes[c]?.map (·.edges.isEmpty)).getD true then (s, x)
      else
        let (s', x') := trieCost nodes fuel c
        (s + s', x + x')) acc) (0, 0)
    let filled := chunks.filter (!·.isEmpty)
    let own := filled.foldl
      (fun (s, x) chunk => (s + 1, x + if chunk.length ≥ 2 then 8 * chunk.length else 0)) (0, 0)
    let branches := filled.length + (chunks.length - 1)
    (below.1 + own.1 + 1, below.2 + own.2 + 4 * branches)

/-- Builds alternatives that are all literals as a trie: the state every literal ends in, then
the trie's nodes. -/
def literalTrie (back : Bool) (literals : List (List Nat)) : Build Unit := do
  let nodes := literals.foldl (fun ns bs => trieAdd ns (if back then bs.reverse else bs))
    #[⟨#[], #[]⟩]
  let (s, x) := trieCost nodes nodes.size 0
  Build.states (s + 1) x

/-- Builds `k` more copies of a piece, each joined to the end before it; gives whether the last
end is a fork. -/
def copies (piece : Build Bool) : Nat → Bool → Tally → Option (Bool × Tally)
  | 0, forks, t => some (forks, t)
  | k + 1, forks, t =>
    match (do Build.link forks; piece : Build Bool) t with
    | none => none
    | some (f, t) => copies piece k f t

/-- Builds `k` optional copies of a piece, each behind a fork that may skip to the common end;
gives whether the last end is a fork. -/
def optionalCopies (piece : Build Bool) : Nat → Bool → Tally → Option (Bool × Tally)
  | 0, forks, t => some (forks, t)
  | k + 1, forks, t =>
    match (do Build.state 0; let f ← piece; Build.link forks; Build.grow 8; pure f : Build Bool) t
    with
    | none => none
    | some (f, t) => optionalCopies piece k f t

/-- Builds exactly `n` copies of a piece in a row. -/
def exactly (piece : Build Bool) (n : Nat) : Build Bool :=
  match n with
  | 0 => do Build.state 0; pure false
  | k + 1 => do
    let f ← piece
    fun t => copies piece k f t

/-- Builds at least `n` copies of a piece; `nonempty` tells whether every match of the piece
takes a byte. -/
def atLeast (piece : Build Bool) (nonempty : Bool) (n : Nat) : Build Bool :=
  match n with
  | 0 =>
    if nonempty then do
      Build.state 0
      let f ← piece
      Build.grow 4
      Build.link f
      pure true
    else do
      let f ← piece
      Build.state 0
      Build.link f
      Build.grow 4
      Build.states 2 12
      pure false
  | 1 => do
    let f ← piece
    Build.state 0
    Build.link f
    Build.grow 4
    pure true
  | k + 2 => do
    let p ← exactly piece (k + 1)
    let l ← piece
    Build.state 0
    Build.link p
    Build.link l
    Build.grow 4
    pure true

/-- Builds from `lo` to `hi` copies of a piece, `lo < hi`. -/
def between (piece : Build Bool) (lo hi : Nat) : Build Bool := do
  let p ← exactly piece lo
  Build.state 0
  let f ← fun t => optionalCopies piece (hi - lo) p t
  Build.link f
  pure false

/-- The literals of alternatives that are all literals. -/
def literals? (xs : List Normal) : Option (List (List Nat)) :=
  xs.mapM fun (x : Normal) => match x with
    | .literal bs => some bs
    | _ => none

mutual
/-- Builds the program of a simplified pattern, reading forwards or backwards; gives whether its
end is a fork. -/
def lay (back : Bool) : Normal → Build Bool
  | .empty => do Build.state 0; pure false
  | .literal bs => do Build.states bs.length 0; pure false
  | .cls rs => do
    if rs.all (·.2 ≤ 0x7F) then Build.states 2 (8 * rs.length)
    else if back then backwardClass rs
    else forwardClass rs
    pure false
  | .look _ => do Build.state 0; pure false
  | .capture _ a =>
    if back then lay back a
    else do
      Build.state 0
      let f ← lay back a
      Build.state 0
      Build.link f
      pure false
  | .concat xs => if back then laySeqBack back xs else laySeq back xs
  | .alt xs =>
    match literals? xs with
    | some bss => do literalTrie back bss; pure false
    | none => layAlt back xs
  | .rep a min max _ =>
    match min, max with
    | 0, some 1 => do
      Build.state 0
      let f ← lay back a
      Build.state 0
      Build.grow 8
      Build.link f
      pure false
    | n, none => atLeast (lay back a) ((a.minLen.map fun k => decide (k > 0)).getD false) n
    | n, some m => if n = m then exactly (lay back a) n else between (lay back a) n m

def laySeq (back : Bool) : List Normal → Build Bool
  | [] => do Build.state 0; pure false
  | [x] => lay back x
  | x :: xs => do
    let f ← lay back x
    Build.link f
    laySeq back xs

def laySeqBack (back : Bool) : List Normal → Build Bool
  | [] => do Build.state 0; pure false
  | [x] => lay back x
  | x :: xs => do
    let f ← laySeqBack back xs
    Build.link f
    lay back x

/-- Builds alternatives: the first two, then a fork into them and the state they end in, then
the others. -/
def layAlt (back : Bool) : List Normal → Build Bool
  | [] => do Build.state 0; pure false
  | [x] => lay back x
  | x :: y :: rest => do
    let f ← lay back x
    let g ← lay back y
    Build.states 2 8
    Build.link f
    Build.link g
    layAltRest back rest
    pure false

def layAltRest (back : Bool) : List Normal → Build Unit
  | [] => pure ()
  | x :: rest => do
    let f ← lay back x
    Build.grow 4
    Build.link f
    layAltRest back rest
end

/-- Whether the program reading in one direction stays within the limit: an optional loop in
front unless every match is tied to where reading starts, then the pattern (reading forwards,
inside the capture states of the whole match), then the state that accepts. -/
def Normal.fitsReading (back : Bool) (n : Normal) : Bool :=
  let tied := if back then n.endsAtFinish else n.beginsAtStart
  let build : Build Unit := do
    if tied then Build.state 0 else Build.states 3 16
    if back then
      let f ← lay true n
      Build.state 0
      Build.link f
    else
      Build.state 0
      let f ← lay false n
      Build.state 0
      Build.link f
      Build.state 0
  (build ⟨0, 0⟩).isSome

def Normal.fits (n : Normal) : Bool := n.fitsReading false && n.fitsReading true

end Conform.Pattern
