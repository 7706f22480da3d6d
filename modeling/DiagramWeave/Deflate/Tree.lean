/-!
# Code lengths

The symbols of an alphabet are given code lengths by their weights: the two lightest nodes of a heap are
joined until one tree is left, and the depth of a leaf is the length of its code. Leaves deeper than the
limit are raised, each at the cost of lowering a leaf above them, and the lengths are dealt out again, the
longest to the lightest.

Of nodes of one weight the flatter goes first. Ties beyond that are settled by their place in the heap.
-/
namespace DiagramWeave.Deflate

/-- A tree over symbols. `weight` counts the occurrences of all symbols in it. -/
inductive Node where
  | leaf (symbol weight : Nat)
  | join (weight height : Nat) (first second : Node)
  deriving Inhabited

namespace Node

def weight : Node → Nat
  | leaf _ weight => weight
  | join weight _ _ _ => weight

def height : Node → Nat
  | leaf _ _ => 0
  | join _ height _ _ => height

/-- The node is taken from the heap no later than the other. -/
def precedes (node other : Node) : Bool :=
  node.weight < other.weight || (node.weight == other.weight && node.height ≤ other.height)

/-- The node above two others. -/
def parent (first second : Node) : Node :=
  join (first.weight + second.weight) (max first.height second.height + 1) first second

/-- The symbol of a leaf. -/
def symbol? : Node → Option Nat
  | leaf symbol _ => some symbol
  | join _ _ _ _ => none

/-- The depths of the leaves, from `depth` on, and whether the node is a leaf; inner nodes included. -/
def depths (depth : Nat) : Node → List (Nat × Bool)
  | leaf _ _ => [(depth, true)]
  | join _ _ first second => (depth, false) :: depths (depth + 1) first ++ depths (depth + 1) second

/-- The symbols with their depths. -/
def leaves (depth : Nat) : Node → List (Nat × Nat)
  | leaf symbol _ => [(symbol, depth)]
  | join _ _ first second => leaves (depth + 1) first ++ leaves (depth + 1) second

end Node

/-- Puts a node at a hole of the heap, or below it where a child precedes the node. -/
def siftDown (node : Node) (heap : Array Node) (hole : Nat) : Nat → Array Node
  | 0 => heap.setIfInBounds hole node
  | steps + 1 =>
    let left := 2 * hole + 1
    let right := left + 1
    -- Of two children that precede each other the right one counts.
    let child :=
      if right < heap.size && (heap.getD right default).precedes (heap.getD left default) then right
      else left
    if left < heap.size && !node.precedes (heap.getD child default) then
      siftDown node (heap.setIfInBounds hole (heap.getD child default)) child steps
    else heap.setIfInBounds hole node

/-- Sifts the first `count` nodes, the last of them first. -/
def heapify (heap : Array Node) : Nat → Array Node
  | 0 => heap
  | count + 1 => heapify (siftDown (heap.getD count default) heap count heap.size) count

/-- Joins the two first nodes of the heap until one node is left, in `steps` steps at most. `joined` lists
    the nodes that were joined, the last first. -/
def joinAll (heap : Array Node) (joined : List Node) : Nat → Node × List Node
  | 0 => (heap.getD 0 default, joined)
  | steps + 1 =>
    if heap.size < 2 then (heap.getD 0 default, joined)
    else
      let first := heap.getD 0 default
      let fewer := heap.pop
      -- The last node fills the hole that the first one leaves.
      let fewer := siftDown (heap.back?.getD default) fewer 0 fewer.size
      let second := fewer.getD 0 default
      joinAll (siftDown (first.parent second) fewer 0 fewer.size) (second :: first :: joined) steps

/-- A tree has two leaves at least: symbols that do not occur fill it up. -/
def atLeastTwo : List (Nat × Nat) → List (Nat × Nat)
  | [] => [(0, 1), (1, 1)]
  | [(symbol, weight)] => [(symbol, weight), (if symbol < 2 then symbol + 1 else 0, 1)]
  | used => used

/-- The symbols that occur, with their weights. -/
def usedSymbols (weights : List Nat) : List (Nat × Nat) :=
  (weights.zipIdx.filter fun entry => entry.1 != 0).map fun entry => (entry.2, entry.1)

/-- The greatest length below `limit` that a leaf has. -/
def lowest (counts : Array Nat) : Nat → Nat
  | 0 => 0
  | limit + 1 => if counts.getD limit 0 == 0 then lowest counts limit else limit

/-- Raises leaves until none is deeper than `limit`: one leaf above moves down a level and takes a raised
    leaf as its sibling, which settles two of the `excess` nodes. -/
def raise (limit : Nat) (counts : Array Nat) (excess : Nat) : Nat → Array Nat
  | 0 => counts
  | steps + 1 =>
    if excess = 0 then counts
    else
      let above := lowest counts limit
      let counts := counts.modify above (· - 1)
      let counts := counts.modify (above + 1) (· + 2)
      raise limit (counts.modify limit (· - 1)) (excess - 2) steps

/-- How many leaves have each length up to `limit`, deeper leaves counted at the limit. -/
def countLengths (limit : Nat) (depths : List (Nat × Bool)) : Array Nat :=
  depths.foldl
    (fun counts entry => if entry.2 then counts.modify (min limit entry.1) (· + 1) else counts)
    (Array.replicate (limit + 1) 0)

/-- The lengths of the counts, the longest first. -/
def longestFirst (counts : Array Nat) : Nat → List Nat
  | 0 => []
  | length + 1 => List.replicate (counts.getD (length + 1) 0) (length + 1) ++ longestFirst counts length

/-- The code lengths of the symbols with these weights, none longer than `limit`. Symbols without a code
    have length zero; the list ends with the last symbol that has one. -/
def codeLengths (limit : Nat) (weights : List Nat) : List Nat :=
  let used := atLeastTwo (usedSymbols weights)
  let heap := (used.map fun entry => Node.leaf entry.1 entry.2).toArray
  let (root, joined) := joinAll (heapify heap (heap.size / 2)) [] heap.size
  let depths := root.depths 0
  let excess := (depths.filter fun entry => limit < entry.1).length
  let assigned :=
    if excess = 0 then root.leaves 0
    else
      -- Nodes were joined in the order of their weights, so the lightest leaves get the longest words.
      let counts := raise limit (countLengths limit depths) excess excess
      (joined.reverse.filterMap Node.symbol?).zip (longestFirst counts limit)
  let size := (used.foldl (fun greatest entry => max greatest entry.1) 0) + 1
  (assigned.foldl (fun lengths entry => lengths.setIfInBounds entry.1 entry.2)
    (Array.replicate size 0)).toList

end DiagramWeave.Deflate
