import DiagramWeave.Deflate.Tree
import Mathlib.Algebra.Ring.Nat
import Mathlib.Data.List.Perm.Basic

/-!
# The tree of a code

What joining does to the nodes of the heap, whatever their order: it moves no leaf in or out. So the tree that is left has the
leaves that were entered, and every leaf is among the nodes that were joined.

The depths of the leaves use up all words of the greatest length. When deeper leaves are counted at a limit, they use up
more, and what is too much is half the number of nodes below the limit.
-/
namespace DiagramWeave.Deflate

/-! ### The heap -/

/-- A member moved to a hole leaves a hole of its own. -/
theorem set_set_perm {Item : Type} {items : List Item} {hole source : Nat}
    (inside : hole < items.length) (sourceInside : source < items.length) (apart : hole ≠ source)
    (item : Item) :
    ((items.set hole items[source]).set source item).Perm (items.set hole item) := by
  have moved : source < (items.set hole items[source]).length := by rwa [List.length_set]
  have kept : (items.set hole items[source])[source] = items[source] :=
    List.getElem_set_ne apart moved
  -- Both lists are the item and the members but the one at the hole.
  have others := (List.getElem_cons_eraseIdx_perm moved).trans
    (List.set_perm_cons_eraseIdx inside items[source])
  rw [kept] at others
  exact (List.set_perm_cons_eraseIdx moved item).trans ((others.cons_inv.cons item).trans
    (List.set_perm_cons_eraseIdx inside item).symm)

theorem siftDown_perm (node : Node) {heap : Array Node} {hole : Nat} (inside : hole < heap.size)
    (steps : Nat) : (siftDown node heap hole steps).toList.Perm (heap.toList.set hole node) := by
  induction steps generalizing heap hole with
  | zero => rw [siftDown, Array.toList_setIfInBounds]
  | succ steps ih =>
    unfold siftDown
    extract_lets left right child
    split
    · next below =>
      rw [Bool.and_eq_true, decide_eq_true_eq] at below
      have childInside : child < heap.size := by
        simp only [child]
        split
        · next chosen =>
          rw [Bool.and_eq_true, decide_eq_true_eq] at chosen
          exact chosen.1
        · exact below.1
      have apart : hole ≠ child := by
        simp only [child, right, left]
        split <;> omega
      have value : heap.getD child default = heap.toList[child] := by
        rw [← Array.getElem_eq_getD (h := childInside), Array.getElem_toList]
      refine (ih (by rwa [Array.size_setIfInBounds])).trans ?_
      rw [Array.toList_setIfInBounds, value]
      exact set_set_perm inside childInside apart node
    · rw [Array.toList_setIfInBounds]

theorem size_siftDown (node : Node) {heap : Array Node} {hole : Nat} (inside : hole < heap.size)
    (steps : Nat) : (siftDown node heap hole steps).size = heap.size := by
  have := (siftDown_perm node inside steps).length_eq
  rwa [List.length_set] at this

theorem heapify_perm {heap : Array Node} {count : Nat} (inside : count ≤ heap.size) :
    (heapify heap count).toList.Perm heap.toList := by
  induction count generalizing heap with
  | zero => exact .refl _
  | succ count ih =>
    have sized := size_siftDown (heap.getD count default) inside heap.size
    have own : heap.toList.set count (heap.getD count default) = heap.toList := by
      rw [← Array.getElem_eq_getD (h := inside), ← Array.getElem_toList, List.set_getElem_self]
    rw [heapify]
    refine (ih (by omega)).trans ((siftDown_perm _ inside _).trans ?_)
    rw [own]

theorem exists_toList_eq_cons {heap : Array Node} (positive : 0 < heap.size) :
    ∃ others, heap.toList = heap.getD 0 default :: others := by
  rcases heap with ⟨_ | ⟨first, others⟩⟩
  · cases positive
  · exact ⟨others, rfl⟩

/-- Joining takes two nodes from the heap and puts the node above them in. -/
theorem join_step {heap : Array Node} (two : 2 ≤ heap.size) :
    let first := heap.getD 0 default
    let fewer := siftDown (heap.back?.getD default) heap.pop 0 heap.pop.size
    let second := fewer.getD 0 default
    let next := siftDown (first.parent second) fewer 0 fewer.size
    next.size + 1 = heap.size ∧ ∃ others, heap.toList.Perm (first :: second :: others) ∧
      next.toList.Perm (first.parent second :: others) := by
  intro first fewer second next
  obtain ⟨last, hasLast⟩ : ∃ last, heap.back? = some last := by
    rw [← Option.isSome_iff_exists, Array.back?_isSome]
    rintro rfl
    cases two
  -- The last node fills the place of the first one, and sinks.
  obtain ⟨front, whole⟩ := Array.back?_eq_some_iff.1 hasLast
  have popped : heap.pop = front := by rw [whole, Array.pop_push]
  have positive : 0 < front.size := by
    rw [whole, Array.size_push] at two
    omega
  obtain ⟨middle, starts⟩ := exists_toList_eq_cons positive
  have same : front.getD 0 default = first := by
    simp only [first, whole, ← Array.getElem_eq_getD (h := positive),
      ← Array.getElem_eq_getD (h := (by simp : 0 < (front.push last).size)),
      Array.getElem_push_lt positive]
  rw [same] at starts
  have sized : fewer.size = front.size := by
    simp only [fewer, popped]
    exact size_siftDown _ positive _
  have filled : fewer.toList.Perm (last :: middle) := by
    have sifted := siftDown_perm last positive front.size
    rw [starts] at sifted
    simp only [fewer, popped, hasLast]
    exact sifted
  have left : 0 < fewer.size := by rwa [sized]
  obtain ⟨others, rest⟩ := exists_toList_eq_cons left
  refine ⟨?_, others, ?_, ?_⟩
  · rw [whole, Array.size_push, ← sized]
    exact congrArg (· + 1) (size_siftDown _ left _)
  · rw [whole, Array.toList_push, starts, ← rest, List.cons_append]
    exact ((List.perm_append_singleton last middle).trans filled.symm).cons first
  · have sifted := siftDown_perm (first.parent second) left fewer.size
    rwa [rest] at sifted

/-! ### The leaves -/

/-- The symbols of a tree, from left to right. -/
def Node.symbols : Node → List Nat
  | leaf symbol _ => [symbol]
  | join _ _ first second => first.symbols ++ second.symbols

theorem Node.map_fst_leaves (node : Node) (depth : Nat) :
    (node.leaves depth).map Prod.fst = node.symbols := by
  induction node generalizing depth with
  | leaf => rfl
  | join weight height first second firstIh secondIh =>
    rw [leaves, List.map_append, firstIh, secondIh, symbols]

/-- What joining leaves of a heap and of the nodes joined before: a tree and the nodes joined in all. No leaf
    is lost, neither from the tree nor from the nodes that were joined. -/
structure Joins (heap : List Node) (joined : List Node) (result : Node × List Node) : Prop where
  symbols : result.1.symbols.Perm (heap.flatMap Node.symbols)
  leaves : (result.2.filterMap Node.symbol? ++ result.1.symbol?.toList).Perm
    (joined.filterMap Node.symbol? ++ heap.filterMap Node.symbol?)

theorem Joins.single {heap : Array Node} (positive : 0 < heap.size) (one : heap.size < 2)
    (joined : List Node) : Joins heap.toList joined (heap.getD 0 default, joined) := by
  obtain ⟨others, whole⟩ := exists_toList_eq_cons positive
  have length := congrArg List.length whole
  rw [Array.length_toList, List.length_cons] at length
  have none : others = [] := List.length_eq_zero_iff.1 (by omega)
  rw [whole, none]
  -- The only node is the tree, and it was not joined.
  refine ⟨?_, ?_⟩
  · rw [List.flatMap_singleton]
  · rw [List.filterMap_cons]
    cases (heap.getD 0 default).symbol? <;> rfl

theorem Joins.step {first second : Node} {heap next others joined : List Node}
    {result : Node × List Node} (before : heap.Perm (first :: second :: others))
    (after : next.Perm (first.parent second :: others))
    (joins : Joins next (second :: first :: joined) result) : Joins heap joined result where
  symbols := by
    refine joins.symbols.trans ((after.flatMap_right _).trans ?_)
    refine List.Perm.trans ?_ (before.flatMap_right _).symm
    simp only [List.flatMap_cons, Node.parent, Node.symbols, List.append_assoc]
    exact .refl _
  leaves := by
    refine joins.leaves.trans ?_
    -- The new node is an inner one, so the leaves among the two nodes are all that moves.
    have inner : (first.parent second).symbol? = none := rfl
    have taken : (next.filterMap Node.symbol?).Perm (others.filterMap Node.symbol?) := by
      have := after.filterMap Node.symbol?
      rwa [List.filterMap_cons_none inner] at this
    have given : (heap.filterMap Node.symbol?).Perm
        (([second, first].filterMap Node.symbol?) ++ others.filterMap Node.symbol?) := by
      rw [← List.filterMap_append]
      exact (before.trans (.swap second first others)).filterMap Node.symbol?
    have split : (second :: first :: joined).filterMap Node.symbol? =
        [second, first].filterMap Node.symbol? ++ joined.filterMap Node.symbol? := by
      rw [← List.filterMap_append]
      rfl
    rw [split]
    refine (taken.append_left _).trans (List.Perm.trans ?_ (given.append_left _).symm)
    rw [← List.append_assoc]
    exact List.perm_append_comm.append_right _

theorem joins_joinAll {heap : Array Node} {joined : List Node} {steps : Nat}
    (positive : 0 < heap.size) (enough : heap.size ≤ steps + 1) :
    Joins heap.toList joined (joinAll heap joined steps) := by
  induction steps generalizing heap joined with
  | zero => exact .single positive (by omega) joined
  | succ steps ih =>
    rw [joinAll]
    by_cases one : heap.size < 2
    · rw [if_pos one]
      exact .single positive one joined
    · rw [if_neg one]
      obtain ⟨sized, others, before, after⟩ := join_step (Nat.not_lt.1 one)
      exact .step before after (ih (by omega) (by omega))

/-! ### The depths -/

/-- How many words of length `limit` begin with words of these lengths. -/
def taken (limit : Nat) (lengths : List Nat) : Nat :=
  (lengths.map fun length => 2 ^ (limit - length)).sum

theorem taken_append (limit : Nat) (front back : List Nat) :
    taken limit (front ++ back) = taken limit front + taken limit back := by
  rw [taken, List.map_append, List.sum_append, taken, taken]

namespace Node

/-- The depths of the leaves, deeper leaves counted at the limit. -/
def clipped (limit depth : Nat) (node : Node) : List Nat :=
  (node.leaves depth).map fun entry => min limit entry.2

/-- How many nodes, inner ones included, are deeper than the limit. -/
def excess (limit depth : Nat) (node : Node) : Nat :=
  ((node.depths depth).filter fun entry => limit < entry.1).length

variable {limit depth : Nat}

theorem clipped_join {weight height : Nat} {first second : Node} :
    (join weight height first second).clipped limit depth =
      first.clipped limit (depth + 1) ++ second.clipped limit (depth + 1) := by
  rw [clipped, leaves, List.map_append]
  rfl

theorem excess_join {weight height : Nat} {first second : Node} :
    (join weight height first second).excess limit depth =
      (if limit < depth then 1 else 0) +
        (first.excess limit (depth + 1) + second.excess limit (depth + 1)) := by
  rw [excess, depths, List.filter_append, List.length_append, List.filter_cons]
  simp only [decide_eq_true_eq]
  split
  · rw [List.length_cons, Nat.add_comm _ 1, Nat.add_assoc]
    rfl
  · rw [Nat.zero_add]
    rfl

theorem map_fst_filter_depths (node : Node) :
    ((node.depths depth).filter Prod.snd).map Prod.fst = (node.leaves depth).map Prod.snd := by
  induction node generalizing depth with
  | leaf => rfl
  | join weight height first second firstIh secondIh =>
    rw [depths, leaves, List.filter_append, List.map_append, List.map_append, ← firstIh, ← secondIh]
    rfl

theorem le_depth_of_mem_leaves {node : Node} {entry : Nat × Nat} (member : entry ∈ node.leaves depth) :
    depth ≤ entry.2 := by
  induction node generalizing depth with
  | leaf =>
    rw [leaves, List.mem_singleton] at member
    exact member ▸ Nat.le_refl depth
  | join weight height first second firstIh secondIh =>
    rw [leaves] at member
    rcases List.mem_append.1 member with inFirst | inSecond
    · exact Nat.le_of_succ_le (firstIh inFirst)
    · exact Nat.le_of_succ_le (secondIh inSecond)

/-- Below the limit all leaves count at the limit. -/
theorem clipped_of_lt (node : Node) (below : limit < depth) :
    node.clipped limit depth = List.replicate (node.leaves depth).length limit := by
  rw [clipped, List.eq_replicate_iff, List.length_map]
  refine ⟨rfl, fun length member => ?_⟩
  obtain ⟨entry, inLeaves, rfl⟩ := List.mem_map.1 member
  have := le_depth_of_mem_leaves inLeaves
  omega

theorem excess_of_lt (node : Node) (below : limit < depth) :
    node.excess limit depth + 1 = 2 * (node.leaves depth).length := by
  induction node generalizing depth with
  | leaf => simp [excess, depths, leaves, below]
  | join weight height first second firstIh secondIh =>
    have below' : limit < depth + 1 := Nat.lt_succ_of_lt below
    have first := firstIh below'
    have second := secondIh below'
    rw [excess_join, if_pos below, leaves, List.length_append]
    omega

/-- What the leaves take up beyond the words there are is half of what lies below the limit. -/
theorem two_mul_taken_clipped (node : Node) (above : depth ≤ limit) :
    2 * taken limit (node.clipped limit depth) =
      2 * 2 ^ (limit - depth) + node.excess limit depth := by
  induction node generalizing depth with
  | leaf =>
    have none : ¬ limit < depth := Nat.not_lt.2 above
    simp [taken, clipped, leaves, excess, depths, none, Nat.min_eq_right above]
  | join weight height first second firstIh secondIh =>
    rw [clipped_join, taken_append, excess_join, if_neg (Nat.not_lt.2 above)]
    rcases Nat.eq_or_lt_of_le above with rfl | inner
    · -- At the limit itself the leaves are all the words there are, and all other nodes are below.
      have sums (node : Node) : 2 * taken depth (node.clipped depth (depth + 1)) =
          node.excess depth (depth + 1) + 1 := by
        rw [clipped_of_lt node (Nat.lt_succ_self depth), excess_of_lt node (Nat.lt_succ_self depth)]
        simp [taken]
      rw [Nat.mul_add, sums, sums, Nat.sub_self]
      omega
    · have inner' : depth + 1 ≤ limit := inner
      have first := firstIh inner'
      have second := secondIh inner'
      have double : 2 ^ (limit - depth) = 2 * 2 ^ (limit - (depth + 1)) := by
        rw [← Nat.pow_succ']
        congr 1
        omega
      omega

/-- There are leaves at the limit for what is too much. -/
theorem excess_le_count (node : Node) (above : depth ≤ limit) :
    node.excess limit depth ≤ 2 * (node.clipped limit depth).count limit := by
  induction node generalizing depth with
  | leaf =>
    have none : ¬ limit < depth := Nat.not_lt.2 above
    simp [excess, depths, none]
  | join weight height first second firstIh secondIh =>
    rw [clipped_join, List.count_append, excess_join, if_neg (Nat.not_lt.2 above)]
    rcases Nat.eq_or_lt_of_le above with rfl | inner
    · have counts (node : Node) : node.excess depth (depth + 1) + 1 =
          2 * (node.clipped depth (depth + 1)).count depth := by
        rw [clipped_of_lt node (Nat.lt_succ_self depth), excess_of_lt node (Nat.lt_succ_self depth),
          List.count_replicate_self]
      have := counts first
      have := counts second
      omega
    · have inner' : depth + 1 ≤ limit := inner
      have := firstIh inner'
      have := secondIh inner'
      omega

theorem le_of_excess_eq_zero {node : Node} (none : node.excess limit depth = 0) {entry : Nat × Nat}
    (member : entry ∈ node.leaves depth) : entry.2 ≤ limit := by
  have listed : entry.2 ∈ ((node.depths depth).filter Prod.snd).map Prod.fst := by
    rw [map_fst_filter_depths]
    exact List.mem_map_of_mem member
  obtain ⟨place, inDepths, same⟩ := List.mem_map.1 listed
  have kept := List.filter_eq_nil_iff.1 (List.length_eq_zero_iff.1 none) place
    (List.mem_filter.1 inDepths).1
  rw [decide_eq_true_eq, same] at kept
  exact Nat.not_lt.1 kept

end Node

end DiagramWeave.Deflate
