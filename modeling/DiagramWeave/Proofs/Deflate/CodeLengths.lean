import DiagramWeave.Proofs.Deflate.Canonical
import DiagramWeave.Proofs.Deflate.Tree

/-!
# Code lengths make complete codes

The lengths that are dealt out to the symbols of a block use up every word, none is beyond the limit, and every symbol that
occurs has one. Without leaves below the limit the depths of the tree are such lengths. Otherwise the counted lengths
use up too much, and each step of the raising takes one word back: the leaf that moves down makes room for two, of which
it takes one and a leaf from the limit the other.

The raising never runs out of leaves. If all leaves were at the limit there would be fewer of them than words, and then nothing
would be used up too much.
-/
namespace DiagramWeave.Deflate

/-! ### Counting -/

/-- The counts tell how often each length occurs; lengths beyond the limit do not. -/
structure Counts (limit : Nat) (counts : Array Nat) (lengths : List Nat) : Prop where
  size : counts.size = limit + 1
  count : ∀ length, counts.getD length 0 = lengths.count length

namespace Counts

variable {limit : Nat} {counts : Array Nat} {lengths others : List Nat}

theorem perm (held : Counts limit counts lengths) (same : lengths.Perm others) :
    Counts limit counts others :=
  ⟨held.size, fun length => by rw [held.count, same.count_eq]⟩

theorem le_limit (held : Counts limit counts lengths) {length : Nat} (member : length ∈ lengths) :
    length ≤ limit := by
  by_contra beyond
  have none := held.count length
  rw [Array.getD_eq_getD_getElem?, Array.getElem?_eq_none (by rw [held.size]; omega)] at none
  exact (List.count_pos_iff.2 member).ne none

theorem mem_of_ne_zero (held : Counts limit counts lengths) {length : Nat}
    (occurs : counts.getD length 0 ≠ 0) : length ∈ lengths := by
  rw [held.count] at occurs
  exact List.count_pos_iff.1 (Nat.pos_of_ne_zero occurs)

theorem add (held : Counts limit counts lengths) {length : Nat} (bounded : length ≤ limit) :
    Counts limit (counts.modify length (· + 1)) (length :: lengths) := by
  refine ⟨by rw [Array.size_modify, held.size], fun other => ?_⟩
  rw [List.count_cons, ← held.count]
  by_cases inside : other < counts.size
  · rw [getD_modify _ inside]
    split <;> simp_all
  · have apart : ¬ length = other := by
      rw [held.size] at inside
      omega
    simp [Array.getD, inside, apart]

end Counts

theorem counts_countLengths (limit : Nat) (depths : List (Nat × Bool)) :
    Counts limit (countLengths limit depths)
      ((depths.filter Prod.snd).map fun entry => min limit entry.1) := by
  have counted (depths : List (Nat × Bool)) {counts : Array Nat} {lengths : List Nat}
      (held : Counts limit counts lengths) :
      Counts limit (depths.foldl (fun counts entry =>
        if entry.2 then counts.modify (min limit entry.1) (· + 1) else counts) counts)
        ((depths.filter Prod.snd).map (fun entry => min limit entry.1) ++ lengths) := by
    induction depths generalizing counts lengths with
    | nil => exact held
    | cons entry depths ih =>
      obtain ⟨depth, isLeaf⟩ := entry
      cases isLeaf with
      | false => exact ih held
      | true =>
        exact (ih (held.add (Nat.min_le_left limit depth))).perm List.perm_middle
  have none : Counts limit (Array.replicate (limit + 1) 0) [] :=
    ⟨Array.size_replicate, fun length => by simp [Array.getD]⟩
  have all := counted depths none
  rwa [List.append_nil] at all

/-! ### Raising -/

theorem lowest_spec {counts : Array Nat} {limit : Nat}
    (some : ∃ length < limit, counts.getD length 0 ≠ 0) :
    lowest counts limit < limit ∧ counts.getD (lowest counts limit) 0 ≠ 0 := by
  induction limit with
  | zero =>
    obtain ⟨_, below, _⟩ := some
    cases below
  | succ limit ih =>
    rw [lowest]
    by_cases none : counts.getD limit 0 = 0
    · rw [none, beq_self_eq_true, if_pos rfl]
      obtain ⟨length, below, occurs⟩ := some
      rcases Nat.eq_or_lt_of_le (Nat.le_of_lt_succ below) with rfl | earlier
      · exact absurd none occurs
      · obtain ⟨less, occurs⟩ := ih ⟨length, earlier, occurs⟩
        exact ⟨Nat.lt_succ_of_lt less, occurs⟩
    · rw [if_neg (by simpa using none)]
      exact ⟨Nat.lt_succ_self limit, none⟩

/-- A leaf moves down one level and takes a leaf from the limit as its sibling. -/
theorem Counts.raise_step {limit above : Nat} {counts : Array Nat} {others : List Nat}
    (held : Counts limit counts (above :: limit :: others)) (below : above < limit) :
    Counts limit
      (((counts.modify above (· - 1)).modify (above + 1) (· + 2)).modify limit (· - 1))
      ((above + 1) :: (above + 1) :: others) := by
  refine ⟨by simp only [Array.size_modify, held.size], fun length => ?_⟩
  have before := held.count length
  simp only [List.count_cons, beq_iff_eq] at before ⊢
  by_cases inside : length < counts.size
  · rw [getD_modify _ (by simpa only [Array.size_modify]), getD_modify _ (by simpa only [Array.size_modify]),
      getD_modify _ inside, before]
    split_ifs <;> omega
  · -- No count is kept beyond the limit, and none of the lengths is there.
    have outside : limit < length := by
      rw [held.size] at inside
      omega
    have none : ∀ changed : Array Nat, changed.size = counts.size → changed.getD length 0 = 0 := by
      intro changed same
      simp [Array.getD, same, inside]
    rw [none _ (by simp only [Array.size_modify])]
    rw [none _ rfl] at before
    split_ifs at before ⊢ <;> omega

theorem taken_cons (limit length : Nat) (lengths : List Nat) :
    taken limit (length :: lengths) = 2 ^ (limit - length) + taken limit lengths := by
  rw [taken, List.map_cons, List.sum_cons, taken]

theorem taken_perm {lengths others : List Nat} (same : lengths.Perm others) (limit : Nat) :
    taken limit lengths = taken limit others :=
  (same.map _).sum_eq

/-- Too few leaves to use up too much cannot all be at the limit. -/
theorem Counts.exists_lt_limit {limit : Nat} {counts : Array Nat} {lengths : List Nat}
    (held : Counts limit counts lengths) (few : lengths.length < 2 ^ limit)
    (used : 2 ^ limit ≤ taken limit lengths) : ∃ length < limit, counts.getD length 0 ≠ 0 := by
  by_contra none
  -- At the limit a leaf takes up one word.
  have deep : ∀ length ∈ lengths, 2 ^ (limit - length) = 1 := by
    intro length member
    have bounded := held.le_limit member
    have : limit - length = 0 := by
      by_contra shallow
      refine none ⟨length, by omega, ?_⟩
      rw [held.count]
      exact (List.count_pos_iff.2 member).ne.symm
    rw [this, Nat.pow_zero]
  rw [taken, List.map_congr_left deep] at used
  simp only [List.map_const', List.sum_replicate_nat, Nat.mul_one] at used
  omega

/-- What holds while lengths are raised: they use up `more` words too much, and as many of them are at the limit. -/
structure Raising (limit more : Nat) (counts : Array Nat) (lengths : List Nat) : Prop where
  held : Counts limit counts lengths
  positive : ∀ length ∈ lengths, 0 < length
  used : taken limit lengths = 2 ^ limit + more
  deep : more ≤ lengths.count limit

/-- Each step takes one word back. -/
theorem Raising.step {limit more above : Nat} {counts : Array Nat} {lengths : List Nat}
    (raising : Raising limit (more + 1) counts lengths) (below : above < limit)
    (occurs : counts.getD above 0 ≠ 0) :
    ∃ raised, raised.length = lengths.length ∧ Raising limit more
      (((counts.modify above (· - 1)).modify (above + 1) (· + 2)).modify limit (· - 1)) raised := by
  obtain ⟨held, positive, used, deep⟩ := raising
  -- A leaf above the limit moves down, and one at the limit goes with it.
  have inLengths := held.mem_of_ne_zero occurs
  have atLimit : limit ∈ lengths.erase above := by
    rw [List.mem_erase_of_ne (Nat.ne_of_gt below)]
    exact List.count_pos_iff.1 (by omega)
  have same : lengths.Perm (above :: limit :: (lengths.erase above).erase limit) :=
    (List.perm_cons_erase inLengths).trans ((List.perm_cons_erase atLimit).cons above)
  generalize (lengths.erase above).erase limit = others at same
  have double : 2 ^ (limit - above) = 2 * 2 ^ (limit - (above + 1)) := by
    rw [← Nat.pow_succ']
    congr 1
    omega
  rw [taken_perm same, taken_cons, taken_cons, double, Nat.sub_self, Nat.pow_zero] at used
  rw [same.count_eq, List.count_cons_of_ne (Nat.ne_of_lt below), List.count_cons_self] at deep
  refine ⟨(above + 1) :: (above + 1) :: others, same.length_eq.symm, ?_⟩
  exact {
    held := (held.perm same).raise_step below
    positive := by
      intro length member
      simp only [List.mem_cons] at member
      rcases member with rfl | rfl | member
      · exact Nat.succ_pos above
      · exact Nat.succ_pos above
      · exact positive length (same.mem_iff.2 (by simp [member]))
    used := by
      rw [taken_cons, taken_cons]
      omega
    deep := by
      simp only [List.count_cons]
      omega }

theorem Raising.run {limit more steps : Nat} {counts : Array Nat} {lengths : List Nat}
    (raising : Raising limit more counts lengths) (few : lengths.length < 2 ^ limit) (enough : more ≤ steps) :
    ∃ raised, raised.length = lengths.length ∧
      Raising limit 0 (raise limit counts (2 * more) steps) raised := by
  induction steps generalizing more counts lengths with
  | zero =>
    obtain rfl : more = 0 := Nat.le_zero.1 enough
    exact ⟨lengths, rfl, raising⟩
  | succ steps ih =>
    cases more with
    | zero => exact ⟨lengths, rfl, raising⟩
    | succ more =>
      have tooMuch : 2 ^ limit ≤ taken limit lengths := by
        rw [raising.used]
        exact Nat.le_add_right _ _
      obtain ⟨below, occurs⟩ := lowest_spec (raising.held.exists_lt_limit few tooMuch)
      obtain ⟨between, same, less⟩ := raising.step below occurs
      obtain ⟨raised, length, done⟩ := ih less (by rwa [same]) (Nat.le_of_succ_le_succ enough)
      rw [raise, if_neg (by omega)]
      exact ⟨raised, length.trans same, done⟩

/-! ### Dealing the lengths out -/

theorem count_longestFirst (counts : Array Nat) (limit length : Nat) :
    (longestFirst counts limit).count length =
      if 0 < length ∧ length ≤ limit then counts.getD length 0 else 0 := by
  induction limit with
  | zero =>
    rw [if_neg (by omega)]
    rfl
  | succ limit ih =>
    rw [longestFirst, List.count_append, ih, List.count_replicate]
    simp only [beq_iff_eq]
    split_ifs with same <;> first | omega | (subst same; omega)

theorem longestFirst_perm {limit : Nat} {counts : Array Nat} {lengths : List Nat}
    (held : Counts limit counts lengths) (positive : ∀ length ∈ lengths, 0 < length) :
    (longestFirst counts limit).Perm lengths := by
  rw [List.perm_iff_count]
  intro length
  rw [count_longestFirst, held.count]
  split
  · rfl
  · next beyond =>
    symm
    rw [List.count_eq_zero]
    exact fun member => beyond ⟨positive length member, held.le_limit member⟩

/-- Every symbol gets one length, and the lengths use up all words of length `limit`. -/
structure Assigns (limit : Nat) (symbols : List Nat) (assigned : List (Nat × Nat)) : Prop where
  symbols : (assigned.map Prod.fst).Perm symbols
  positive : ∀ length ∈ assigned.map Prod.snd, 0 < length
  bounded : ∀ length ∈ assigned.map Prod.snd, length ≤ limit
  complete : taken limit (assigned.map Prod.snd) = 2 ^ limit

/-- The lengths of the leaves of a tree, whose nodes were joined in the given order. -/
def dealOut (limit : Nat) (result : Node × List Node) : List (Nat × Nat) :=
  let excess := result.1.excess limit 0
  if excess = 0 then result.1.leaves 0
  else
    let counts := raise limit (countLengths limit (result.1.depths 0)) excess excess
    (result.2.reverse.filterMap Node.symbol?).zip (longestFirst counts limit)

theorem Node.exists_join {root : Node} (two : 2 ≤ root.symbols.length) :
    ∃ weight height first second, root = join weight height first second := by
  cases root with
  | leaf => simp [symbols] at two
  | join weight height first second => exact ⟨weight, height, first, second, rfl⟩

theorem Node.zero_lt_depth {weight height : Nat} {first second : Node} {entry : Nat × Nat}
    (member : entry ∈ (join weight height first second).leaves 0) : 0 < entry.2 := by
  rw [leaves] at member
  rcases List.mem_append.1 member with inFirst | inSecond
  · exact le_depth_of_mem_leaves inFirst
  · exact le_depth_of_mem_leaves inSecond

theorem Node.length_clipped (root : Node) (limit : Nat) :
    (root.clipped limit 0).length = root.symbols.length := by
  rw [clipped, List.length_map, ← map_fst_leaves root 0, List.length_map]

/-- Where no leaf is too deep, the depths are the lengths. -/
theorem assigns_leaves {limit : Nat} {root : Node} (depth : ∀ entry ∈ root.leaves 0, 0 < entry.2)
    (none : root.excess limit 0 = 0) : Assigns limit root.symbols (root.leaves 0) := by
  have bounded : ∀ entry ∈ root.leaves 0, entry.2 ≤ limit := fun entry =>
    Node.le_of_excess_eq_zero none
  have unclipped : root.clipped limit 0 = (root.leaves 0).map Prod.snd :=
    List.map_congr_left fun entry member => Nat.min_eq_right (bounded entry member)
  have sums := root.two_mul_taken_clipped (Nat.zero_le limit)
  rw [none, Nat.sub_zero, unclipped] at sums
  refine ⟨?_, ?_, ?_, ?_⟩
  · rw [Node.map_fst_leaves]
  · simpa using fun length symbol member => depth (symbol, length) member
  · simpa using fun length symbol member => bounded (symbol, length) member
  · omega

/-- Otherwise the counted lengths are raised until they use up exactly what there is. -/
theorem exists_raised {limit : Nat} {root : Node} (depth : ∀ entry ∈ root.leaves 0, 0 < entry.2)
    (two : 2 ≤ root.symbols.length) (few : root.symbols.length < 2 ^ limit) :
    ∃ raised, Counts limit (raise limit (countLengths limit (root.depths 0)) (root.excess limit 0)
        (root.excess limit 0)) raised ∧
      (∀ length ∈ raised, 0 < length) ∧ taken limit raised = 2 ^ limit ∧
      raised.length = root.symbols.length := by
  have positive : ∀ length ∈ root.clipped limit 0, 0 < length := by
    intro length member
    obtain ⟨entry, inLeaves, rfl⟩ := List.mem_map.1 member
    have : limit ≠ 0 := by
      rintro rfl
      omega
    exact Nat.lt_min.2 ⟨Nat.pos_of_ne_zero this, depth entry inLeaves⟩
  have held : Counts limit (countLengths limit (root.depths 0)) (root.clipped limit 0) := by
    have counted := counts_countLengths limit (root.depths 0)
    rwa [← Function.comp_def, ← List.map_map, Node.map_fst_filter_depths, List.map_map] at counted
  have sums := root.two_mul_taken_clipped (Nat.zero_le limit)
  rw [Nat.sub_zero] at sums
  have deep := root.excess_le_count (Nat.zero_le limit)
  -- One step of the raising takes back two nodes that are too deep.
  obtain ⟨more, half⟩ : ∃ more, root.excess limit 0 = 2 * more :=
    ⟨taken limit (root.clipped limit 0) - 2 ^ limit, by omega⟩
  have raising : Raising limit more (countLengths limit (root.depths 0)) (root.clipped limit 0) :=
    ⟨held, positive, by omega, by omega⟩
  obtain ⟨raised, same, done⟩ := raising.run (by rwa [root.length_clipped])
    (by omega : more ≤ root.excess limit 0)
  rw [← half] at done
  exact ⟨raised, done.held, done.positive, done.used, same.trans (root.length_clipped limit)⟩

theorem assigns_zip {limit : Nat} {counts : Array Nat} {symbols leaves raised : List Nat}
    (listed : leaves.Perm symbols) (held : Counts limit counts raised)
    (positive : ∀ length ∈ raised, 0 < length) (complete : taken limit raised = 2 ^ limit)
    (same : raised.length = symbols.length) :
    Assigns limit symbols (leaves.zip (longestFirst counts limit)) := by
  have dealt := longestFirst_perm held positive
  have sized : leaves.length = (longestFirst counts limit).length := by
    rw [listed.length_eq, dealt.length_eq, same]
  refine ⟨?_, ?_, ?_, ?_⟩
  · rw [List.map_fst_zip (Nat.le_of_eq sized)]
    exact listed
  · rw [List.map_snd_zip (Nat.le_of_eq sized.symm)]
    exact fun length member => positive length (dealt.mem_iff.1 member)
  · rw [List.map_snd_zip (Nat.le_of_eq sized.symm)]
    exact fun length member => held.le_limit (dealt.mem_iff.1 member)
  · rw [List.map_snd_zip (Nat.le_of_eq sized.symm), taken_perm dealt, complete]

theorem Assigns.perm {limit : Nat} {symbols others : List Nat} {assigned : List (Nat × Nat)}
    (assigns : Assigns limit symbols assigned) (same : symbols.Perm others) :
    Assigns limit others assigned :=
  { assigns with symbols := assigns.symbols.trans same }

theorem assigns_dealOut {limit : Nat} {symbols : List Nat} {result : Node × List Node}
    (ofTree : result.1.symbols.Perm symbols)
    (ofJoined : (result.2.filterMap Node.symbol? ++ result.1.symbol?.toList).Perm symbols)
    (two : 2 ≤ symbols.length) (few : symbols.length < 2 ^ limit) :
    Assigns limit symbols (dealOut limit result) := by
  obtain ⟨root, joined⟩ := result
  rw [← ofTree.length_eq] at two few
  obtain ⟨weight, height, first, second, inner⟩ : ∃ weight height first second,
      root = .join weight height first second := Node.exists_join two
  have depth : ∀ entry ∈ root.leaves 0, 0 < entry.2 := inner ▸ fun entry => Node.zero_lt_depth
  rw [dealOut]
  by_cases none : root.excess limit 0 = 0
  · rw [if_pos none]
    exact (assigns_leaves depth none).perm ofTree
  · rw [if_neg none]
    obtain ⟨raised, held, positive, complete, same⟩ := exists_raised depth two few
    have listed : (joined.reverse.filterMap Node.symbol?).Perm symbols := by
      -- The root is an inner node, so all leaves were joined before.
      rw [inner, Node.symbol?, Option.toList_none, List.append_nil] at ofJoined
      exact (joined.reverse_perm.filterMap _).trans ofJoined
    exact assigns_zip listed held positive complete (same.trans ofTree.length_eq)

/-! ### The symbols that get a length -/

theorem mem_usedSymbols {weights : List Nat} {symbol : Nat} :
    symbol ∈ (usedSymbols weights).map Prod.fst ↔ weights.getD symbol 0 ≠ 0 := by
  simp only [usedSymbols, List.map_map, List.mem_map, List.mem_filter, bne_iff_ne, Prod.exists,
    Function.comp_apply, List.mem_zipIdx_iff_getElem?]
  constructor
  · rintro ⟨weight, place, ⟨found, occurs⟩, rfl⟩
    rwa [List.getD_eq_getElem?_getD, found]
  · intro occurs
    rw [List.getD_eq_getElem?_getD] at occurs
    cases found : weights[symbol]? with
    | none => simp [found] at occurs
    | some weight =>
      rw [found] at occurs
      exact ⟨weight, symbol, ⟨found, occurs⟩, rfl⟩

theorem nodup_usedSymbols (weights : List Nat) : ((usedSymbols weights).map Prod.fst).Nodup := by
  have places : (weights.zipIdx.map Prod.snd).Nodup := by
    rw [List.zipIdx_map_snd]
    exact List.nodup_range'
  rw [usedSymbols, List.map_map]
  exact (List.filter_sublist.map Prod.snd).nodup places

/-- What filling up adds: two symbols at least, all of them distinct, and none beyond the third that was
    not there before. -/
theorem atLeastTwo_spec {used : List (Nat × Nat)} (distinct : (used.map Prod.fst).Nodup) :
    2 ≤ (atLeastTwo used).length ∧ ((atLeastTwo used).map Prod.fst).Nodup ∧
      (∀ symbol ∈ used.map Prod.fst, symbol ∈ (atLeastTwo used).map Prod.fst) ∧
      ∀ symbol ∈ (atLeastTwo used).map Prod.fst, symbol ∈ used.map Prod.fst ∨ symbol < 3 := by
  match used, distinct with
  | [], _ => simp [atLeastTwo]
  | [(symbol, weight)], _ =>
    simp only [atLeastTwo]
    split <;> simp <;> omega
  | first :: second :: others, distinct =>
    exact ⟨by simp [atLeastTwo], distinct, fun _ member => member, fun _ member => .inl member⟩

/-! ### The list of lengths -/

/-- The lengths at the places of their symbols. -/
def place (lengths : Array Nat) (assigned : List (Nat × Nat)) : Array Nat :=
  assigned.foldl (fun lengths entry => lengths.setIfInBounds entry.1 entry.2) lengths

theorem filter_set_perm {lengths : List Nat} {symbol length : Nat} (inside : symbol < lengths.length)
    (vacant : lengths[symbol] = 0) (positive : 0 < length) :
    ((lengths.set symbol length).filter (· != 0)).Perm (length :: lengths.filter (· != 0)) := by
  have before := (List.getElem_cons_eraseIdx_perm inside).filter (· != 0)
  have after := (List.set_perm_cons_eraseIdx inside length).filter (· != 0)
  rw [vacant, List.filter_cons_of_neg (by simp)] at before
  rw [List.filter_cons_of_pos (by simpa using Nat.ne_of_gt positive)] at after
  exact after.trans (before.cons length)

theorem place_spec {lengths : Array Nat} {assigned : List (Nat × Nat)}
    (distinct : (assigned.map Prod.fst).Nodup)
    (vacant : ∀ symbol ∈ assigned.map Prod.fst, lengths[symbol]? = some 0)
    (positive : ∀ length ∈ assigned.map Prod.snd, 0 < length) :
    (place lengths assigned).size = lengths.size ∧
      ((place lengths assigned).toList.filter (· != 0)).Perm
        (assigned.map Prod.snd ++ lengths.toList.filter (· != 0)) ∧
      ∀ symbol, symbol ∈ assigned.map Prod.fst ∨ lengths.getD symbol 0 ≠ 0 →
        (place lengths assigned).getD symbol 0 ≠ 0 := by
  induction assigned generalizing lengths with
  | nil => exact ⟨rfl, .refl _, fun symbol occurs => occurs.resolve_left List.not_mem_nil⟩
  | cons entry assigned ih =>
    obtain ⟨symbol, length⟩ := entry
    obtain ⟨fresh, distinct⟩ := List.nodup_cons.1 distinct
    obtain ⟨empty, vacant⟩ := List.forall_mem_cons.1 vacant
    obtain ⟨some, positive⟩ := List.forall_mem_cons.1 positive
    obtain ⟨inside, zero⟩ := Array.getElem?_eq_some_iff.1 empty
    -- The symbols are distinct, so the places of the others are still vacant.
    have apart : ∀ other ∈ assigned.map Prod.fst, symbol ≠ other := by
      rintro other member rfl
      exact fresh member
    obtain ⟨size, perm, occurs⟩ := @ih (lengths.setIfInBounds symbol length) distinct
      (fun other member => by
        rw [Array.getElem?_setIfInBounds_ne (apart other member), vacant other member]) positive
    refine ⟨size.trans Array.size_setIfInBounds, ?_, ?_⟩
    · rw [Array.toList_setIfInBounds] at perm
      refine perm.trans (((filter_set_perm (by simpa using inside) ?_ some).append_left _).trans ?_)
      · rw [Array.getElem_toList, zero]
      · exact List.perm_middle
    · intro other holds
      refine occurs other ?_
      rw [List.map_cons, List.mem_cons] at holds
      by_cases same : other = symbol
      · right
        rw [same, ← Array.getElem_eq_getD (h := by simpa using inside), Array.getElem_setIfInBounds_self]
        exact Nat.ne_of_gt some
      · rcases holds with (here | later) | before
        · exact absurd here same
        · exact .inl later
        · right
          rw [Array.getD_eq_getD_getElem?, Array.getElem?_setIfInBounds_ne (Ne.symm same),
            ← Array.getD_eq_getD_getElem?]
          exact before

theorem foldl_max_lt {used : List (Nat × Nat)} {start bound : Nat} :
    used.foldl (fun greatest entry => max greatest entry.1) start < bound ↔
      start < bound ∧ ∀ symbol ∈ used.map Prod.fst, symbol < bound := by
  induction used generalizing start with
  | nil => simp
  | cons entry used ih =>
    rw [List.foldl_cons, ih, Nat.max_lt, List.map_cons, List.forall_mem_cons, and_assoc]

/-- Lengths that make a complete code for the symbols that occur, none of them beyond the limit. -/
structure CompleteCode (limit : Nat) (weights lengths : List Nat) : Prop where
  size : lengths.length ≤ weights.length
  bounded : ∀ length ∈ lengths, length ≤ limit
  complete : taken limit (lengths.filter (· != 0)) = 2 ^ limit
  occurs : ∀ symbol, weights.getD symbol 0 ≠ 0 → 0 < lengths.getD symbol 0

theorem codeLengths_eq (limit : Nat) (weights : List Nat) :
    let used := atLeastTwo (usedSymbols weights)
    let heap := (used.map fun entry => Node.leaf entry.1 entry.2).toArray
    codeLengths limit weights =
      (place (Array.replicate (used.foldl (fun greatest entry => max greatest entry.1) 0 + 1) 0)
        (dealOut limit (joinAll (heapify heap (heap.size / 2)) [] heap.size))).toList :=
  rfl

theorem assigns_joinAll {limit : Nat} {used : List (Nat × Nat)} (two : 2 ≤ used.length)
    (few : used.length < 2 ^ limit) :
    let heap := (used.map fun entry => Node.leaf entry.1 entry.2).toArray
    Assigns limit (used.map Prod.fst)
      (dealOut limit (joinAll (heapify heap (heap.size / 2)) [] heap.size)) := by
  intro heap
  have size : heap.size = used.length := by simp [heap]
  have sifted : (heapify heap (heap.size / 2)).toList.Perm heap.toList :=
    heapify_perm (Nat.div_le_self _ _)
  have same : (heapify heap (heap.size / 2)).size = heap.size := sifted.length_eq
  have joins : Joins (heapify heap (heap.size / 2)).toList [] (joinAll _ [] heap.size) :=
    joins_joinAll (by omega) (by omega)
  -- At the start every node is a leaf.
  have symbols : heap.toList.flatMap Node.symbols = used.map Prod.fst := by
    simp only [heap, List.flatMap_map, Node.symbols]
    exact List.flatMap_pure_eq_map Prod.fst used
  have leaves : heap.toList.filterMap Node.symbol? = used.map Prod.fst := by
    simp only [heap, List.filterMap_map, Function.comp_def, Node.symbol?]
    exact congrFun (List.filterMap_eq_map (f := Prod.fst)) used
  refine assigns_dealOut ?_ ?_ (by rwa [List.length_map]) (by rwa [List.length_map])
  · rw [← symbols]
    exact joins.symbols.trans (sifted.flatMap_right _)
  · rw [← leaves]
    exact joins.leaves.trans (sifted.filterMap _)

/-- The symbols that get a length are those that occur and perhaps two more, and all lie in the alphabet. -/
theorem filled_spec {weights : List Nat} (three : 3 ≤ weights.length) :
    let used := atLeastTwo (usedSymbols weights)
    2 ≤ used.length ∧ used.length ≤ weights.length ∧ (used.map Prod.fst).Nodup ∧
      (∀ symbol ∈ used.map Prod.fst, symbol < weights.length) ∧
      ∀ symbol, weights.getD symbol 0 ≠ 0 → symbol ∈ used.map Prod.fst := by
  intro used
  obtain ⟨two, distinct, kept, added⟩ := atLeastTwo_spec (nodup_usedSymbols weights)
  have below : ∀ symbol ∈ used.map Prod.fst, symbol < weights.length := by
    intro symbol member
    rcases added symbol member with before | small
    · rw [mem_usedSymbols] at before
      by_contra beyond
      exact before (List.getD_eq_default _ _ (Nat.not_lt.1 beyond))
    · omega
  have inside : (used.map Prod.fst).length ≤ weights.length := by
    have listed : used.map Prod.fst ⊆ List.range weights.length :=
      fun symbol member => List.mem_range.2 (below symbol member)
    simpa only [List.length_range] using (List.subperm_of_subset distinct listed).length_le
  rw [List.length_map] at inside
  exact ⟨two, inside, distinct, below, fun symbol occurs => kept symbol (mem_usedSymbols.2 occurs)⟩

/-- The lengths dealt out to an alphabet make a complete code. -/
theorem codeLengths_complete {limit : Nat} {weights : List Nat} (three : 3 ≤ weights.length)
    (few : weights.length < 2 ^ limit) : CompleteCode limit weights (codeLengths limit weights) := by
  obtain ⟨two, inside, distinct, below, occurring⟩ := filled_spec three
  rw [codeLengths_eq]
  generalize atLeastTwo (usedSymbols weights) = used at two distinct below inside occurring ⊢
  have assigns : Assigns limit (used.map Prod.fst) (dealOut limit _) :=
    assigns_joinAll two (Nat.lt_of_le_of_lt inside few)
  generalize dealOut limit (joinAll _ _ _) = assigned at assigns ⊢
  -- The list is as long as the greatest symbol asks for.
  have greatest := foldl_max_lt.1 (Nat.lt_succ_self
    (used.foldl (fun greatest entry => max greatest entry.1) 0))
  have sized : used.foldl (fun greatest entry => max greatest entry.1) 0 < weights.length :=
    foldl_max_lt.2 ⟨by omega, below⟩
  generalize used.foldl (fun greatest entry => max greatest entry.1) 0 = last at greatest sized ⊢
  have vacant : ∀ symbol ∈ assigned.map Prod.fst, (Array.replicate (last + 1) 0)[symbol]? = some 0 := by
    intro symbol member
    rw [Array.getElem?_replicate, if_pos (greatest.2 symbol (assigns.symbols.mem_iff.1 member))]
  obtain ⟨size, perm, placed⟩ :=
    place_spec (assigns.symbols.nodup_iff.2 distinct) vacant assigns.positive
  have none : (Array.replicate (last + 1) 0).toList.filter (· != 0) = [] := by
    rw [Array.toList_replicate, List.filter_replicate_of_neg (by simp)]
  rw [none, List.append_nil] at perm
  refine ⟨?_, ?_, ?_, ?_⟩
  · rw [Array.length_toList, size, Array.size_replicate]
    exact sized
  · intro length member
    by_cases zero : length = 0
    · rw [zero]
      exact Nat.zero_le limit
    · exact assigns.bounded length (perm.mem_iff.1 (List.mem_filter.2 ⟨member, by simpa using zero⟩))
  · rw [taken_perm perm, assigns.complete]
  · intro symbol occurs
    have member := assigns.symbols.mem_iff.2 (occurring symbol occurs)
    have some := placed symbol (.inl member)
    rw [List.getD_eq_getElem?_getD, Array.getElem?_toList, ← Array.getD_eq_getD_getElem?]
    exact Nat.pos_of_ne_zero some

end DiagramWeave.Deflate
