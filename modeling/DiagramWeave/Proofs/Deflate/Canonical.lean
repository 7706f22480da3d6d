import DiagramWeave.Deflate.Code
import DiagramWeave.Proofs.Deflate.Bits
import Mathlib.Algebra.Order.BigOperators.Group.List
import Mathlib.Algebra.Order.Ring.Nat
import Mathlib.Data.List.GetD
import Mathlib.Data.List.Induction
import Mathlib.Tactic.Ring

/-!
# Reading canonical codes

The reader of a code knows the lengths of its words alone. It reads back every word that is handed out for these lengths,
provided that the words do not use up more than there is.

Words of one length are consecutive numbers, and the least word of a length lies above all extensions of shorter words. So
while a word is being read, the bits so far make up a number that is too great for a shorter word, and at its full
length the number is its place among the words of that length.
-/
namespace DiagramWeave.Deflate

open Inflate (share usage owners longest readSymbol? readSymbolFrom?)

/-! ### Numbers of words -/

/-- The least word of a length, as a number. -/
def firstNumber (lengths : List Nat) : Nat → Nat
  | 0 => 0
  | 1 => 0
  | length + 2 => 2 * (firstNumber lengths (length + 1) + lengths.count (length + 1))

/-- The word of a symbol, as a number. -/
def wordNumber (lengths : List Nat) (symbol : Nat) : Nat :=
  firstNumber lengths (lengths.getD symbol 0) + (lengths.take symbol).count (lengths.getD symbol 0)

theorem firstNumber_succ {lengths : List Nat} {length : Nat} (positive : 0 < length) :
    firstNumber lengths (length + 1) = 2 * (firstNumber lengths length + lengths.count length) := by
  cases length with
  | zero => cases positive
  | succ length => rfl

theorem getElem?_firstNumbers {lengths : List Nat} {length : Nat} (positive : 0 < length)
    {steps place : Nat} (below : place < steps) :
    (firstNumbers lengths length (firstNumber lengths length) steps)[place]? =
      some (firstNumber lengths (length + place)) := by
  induction steps generalizing length place with
  | zero => cases below
  | succ steps ih =>
    rw [firstNumbers]
    cases place with
    | zero => rfl
    | succ place =>
      rw [List.getElem?_cons_succ, ← firstNumber_succ positive,
        ih (Nat.succ_pos length) (Nat.lt_of_succ_lt_succ below), Nat.succ_add_eq_add_succ]

theorem getD_modify {counts : Array Nat} {place other : Nat} (change : Nat → Nat)
    (inside : other < counts.size) :
    (counts.modify place change).getD other 0 =
      if place = other then change (counts.getD other 0) else counts.getD other 0 := by
  rw [← Array.getElem_eq_getD (h := by rwa [Array.size_modify]), Array.getElem_modify,
    ← Array.getElem_eq_getD (h := inside)]

theorem getD_assignWords {next : Array Nat} {lengths : List Nat} {symbol : Nat}
    (bounded : lengths.getD symbol 0 < next.size) :
    (assignWords next lengths).getD symbol [] =
      if lengths.getD symbol 0 = 0 then []
      else wordBits (lengths.getD symbol 0) (next.getD (lengths.getD symbol 0) 0 +
        (lengths.take symbol).count (lengths.getD symbol 0)) := by
  induction next, lengths using assignWords.induct generalizing symbol with
  | case1 next => rfl
  | case2 next lengths ih =>
    -- A symbol without a word takes no number from those that follow.
    cases symbol with
    | zero => rfl
    | succ symbol =>
      rw [List.getD_cons_succ] at bounded ⊢
      rw [assignWords, List.getD_cons_succ, ih bounded, List.take_succ_cons]
      split
      · rfl
      · next some => rw [List.count_cons_of_ne (Ne.symm some)]
  | case3 next length lengths positive ih =>
    rw [assignWords]
    · cases symbol with
      | zero =>
        rw [List.getD_cons_zero, List.getD_cons_zero, if_neg positive]
        rfl
      | succ symbol =>
        rw [List.getD_cons_succ] at bounded ⊢
        rw [List.getD_cons_succ, ih (by rwa [Array.size_modify]), List.take_succ_cons,
          List.count_cons]
        have moved : (next.modify length (· + 1)).getD (lengths.getD symbol 0) 0 =
            next.getD (lengths.getD symbol 0) 0 +
              if length == lengths.getD symbol 0 then 1 else 0 := by
          rw [getD_modify _ bounded]
          split <;> simp_all
        rw [moved, Nat.add_assoc, Nat.add_comm (List.count _ _)]
    · exact positive

theorem getD_canonicalWords {lengths : List Nat} {symbol : Nat}
    (positive : 0 < lengths.getD symbol 0) (bounded : lengths.getD symbol 0 ≤ longestWord) :
    (canonicalWords lengths).getD symbol [] =
      wordBits (lengths.getD symbol 0) (wordNumber lengths symbol) := by
  have numbers : (0 :: firstNumbers lengths 1 0 longestWord).toArray.getD (lengths.getD symbol 0) 0 =
      firstNumber lengths (lengths.getD symbol 0) := by
    obtain ⟨place, same⟩ := Nat.exists_eq_add_of_le' positive
    have found : (firstNumbers lengths 1 0 longestWord)[place]? = _ :=
      getElem?_firstNumbers Nat.one_pos (by omega)
    rw [Nat.add_comm 1] at found
    rw [same, Array.getD_eq_getD_getElem?, List.getElem?_toArray, List.getElem?_cons_succ, found]
    rfl
  have sized : (0 :: firstNumbers lengths 1 0 longestWord).toArray.size = longestWord + 1 := by
    simp [firstNumbers, longestWord]
  rw [canonicalWords, getD_assignWords (by rw [sized]; omega), if_neg (Nat.ne_of_gt positive), numbers]
  rfl

/-! ### Room for the words -/

theorem sum_share_filter (lengths : List Nat) (length : Nat) :
    ((lengths.filter (· ≤ length + 1)).map share).sum =
      ((lengths.filter (· ≤ length)).map share).sum +
        lengths.count (length + 1) * share (length + 1) := by
  induction lengths with
  | nil => simp
  | cons first lengths ih =>
    rw [List.filter_cons, List.filter_cons, List.count_cons]
    -- A shorter word counts on both sides, one of this length on the right alone, and a longer one nowhere.
    rcases Nat.lt_trichotomy first (length + 1) with less | rfl | greater
    · have below : first ≤ length := Nat.le_of_lt_succ less
      simp [below, Nat.le_of_lt less, Nat.ne_of_lt less, ih, Nat.add_assoc]
    · simp [ih, Nat.add_mul, Nat.add_assoc, Nat.add_comm]
    · have above : ¬ first ≤ length := by omega
      simp [above, Nat.not_le_of_lt greater, Nat.ne_of_gt greater, ih]

theorem firstNumber_add_count {lengths : List Nat} {length : Nat} (positive : 0 < length)
    (bounded : length ≤ longest) :
    (firstNumber lengths length + lengths.count length) * 2 ^ (longest - length) =
      ((lengths.filter (· ≤ length)).map share).sum := by
  induction length with
  | zero => cases positive
  | succ length ih =>
    have here : share (length + 1) = 2 ^ (longest - (length + 1)) := rfl
    rw [sum_share_filter, here, Nat.add_mul]
    congr 1
    cases length with
    | zero =>
      -- No word has length zero.
      have none : ∀ first ∈ lengths.filter (· ≤ 0), share first = 0 := by
        intro first member
        obtain rfl : first = 0 := by simpa using (List.mem_filter.1 member).2
        rfl
      rw [List.map_congr_left none]
      simp [firstNumber]
    | succ length =>
      rw [← ih (Nat.succ_pos length) (Nat.le_of_succ_le bounded), firstNumber_succ (Nat.succ_pos length),
        Nat.mul_comm 2, Nat.mul_assoc, ← Nat.pow_succ']
      congr 2
      omega

/-- Where the words do not use up more than there is, a word fits into its length. -/
theorem firstNumber_add_count_le {lengths : List Nat} {length : Nat} (positive : 0 < length)
    (bounded : length ≤ longest) (room : usage lengths ≤ 2 ^ longest) :
    firstNumber lengths length + lengths.count length ≤ 2 ^ length := by
  have part : ((lengths.filter (· ≤ length)).map share).sum ≤ usage lengths :=
    (List.filter_sublist.map share).sum_le_sum fun _ _ => Nat.zero_le _
  rw [← firstNumber_add_count positive bounded] at part
  have whole : 2 ^ length * 2 ^ (longest - length) = 2 ^ longest := by
    rw [← Nat.pow_add, Nat.add_sub_cancel' bounded]
  refine Nat.le_of_mul_le_mul_right ?_ (Nat.two_pow_pos (longest - length))
  rw [whole]
  exact Nat.le_trans part room

/-! ### Reading -/

theorem owners_append (lengths : List Nat) (last length : Nat) :
    owners (lengths ++ [last]) length =
      owners lengths length ++ if last = length then [lengths.length] else [] := by
  have front : ∀ symbol ∈ List.range lengths.length,
      ((lengths ++ [last]).getD symbol 0 == length) = (lengths.getD symbol 0 == length) := by
    intro symbol member
    rw [List.getD_append _ _ _ _ (List.mem_range.1 member)]
  have back : (lengths ++ [last]).getD lengths.length 0 = last := by
    rw [List.getD_append_right _ _ _ _ (Nat.le_refl _), Nat.sub_self]
    rfl
  rw [owners, owners, List.length_append, List.length_singleton, List.range_succ, List.filter_append,
    List.filter_congr front, List.filter_cons, back, List.filter_nil]
  simp only [beq_iff_eq]

theorem length_owners (lengths : List Nat) (length : Nat) :
    (owners lengths length).length = lengths.count length := by
  induction lengths using List.reverseRecOn with
  | nil => rfl
  | append_singleton lengths last ih =>
    rw [owners_append, List.length_append, ih, List.count_append, List.count_singleton]
    split <;> simp_all

theorem getElem?_owners {lengths : List Nat} {symbol : Nat} (inside : symbol < lengths.length) :
    (owners lengths (lengths.getD symbol 0))[(lengths.take symbol).count (lengths.getD symbol 0)]? =
      some symbol := by
  induction lengths using List.reverseRecOn with
  | nil => cases inside
  | append_singleton lengths last ih =>
    rw [owners_append]
    rw [List.length_append, List.length_singleton] at inside
    -- The last symbol comes behind all others of its length, and an earlier one keeps its place.
    rcases Nat.eq_or_lt_of_le (Nat.le_of_lt_succ inside) with rfl | earlier
    · rw [List.getD_append_right _ _ _ _ (Nat.le_refl _), List.take_left, Nat.sub_self,
        List.getD_cons_zero, if_pos rfl, ← length_owners, List.getElem?_concat_length]
    · rw [List.getD_append _ _ _ _ earlier, List.take_append_of_le_length (Nat.le_of_lt earlier)]
      have found := ih earlier
      obtain ⟨below, _⟩ := List.getElem?_eq_some_iff.1 found
      rw [List.getElem?_append_left below, found]

theorem wordBits_succ (width number : Nat) :
    wordBits (width + 1) number =
      (number / 2 ^ width % 2 == 1) :: wordBits width (number % 2 ^ width) := by
  have split : numberBits (width + 1) number =
      numberBits width (number % 2 ^ width) ++ [number / 2 ^ width % 2 == 1] := by
    induction width generalizing number with
    | zero => simp [numberBits]
    | succ width ih =>
      have half : number % 2 ^ (width + 1) / 2 = number / 2 % 2 ^ width := by
        rw [Nat.pow_succ', Nat.mod_mul_right_div_self]
      have odd : number % 2 ^ (width + 1) % 2 = number % 2 := by
        rw [Nat.pow_succ', Nat.mod_mul_right_mod]
      have shift : number / 2 / 2 ^ width = number / 2 ^ (width + 1) := by
        rw [Nat.div_div_eq_div_mul, Nat.pow_succ']
      rw [numberBits, ih, numberBits, half, odd, shift, List.cons_append]
  rw [wordBits, split, List.reverse_append]
  rfl

theorem toNat_topBit {width number : Nat} (small : number < 2 ^ (width + 1)) :
    (number / 2 ^ width % 2 == 1).toNat = number / 2 ^ width := by
  have below : number / 2 ^ width < 2 := by
    rw [Nat.div_lt_iff_lt_mul (Nat.two_pow_pos _), ← Nat.pow_succ']
    exact small
  rcases Nat.le_one_iff_eq_zero_or_eq_one.1 (Nat.le_of_lt_succ below) with zero | one
  · rw [zero]; rfl
  · rw [one]; rfl

theorem firstNumber_add_le {lengths : List Nat} {length : Nat} (positive : 0 < length) (more : Nat) :
    (firstNumber lengths length + lengths.count length) * 2 ^ (more + 1) ≤
      firstNumber lengths (length + (more + 1)) := by
  induction more with
  | zero =>
    rw [firstNumber_succ positive, Nat.zero_add, Nat.pow_one, Nat.mul_comm]
  | succ more ih =>
    calc (firstNumber lengths length + lengths.count length) * 2 ^ (more + 1 + 1)
        = 2 * ((firstNumber lengths length + lengths.count length) * 2 ^ (more + 1)) := by
          rw [Nat.pow_succ _ (more + 1), ← Nat.mul_assoc, Nat.mul_comm]
      _ ≤ 2 * (firstNumber lengths (length + (more + 1)) + lengths.count (length + (more + 1))) :=
          Nat.mul_le_mul_left 2 (Nat.le_trans ih (Nat.le_add_right _ _))
      _ = firstNumber lengths (length + (more + 1) + 1) :=
          (firstNumber_succ (Nat.add_pos_left positive _)).symm

theorem readSymbolFrom?_wordBits {lengths : List Nat} {length : Nat} (positive : 0 < length)
    {more steps above number : Nat} (rest : Bits) (enough : more < steps) (small : number < 2 ^ (more + 1))
    (least : firstNumber lengths (length + more) ≤ above * 2 ^ (more + 1) + number)
    (below : above * 2 ^ (more + 1) + number <
      firstNumber lengths (length + more) + lengths.count (length + more)) :
    readSymbolFrom? lengths length above (firstNumber lengths length) steps
        (wordBits (more + 1) number ++ rest) =
      (owners lengths (length + more))[above * 2 ^ (more + 1) + number -
        firstNumber lengths (length + more)]?.map fun symbol => (symbol, rest) := by
  induction more generalizing length above number steps with
  | zero =>
    -- This is the last bit of the word, and the number lies among the words of this length.
    obtain ⟨steps, rfl⟩ := Nat.exists_eq_add_of_lt enough
    have bit := toNat_topBit small
    rw [Nat.pow_zero, Nat.div_one] at bit
    have whole : 2 * above + number = above * 2 ^ (0 + 1) + number := by omega
    have along : length + 0 = length := rfl
    rw [along] at below ⊢
    rw [wordBits_succ, List.cons_append, readSymbolFrom?, Nat.pow_zero, Nat.div_one, bit, length_owners,
      whole, if_pos below]
    rfl
  | succ more ih =>
    obtain ⟨steps, rfl⟩ := Nat.exists_eq_add_of_lt enough
    have remainder := Nat.mod_lt number (Nat.two_pow_pos (more + 1))
    have whole : above * 2 ^ (more + 1 + 1) + number =
        (2 * above + number / 2 ^ (more + 1)) * 2 ^ (more + 1) + number % 2 ^ (more + 1) := by
      have split := Nat.div_add_mod number (2 ^ (more + 1))
      calc above * 2 ^ (more + 1 + 1) + number
          = above * 2 ^ (more + 1 + 1) +
              (2 ^ (more + 1) * (number / 2 ^ (more + 1)) + number % 2 ^ (more + 1)) := by rw [split]
        _ = _ := by ring
    have along : length + (more + 1) = length + 1 + more := by omega
    rw [whole] at least below ⊢
    -- The bits so far lie behind the words of this length, as the whole word lies behind their extensions.
    have behind : ¬ 2 * above + number / 2 ^ (more + 1) <
        firstNumber lengths length + lengths.count length := by
      intro short
      have extended := Nat.mul_le_mul_right (2 ^ (more + 1)) (Nat.succ_le_of_lt short)
      have later : _ ≤ firstNumber lengths _ := firstNumber_add_le positive more
      rw [Nat.succ_mul] at extended
      omega
    rw [along] at least below ⊢
    rw [wordBits_succ, List.cons_append, readSymbolFrom?, toNat_topBit small, length_owners,
      if_neg behind, ← firstNumber_succ positive]
    exact ih (Nat.succ_pos length) (by omega) remainder least below

/-- A word is read as its symbol. -/
theorem readSymbol?_wordBits {lengths : List Nat} {symbol : Nat} (rest : Bits)
    (positive : 0 < lengths.getD symbol 0) (bounded : lengths.getD symbol 0 ≤ longest)
    (room : usage lengths ≤ 2 ^ longest) :
    readSymbol? lengths (wordBits (lengths.getD symbol 0) (wordNumber lengths symbol) ++ rest) =
      some (symbol, rest) := by
  have inside : symbol < lengths.length := by
    by_contra outside
    rw [List.getD_eq_default _ _ (Nat.not_lt.1 outside)] at positive
    cases positive
  have owned := getElem?_owners inside
  obtain ⟨place, _⟩ := List.getElem?_eq_some_iff.1 owned
  rw [length_owners] at place
  have fits := firstNumber_add_count_le positive bounded room
  obtain ⟨more, length⟩ : ∃ more, lengths.getD symbol 0 = more + 1 :=
    ⟨_, (Nat.succ_pred_eq_of_pos positive).symm⟩
  have number : wordNumber lengths symbol = firstNumber lengths (more + 1) +
      (lengths.take symbol).count (more + 1) := by
    rw [wordNumber, length]
  rw [length] at fits place owned bounded ⊢
  have along : 1 + more = more + 1 := Nat.add_comm 1 more
  have read : readSymbolFrom? lengths 1 0 (firstNumber lengths 1) longest
      (wordBits (more + 1) (wordNumber lengths symbol) ++ rest) = _ :=
    readSymbolFrom?_wordBits Nat.one_pos rest (by omega) (by omega)
      (by rw [along, number]; omega) (by rw [along, number]; omega)
  rw [along, number, Nat.zero_mul, Nat.zero_add, Nat.add_sub_cancel_left, owned] at read
  rw [number]
  exact read

/-! ### Codes -/

/-- The reader of these lengths reads the word of the symbol. -/
def Reads (lengths : List Nat) (code : Code) (symbol : Nat) : Prop :=
  ∀ rest, readSymbol? lengths (code.word symbol ++ rest) = some (symbol, rest)

theorem firstNumber_append {lengths more : List Nat} {length : Nat}
    (behind : ∀ other ∈ more, other = 0 ∨ length ≤ other) :
    firstNumber (lengths ++ more) length = firstNumber lengths length := by
  induction length with
  | zero => rfl
  | succ length ih =>
    cases length with
    | zero => rfl
    | succ length =>
      have none : more.count (length + 1) = 0 := by
        rw [List.count_eq_zero]
        intro member
        have := behind _ member
        omega
      rw [firstNumber, firstNumber, ih fun other member => (behind other member).imp_right Nat.le_of_succ_le,
        List.count_append, none]
      rfl

/-- The words of a code are read back, also when the reader knows of further lengths, as long as these take
    no word before. -/
theorem reads_of_ofLengths? {lengths more : List Nat} {code : Code} {symbol : Nat}
    (made : Code.ofLengths? lengths = some code) (positive : 0 < lengths.getD symbol 0)
    (bounded : lengths.getD symbol 0 ≤ longest) (room : usage (lengths ++ more) ≤ 2 ^ longest)
    (behind : ∀ other ∈ more, other = 0 ∨ lengths.getD symbol 0 ≤ other) :
    Reads (lengths ++ more) code symbol := by
  intro rest
  have inside : symbol < lengths.length := by
    by_contra outside
    rw [List.getD_eq_default _ _ (Nat.not_lt.1 outside)] at positive
    cases positive
  have same : (lengths ++ more).getD symbol 0 = lengths.getD symbol 0 :=
    List.getD_append _ _ _ _ inside
  have word : code.word symbol =
      wordBits ((lengths ++ more).getD symbol 0) (wordNumber (lengths ++ more) symbol) := by
    obtain ⟨trie, _, rfl⟩ := Option.map_eq_some_iff.1 made
    rw [Code.word, wordNumber, same, firstNumber_append behind,
      List.take_append_of_le_length (Nat.le_of_lt inside)]
    have listed : (canonicalWords lengths).toArray.getD symbol [] = (canonicalWords lengths).getD symbol [] := by
      rw [Array.getD_eq_getD_getElem?, List.getElem?_toArray, List.getD_eq_getElem?_getD]
    exact listed.trans (getD_canonicalWords positive bounded)
  rw [word]
  exact readSymbol?_wordBits rest (same ▸ positive) (same ▸ bounded) room

end DiagramWeave.Deflate
