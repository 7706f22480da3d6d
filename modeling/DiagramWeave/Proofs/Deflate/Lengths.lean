import DiagramWeave.Deflate.Lengths
import DiagramWeave.Proofs.Deflate.Canonical
import Mathlib.Data.List.TakeWhile

/-!
# Reading descriptions of codes

The items of a list of lengths are read back as the list. An item is a step: it makes a longer list out of the lengths
before it. A repetition refers to the last of these, which is why a run of lengths starts with the length itself.

The lengths of the item code come in an order of their own and without the zeros at their end, which the reader puts back.
-/
namespace DiagramWeave.Deflate

open Inflate (readRow? readLengths? placeItems itemSequence)

/-! ### Items as steps -/

/-- What an item makes of the lengths before it. -/
inductive LengthItem.Step (before : List Nat) : LengthItem → List Nat → Prop
  | length {value : Nat} : value < 16 → Step before (.length value) (before ++ [value])
  | again {count last : Nat} : before.getLast? = some last → 3 ≤ count → count ≤ 6 →
      Step before (.again count) (before ++ List.replicate count last)
  | zeros {count : Nat} : 3 ≤ count → count ≤ 138 →
      Step before (.zeros count) (before ++ List.replicate count 0)

/-- What a row of items makes of the lengths before it. -/
inductive Describes : List Nat → List LengthItem → List Nat → Prop
  | done {before : List Nat} : Describes before [] before
  | next {before between after : List Nat} {item : LengthItem} {items : List LengthItem} :
      item.Step before between → Describes between items after → Describes before (item :: items) after

namespace Describes

variable {before between after : List Nat} {items others : List LengthItem}

theorem append (first : Describes before items between) (second : Describes between others after) :
    Describes before (items ++ others) after := by
  induction first with
  | done => exact second
  | next step _ ih => exact .next step (ih second)

theorem number_lt (described : Describes before items after) :
    ∀ item ∈ items, item.number < 19 := by
  induction described with
  | done => simp
  | next step _ ih =>
    refine List.forall_mem_cons.2 ⟨?_, ih⟩
    cases step with
    | length small => exact Nat.lt_trans small (by decide)
    | again => exact (by decide : 16 < 19)
    | zeros =>
      rw [LengthItem.number]
      split <;> decide

theorem length_le (described : Describes before items after) : before.length + items.length ≤ after.length := by
  induction described with
  | done => exact Nat.le_refl _
  | @next before between _ _ _ step _ ih =>
    have longer : before.length + 1 ≤ between.length := by
      cases step <;> simp <;> omega
    rw [List.length_cons]
    omega

end Describes

theorem describes_replicate_length {value : Nat} (small : value < 16) (before : List Nat) (count : Nat) :
    Describes before (List.replicate count (.length value)) (before ++ List.replicate count value) := by
  induction count generalizing before with
  | zero => simpa using Describes.done
  | succ count ih =>
    have rest := ih (before ++ [value])
    rw [List.append_assoc, List.singleton_append] at rest
    exact .next (.length small) rest

theorem describes_zeroItems (before : List Nat) (count : Nat) :
    Describes before (zeroItems count) (before ++ List.replicate count 0) := by
  induction count using zeroItems.induct generalizing before with
  | case1 count few =>
    rw [zeroItems, if_pos few]
    exact describes_replicate_length (by decide) before count
  | case2 count many ih =>
    -- One item takes up to 138 zeros, and the rest of the run follows.
    rw [zeroItems, if_neg many]
    have rest := ih (before ++ List.replicate (min 138 count) 0)
    rw [List.append_assoc, List.replicate_append_replicate,
      Nat.add_sub_cancel' (Nat.min_le_right 138 count)] at rest
    exact .next (.zeros (by omega) (Nat.min_le_left 138 count)) rest

theorem describes_repeatItems {value : Nat} (small : value < 16) {before : List Nat}
    (last : before.getLast? = some value) (count : Nat) :
    Describes before (repeatItems value count) (before ++ List.replicate count value) := by
  induction count using repeatItems.induct generalizing before with
  | case1 count few =>
    rw [repeatItems, if_pos few]
    exact describes_replicate_length small before count
  | case2 count many ih =>
    rw [repeatItems, if_neg many]
    -- The value stays the last one, so that the next repetition can refer to it.
    have again : (before ++ List.replicate (min 6 count) value).getLast? = some value := by
      rw [List.getLast?_append, List.getLast?_replicate, if_neg (by omega)]
      rfl
    have rest := ih again
    rw [List.append_assoc, List.replicate_append_replicate,
      Nat.add_sub_cancel' (Nat.min_le_right 6 count)] at rest
    exact .next (.again last (by omega) (Nat.min_le_left 6 count)) rest

theorem describes_runItems {value count : Nat} (small : value < 16) (positive : 0 < count)
    (before : List Nat) :
    Describes before (runItems value count) (before ++ List.replicate count value) := by
  rw [runItems]
  split
  · next zero =>
    rw [zero]
    exact describes_zeroItems before count
  · obtain ⟨more, rfl⟩ := Nat.exists_eq_add_of_le' positive
    have rest := describes_repeatItems small (List.getLast?_concat (l := before) (a := value)) more
    rw [List.append_assoc, List.singleton_append] at rest
    exact .next (.length small) rest

/-! ### Runs -/

theorem flatMap_runs (lengths : List Nat) :
    (runs lengths).flatMap (fun run => List.replicate run.2 run.1) = lengths := by
  induction lengths with
  | nil => rfl
  | cons value lengths ih =>
    rw [runs]
    split
    · next next count rest found =>
      rw [found, List.flatMap_cons] at ih
      split
      · next same =>
        rw [List.flatMap_cons, List.replicate_succ, List.cons_append, ih, same]
      · rw [List.flatMap_cons, List.flatMap_cons, ih]
        rfl
    · next none =>
      -- No runs are left only where no lengths are left.
      rw [none] at ih
      rw [← ih]
      rfl

theorem count_pos_of_mem_runs {lengths : List Nat} {run : Nat × Nat} (member : run ∈ runs lengths) :
    0 < run.2 := by
  induction lengths generalizing run with
  | nil => cases member
  | cons value lengths ih =>
    rw [runs] at member
    split at member
    · next next count rest found =>
      rw [found] at ih
      split at member
      · rcases List.mem_cons.1 member with rfl | later
        · exact Nat.succ_pos count
        · exact ih (List.mem_cons_of_mem _ later)
      · rcases List.mem_cons.1 member with rfl | later
        · exact Nat.one_pos
        · exact ih later
    · rw [List.mem_singleton] at member
      rw [member]
      exact Nat.one_pos

/-- The items of a list of lengths add the list to the lengths before. -/
theorem describes_lengthItems {lengths : List Nat} (small : ∀ length ∈ lengths, length < 16)
    (before : List Nat) : Describes before (lengthItems lengths) (before ++ lengths) := by
  have described (rows : List (Nat × Nat)) (before : List Nat)
      (positive : ∀ run ∈ rows, 0 < run.2) (small : ∀ run ∈ rows, run.1 < 16) :
      Describes before (rows.flatMap fun run => runItems run.1 run.2)
        (before ++ rows.flatMap fun run => List.replicate run.2 run.1) := by
    induction rows generalizing before with
    | nil => simpa using Describes.done
    | cons run rows ih =>
      have first := describes_runItems (small run List.mem_cons_self)
        (positive run List.mem_cons_self) before
      have rest := ih (before ++ List.replicate run.2 run.1)
        (fun other member => positive other (List.mem_cons_of_mem _ member))
        (fun other member => small other (List.mem_cons_of_mem _ member))
      rw [List.append_assoc] at rest
      exact first.append rest
  have values : ∀ run ∈ runs lengths, run.1 < 16 := by
    intro run member
    refine small run.1 ?_
    rw [← flatMap_runs lengths, List.mem_flatMap]
    exact ⟨run, member, List.mem_replicate.2 ⟨Nat.ne_of_gt (count_pos_of_mem_runs member), rfl⟩⟩
  have all := described (runs lengths) before (fun run => count_pos_of_mem_runs) values
  rwa [flatMap_runs] at all

/-! ### Reading items -/

/-- The bits of an item in its code. -/
def itemBits (code : Code) (item : LengthItem) : Bits :=
  code.word item.number ++ item.extraBits

theorem readRow?_itemBits {sent before after : List Nat} {code : Code} {item : LengthItem}
    (step : item.Step before after) (reads : Reads sent code item.number) (rest : Bits) :
    ∃ row, readRow? sent before (itemBits code item ++ rest) = some (row, rest) ∧
      before ++ row = after := by
  rw [itemBits, List.append_assoc, readRow?, reads]
  cases step with
  | @length value small =>
    exact ⟨[value], if_pos small, rfl⟩
  | @again count last found few many =>
    refine ⟨List.replicate count last, ?_, rfl⟩
    have read := readNumber?_numberBits rest (by omega : count - 3 < 2 ^ 2)
    simp [LengthItem.number, LengthItem.extraBits, found, Inflate.readRepeat?, read,
      Nat.add_sub_cancel' few]
  | @zeros count few many =>
    refine ⟨List.replicate count 0, ?_, rfl⟩
    by_cases short : count ≤ 10
    · have read := readNumber?_numberBits rest (by omega : count - 3 < 2 ^ 3)
      simp [LengthItem.number, LengthItem.extraBits, short, Inflate.readRepeat?, read,
        Nat.add_sub_cancel' few]
    · have read := readNumber?_numberBits rest (by omega : count - 11 < 2 ^ 7)
      have whole : 11 + (count - 11) = count := by omega
      simp [LengthItem.number, LengthItem.extraBits, short, Inflate.readRepeat?, read, whole]

theorem readLengths?_itemBits {sent before after : List Nat} {code : Code} {items : List LengthItem}
    (described : Describes before items after)
    (reads : ∀ item ∈ items, Reads sent code item.number) (rest : Bits) :
    readLengths? sent after.length before (items.flatMap (itemBits code) ++ rest) =
      some (after, rest) := by
  induction described with
  | done =>
    rw [readLengths?, if_neg (Nat.lt_irrefl _), if_pos rfl]
    rfl
  | @next before between after item items step described ih =>
    obtain ⟨first, others⟩ := List.forall_mem_cons.1 reads
    obtain ⟨row, read, joined⟩ := readRow?_itemBits step first (items.flatMap (itemBits code) ++ rest)
    -- An item adds at least one length, so there was room for it.
    have longer := (Describes.next step described).length_le
    rw [List.length_cons] at longer
    rw [List.flatMap_cons, List.append_assoc, readLengths?, if_pos (by omega), read]
    simp only [joined]
    exact ih others

/-! ### The lengths of the item code -/

theorem getD_eq_zero_of_kept_le {lengths : List Nat} {place : Nat}
    (behind : (lengths.reverse.dropWhile (· == 0)).length ≤ place) : lengths.getD place 0 = 0 := by
  have whole : lengths = (lengths.reverse.dropWhile (· == 0)).reverse ++
      (lengths.reverse.takeWhile (· == 0)).reverse := by
    rw [← List.reverse_append, List.takeWhile_append_dropWhile, List.reverse_reverse]
  rw [List.getD_eq_getElem?_getD, whole, List.getElem?_append_right (by simpa using behind)]
  cases found : ((lengths.reverse.takeWhile (· == 0)).reverse)[place -
      (lengths.reverse.dropWhile (· == 0)).reverse.length]? with
  | none => rfl
  | some value =>
    have zero := List.mem_takeWhile_imp (List.mem_reverse.1 (List.mem_of_getElem? found))
    simpa using zero

/-- Cutting zeros off the end changes nothing for a reader that takes zero for what is missing. -/
theorem getD_take_kept (lengths : List Nat) (least place : Nat) :
    (lengths.take (max least (lengths.reverse.dropWhile (· == 0)).length)).getD place 0 =
      lengths.getD place 0 := by
  by_cases inside : place < max least (lengths.reverse.dropWhile (· == 0)).length
  · rw [List.getD_eq_getElem?_getD, List.getElem?_take_of_lt inside, List.getD_eq_getElem?_getD]
  · have beyond := Nat.max_le.1 (Nat.not_lt.1 inside)
    rw [getD_eq_zero_of_kept_le beyond.2, List.getD_eq_default]
    exact Nat.le_trans (List.length_take_le _ _) (Nat.not_lt.1 inside)

theorem placeItems_sentLengths {lengths : List Nat} (few : lengths.length ≤ 19) :
    placeItems (sentLengths lengths) = lengths ++ List.replicate (19 - lengths.length) 0 := by
  have places : ∀ item ∈ List.range 19,
      (sentLengths lengths).getD (itemSequence.idxOf item) 0 = lengths.getD item 0 := by
    intro item member
    have listed : item ∈ itemSequence := by
      have all : ∀ item ∈ List.range 19, item ∈ itemSequence := by decide
      exact all item member
    have order : itemOrder = itemSequence := rfl
    rw [sentLengths, getD_take_kept, List.getD_eq_getElem?_getD, List.getElem?_map, order,
      List.getElem?_idxOf listed]
    rfl
  rw [placeItems, List.map_congr_left places]
  -- Both lists have nineteen places, and beyond the lengths they hold zeros.
  refine List.ext_getElem? fun place => ?_
  rw [List.getElem?_map]
  by_cases inside : place < lengths.length
  · rw [List.getElem?_append_left inside, List.getElem?_range (by omega), Option.map_some,
      List.getD_eq_getElem?_getD, List.getElem?_eq_getElem inside]
    rfl
  · rw [List.getElem?_append_right (Nat.not_lt.1 inside), List.getElem?_replicate]
    by_cases small : place < 19
    · rw [List.getElem?_range small, if_pos (by omega), Option.map_some,
        List.getD_eq_default _ _ (Nat.not_lt.1 inside)]
    · rw [List.getElem?_eq_none (by simpa using small), if_neg (by omega)]
      rfl

theorem length_sentLengths (lengths : List Nat) :
    4 ≤ (sentLengths lengths).length ∧ (sentLengths lengths).length ≤ 19 := by
  rw [sentLengths, List.length_take, List.length_map]
  have : itemOrder.length = 19 := rfl
  omega

theorem mem_sentLengths {lengths : List Nat} {sent : Nat} (member : sent ∈ sentLengths lengths) :
    sent = 0 ∨ sent ∈ lengths := by
  obtain ⟨item, _, rfl⟩ := List.mem_map.1 (List.mem_of_mem_take member)
  rw [List.getD_eq_getElem?_getD]
  cases found : lengths[item]? with
  | none => exact .inl rfl
  | some value => exact .inr (List.mem_of_getElem? found)

end DiagramWeave.Deflate
