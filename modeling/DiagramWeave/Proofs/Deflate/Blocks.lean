import DiagramWeave.Proofs.Deflate.CodeLengths
import DiagramWeave.Proofs.Deflate.Lengths
import DiagramWeave.Proofs.Deflate.Symbols
import Mathlib.Algebra.BigOperators.Ring.List

/-!
# Reading blocks

A block is read back in whichever of the three forms it was written. The bytes that it holds are those that its symbols write,
so it does not matter which form was the cheapest.

Symbols are read back in a code of the block's own because every number that occurs has a word, and the code is complete.
-/
namespace DiagramWeave.Deflate

open Inflate (share usage longest isComplete readContents? readStored? readCodes? placeItems)

/-! ### Codes of alphabets -/

theorem length_weights (size : Nat) (numbers : List Nat) : (weights size numbers).length = size := by
  have kept (counts : Array Nat) : (numbers.foldl (fun counts number => counts.modify number (· + 1))
      counts).size = counts.size := by
    induction numbers generalizing counts with
    | nil => rfl
    | cons number numbers ih => rw [List.foldl_cons, ih, Array.size_modify]
  rw [weights, Array.length_toList, kept, Array.size_replicate]

theorem getD_foldl_modify {counts : Array Nat} {number : Nat} (inside : number < counts.size)
    (numbers : List Nat) :
    (numbers.foldl (fun counts number => counts.modify number (· + 1)) counts).getD number 0 =
      counts.getD number 0 + numbers.count number := by
  induction numbers generalizing counts with
  | nil => rfl
  | cons other numbers ih =>
    rw [List.foldl_cons, ih (by rwa [Array.size_modify]), getD_modify _ inside, List.count_cons]
    split <;> simp_all [Nat.add_assoc, Nat.add_comm]

theorem getD_weights_ne_zero {size number : Nat} {numbers : List Nat} (inside : number < size)
    (member : number ∈ numbers) : (weights size numbers).getD number 0 ≠ 0 := by
  have listed : (weights size numbers).getD number 0 = (numbers.foldl (fun counts number =>
      counts.modify number (· + 1)) (Array.replicate size 0)).getD number 0 := by
    rw [weights, List.getD_eq_getElem?_getD, Array.getElem?_toList, Array.getD_eq_getD_getElem?]
  rw [listed, getD_foldl_modify (by rwa [Array.size_replicate])]
  have := List.count_pos_iff.2 member
  omega

theorem share_eq {limit length : Nat} (within : limit ≤ longest) (positive : length ≠ 0)
    (bounded : length ≤ limit) : share length = 2 ^ (longest - limit) * 2 ^ (limit - length) := by
  rw [share, if_neg positive, ← Nat.pow_add]
  congr 1
  omega

theorem usage_append (front back : List Nat) : usage (front ++ back) = usage front + usage back := by
  rw [usage, List.map_append, List.sum_append, usage, usage]

theorem usage_zeros (count : Nat) : usage (List.replicate count 0) = 0 := by
  rw [usage, List.map_replicate]
  simp [share]

theorem usage_filter (lengths : List Nat) : usage (lengths.filter (· != 0)) = usage lengths := by
  induction lengths with
  | nil => rfl
  | cons length lengths ih =>
    rw [List.filter_cons]
    split
    · rw [usage, List.map_cons, List.sum_cons, ← usage, ih]
      rfl
    · next zero =>
      obtain rfl : length = 0 := by simpa using zero
      rw [ih, usage, usage, List.map_cons, List.sum_cons, share, if_pos rfl, Nat.zero_add]

namespace CompleteCode

variable {limit : Nat} {weights lengths : List Nat}

theorem usage_eq (complete : CompleteCode limit weights lengths) (within : limit ≤ longest) :
    usage lengths = 2 ^ longest := by
  have scaled : ∀ length ∈ lengths.filter (· != 0),
      share length = 2 ^ (longest - limit) * 2 ^ (limit - length) := by
    intro length member
    obtain ⟨listed, positive⟩ := List.mem_filter.1 member
    exact share_eq within (by simpa using positive) (complete.bounded length listed)
  rw [← usage_filter, usage, List.map_congr_left scaled, List.sum_map_mul_left, ← taken,
    complete.complete, ← Nat.pow_add, Nat.sub_add_cancel within]

/-- Zeros at the end do not count. -/
theorem isComplete (complete : CompleteCode limit weights lengths) (within : limit ≤ longest)
    (count : Nat) : Inflate.isComplete (lengths ++ List.replicate count 0) = true := by
  have bounded : ∀ length ∈ lengths ++ List.replicate count 0, length ≤ longest := by
    intro length member
    rcases List.mem_append.1 member with listed | zero
    · exact Nat.le_trans (complete.bounded length listed) within
    · rw [List.eq_of_mem_replicate zero]
      exact Nat.zero_le _
  rw [Inflate.isComplete, usage_append, usage_zeros, Nat.add_zero, complete.usage_eq within]
  rw [Bool.and_eq_true, List.all_eq_true, beq_iff_eq]
  exact ⟨fun length member => decide_eq_true (bounded length member), rfl⟩

/-- Every number that occurs is read back. -/
theorem reads (complete : CompleteCode limit weights lengths) (within : limit ≤ longest) {code : Code}
    (made : Code.ofLengths? lengths = some code) {number : Nat} (occurs : weights.getD number 0 ≠ 0)
    (count : Nat) : Reads (lengths ++ List.replicate count 0) code number := by
  have positive := complete.occurs number occurs
  have listed : lengths.getD number 0 ∈ lengths := by
    have inside : number < lengths.length := by
      by_contra outside
      rw [List.getD_eq_default _ _ (Nat.not_lt.1 outside)] at positive
      cases positive
    rw [List.getD_eq_getElem _ _ inside]
    exact List.getElem_mem inside
  refine reads_of_ofLengths? made positive (Nat.le_trans (complete.bounded _ listed) within) ?_ ?_
  · rw [usage_append, usage_zeros, Nat.add_zero, complete.usage_eq within]
  · exact fun other member => .inl (List.eq_of_mem_replicate member)

end CompleteCode

/-! ### The fixed code -/

theorem exists_fixedCodes : ∃ codes, fixedCodes? = some codes := by
  have made : fixedCodes?.isSome = true := by decide +kernel
  exact Option.isSome_iff_exists.1 made

theorem reads_fixedCodes {codes : Codes} (made : fixedCodes? = some codes) :
    (∀ number < 288, Reads Inflate.fixedLiterals codes.literals number) ∧
      ∀ number < 30, Reads Inflate.fixedDistances codes.distances number := by
  simp only [fixedCodes?, Option.bind_eq_bind, Option.bind_eq_some_iff, Option.pure_def,
    Option.some.injEq] at made
  obtain ⟨literals, ofLiterals, distances, ofDistances, rfl⟩ := made
  have literalLengths : Inflate.fixedLiterals = fixedLengths ++ [] := by decide +kernel
  -- The reader knows of two more distances, whose words come behind all others.
  have distanceLengths : Inflate.fixedDistances = List.replicate 30 5 ++ [5, 5] := rfl
  have inRange : ∀ length ∈ fixedLengths, 0 < length ∧ length ≤ longest := by decide +kernel
  have count : fixedLengths.length = 288 := by decide +kernel
  constructor
  · intro number below
    have member : fixedLengths.getD number 0 ∈ fixedLengths := by
      rw [List.getD_eq_getElem _ _ (by omega)]
      exact List.getElem_mem _
    obtain ⟨positive, bounded⟩ := inRange _ member
    rw [literalLengths]
    exact reads_of_ofLengths? ofLiterals positive bounded (by decide +kernel) (by simp)
  · intro number below
    have five : (List.replicate 30 5).getD number 0 = 5 := by
      rw [List.getD_eq_getElem?_getD, List.getElem?_replicate, if_pos below]
      rfl
    rw [distanceLengths]
    refine reads_of_ofLengths? ofDistances ?_ ?_ (by decide) ?_
    · rw [five]
      decide
    · rw [five]
      decide
    · rw [five]
      decide

/-! ### Codes of a block's own -/

/-- The bits of the description of two codes. -/
def descriptionBits (literals distances sent : List Nat) (itemCode : Code) (items : List LengthItem) :
    Bits :=
  numberBits 5 (literals.length - 257) ++ numberBits 5 (distances.length - 1) ++
    numberBits 4 (sent.length - 4) ++ sent.flatMap (numberBits 3) ++ items.flatMap (itemBits itemCode)

/-- What the reader asks of a description: sizes that fit into their numbers, and complete codes. -/
structure Describable (literals distances sent : List Nat) (itemCode : Code) (items : List LengthItem) :
    Prop where
  literalSize : 257 ≤ literals.length ∧ literals.length ≤ 286
  distanceSize : 1 ≤ distances.length ∧ distances.length ≤ 30
  sentSize : 4 ≤ sent.length ∧ sent.length ≤ 19
  small : ∀ length ∈ sent, length < 2 ^ 3
  itemsComplete : isComplete (placeItems sent) = true
  described : Describes [] items (literals ++ distances)
  reads : ∀ item ∈ items, Reads (placeItems sent) itemCode item.number
  literalsComplete : isComplete literals = true
  ends : literals.getD endNumber 0 ≠ 0
  distancesComplete : isComplete distances = true

theorem readCodes?_descriptionBits {literals distances sent : List Nat} {itemCode : Code}
    {items : List LengthItem} (good : Describable literals distances sent itemCode items) (rest : Bits) :
    readCodes? (descriptionBits literals distances sent itemCode items ++ rest) =
      some ((literals, distances), rest) := by
  obtain ⟨literalLeast, literalMost⟩ := good.literalSize
  obtain ⟨distanceLeast, distanceMost⟩ := good.distanceSize
  obtain ⟨sentLeast, sentMost⟩ := good.sentSize
  have lengths := readLengths?_itemBits good.described good.reads rest
  rw [List.length_append] at lengths
  have sized : literals.length ≤ 286 ∧ distances.length ≤ 30 := ⟨literalMost, distanceMost⟩
  have usable : isComplete literals = true ∧ literals.getD 256 0 ≠ 0 ∧
      Inflate.allowsDistances distances = true :=
    ⟨good.literalsComplete, good.ends, by rw [Inflate.allowsDistances, good.distancesComplete]; rfl⟩
  rw [readCodes?, descriptionBits]
  simp only [List.append_assoc, Option.bind_eq_bind, Option.bind_some, Option.pure_def,
    readNumber?_numberBits _ (by omega : literals.length - 257 < 2 ^ 5),
    readNumber?_numberBits _ (by omega : distances.length - 1 < 2 ^ 5),
    readNumber?_numberBits _ (by omega : sent.length - 4 < 2 ^ 4),
    Nat.sub_add_cancel literalLeast, Nat.sub_add_cancel distanceLeast, Nat.sub_add_cancel sentLeast,
    guard, if_pos sized, readNumbers?_flatMap _ good.small, if_pos good.itemsComplete, lengths,
    List.take_left, List.drop_left, if_pos usable]

theorem complete_codeLengths {limit size : Nat} (numbers : List Nat) (three : 3 ≤ size)
    (few : size < 2 ^ limit) :
    CompleteCode limit (weights size numbers) (codeLengths limit (weights size numbers)) :=
  codeLengths_complete (by rwa [length_weights]) (by rwa [length_weights])

/-- The lengths dealt out to a block can be described. -/
theorem describable_codeLengths {literalWeights distanceWeights literals distances : List Nat}
    {items : List LengthItem} {itemLengths : List Nat} {itemCode : Code}
    (literal : CompleteCode 15 literalWeights literals) (literalSize : literalWeights.length = 286)
    (ends : literalWeights.getD endNumber 0 ≠ 0)
    (distance : CompleteCode 15 distanceWeights distances) (distanceSize : distanceWeights.length = 30)
    (listed : items = lengthItems literals ++ lengthItems distances)
    (itemComplete : CompleteCode 7 (weights 19 (items.map LengthItem.number)) itemLengths)
    (made : Code.ofLengths? itemLengths = some itemCode) :
    Describable literals distances (sentLengths itemLengths) itemCode items := by
  -- The end of the block occurs, so the list of literal lengths reaches that far.
  have endPositive := literal.occurs endNumber ends
  have endInside : endNumber < literals.length := by
    by_contra short
    rw [List.getD_eq_default _ _ (Nat.not_lt.1 short)] at endPositive
    cases endPositive
  -- A complete code has a word, also where no distance occurs.
  have distanceLeast : 1 ≤ distances.length := by
    by_contra none
    have complete := distance.complete
    rw [List.length_eq_zero_iff.1 (by omega : distances.length = 0)] at complete
    cases complete
  have placed : placeItems (sentLengths itemLengths) = _ :=
    placeItems_sentLengths (by simpa only [length_weights] using itemComplete.size)
  have described : Describes [] items (literals ++ distances) := by
    have first := describes_lengthItems (fun length member =>
      Nat.lt_succ_of_le (literal.bounded length member)) []
    have second := describes_lengthItems (fun length member =>
      Nat.lt_succ_of_le (distance.bounded length member)) literals
    rw [listed]
    exact first.append second
  exact {
    literalSize := ⟨endInside, literalSize ▸ literal.size⟩
    distanceSize := ⟨distanceLeast, distanceSize ▸ distance.size⟩
    sentSize := length_sentLengths itemLengths
    small := by
      intro length member
      rcases mem_sentLengths member with rfl | member
      · decide
      · exact Nat.lt_succ_of_le (itemComplete.bounded length member)
    itemsComplete := placed ▸ itemComplete.isComplete (by decide) _
    described := described
    reads := by
      intro item member
      rw [placed]
      exact itemComplete.reads (by decide) made
        (getD_weights_ne_zero (described.number_lt item member) (List.mem_map_of_mem member)) _
    literalsComplete := by simpa using literal.isComplete (Nat.le_refl 15) 0
    ends := Nat.ne_of_gt endPositive
    distancesComplete := by simpa using distance.isComplete (Nat.le_refl 15) 0 }

/-- The numbers of the symbols of a block are read back in its own codes. -/
theorem readsSymbol_of_complete {literals distances : List Nat} {codes : Codes} {symbols : List Symbol}
    (literal : CompleteCode 15 (weights 286 (endNumber :: symbols.map Symbol.literalNumber)) literals)
    (ofLiterals : Code.ofLengths? literals = some codes.literals)
    (distance : CompleteCode 15 (weights 30 (symbols.filterMap Symbol.distanceNumber?)) distances)
    (ofDistances : Code.ofLengths? distances = some codes.distances) {symbol : Symbol}
    (member : symbol ∈ symbols) (bounded : symbol.Bounded) :
    ReadsSymbol literals distances codes symbol := by
  refine ⟨?_, fun number isNumber => ?_⟩
  · have occurs := getD_weights_ne_zero (literalNumber_lt bounded)
      (List.mem_cons_of_mem endNumber (List.mem_map_of_mem member))
    simpa using literal.reads (Nat.le_refl 15) ofLiterals occurs 0
  · have small : number < 30 := by
      cases symbol with
      | literal => cases isNumber
      | copy length distance =>
        cases isNumber
        exact distanceSlot_lt bounded
    have occurs := getD_weights_ne_zero small (List.mem_filterMap.2 ⟨symbol, member, isNumber⟩)
    simpa using distance.reads (Nat.le_refl 15) ofDistances occurs 0

theorem readContents?_dynamicBits {out final : List UInt8} {symbols : List Symbol} {bits : Bits}
    (made : dynamicBits? symbols = some bits) (writes : Writes out symbols final) (rest : Bits) :
    readContents? out false true (bits ++ rest) = some (final, rest) := by
  simp only [dynamicBits?, Option.bind_eq_bind, Option.bind_eq_some_iff, Option.pure_def,
    Option.some.injEq] at made
  obtain ⟨itemCode, ofItems, literalCode, ofLiterals, distanceCode, ofDistances, rfl⟩ := made
  have literal := complete_codeLengths (endNumber :: symbols.map Symbol.literalNumber)
    (by decide : 3 ≤ 286) (by decide : 286 < 2 ^ 15)
  have distance := complete_codeLengths (symbols.filterMap Symbol.distanceNumber?)
    (by decide : 3 ≤ 30) (by decide : 30 < 2 ^ 15)
  -- From here on it does not matter how the lengths were found, only that their codes are complete.
  generalize codeLengths 15 (weights 286 _) = literals at literal ofItems ofLiterals ⊢
  generalize codeLengths 15 (weights 30 _) = distances at distance ofItems ofDistances ⊢
  have item := complete_codeLengths ((lengthItems literals ++ lengthItems distances).map LengthItem.number)
    (by decide : 3 ≤ 19) (by decide : 19 < 2 ^ 7)
  generalize codeLengths 7 _ = itemLengths at item ofItems ⊢
  have ends : (weights 286 (endNumber :: symbols.map Symbol.literalNumber)).getD endNumber 0 ≠ 0 :=
    getD_weights_ne_zero (by decide) List.mem_cons_self
  have reads : ∀ symbol ∈ symbols, ReadsSymbol literals distances ⟨literalCode, distanceCode⟩ symbol :=
    fun symbol member => readsSymbol_of_complete literal ofLiterals distance ofDistances member
      (writes.bounded symbol member)
  have readsEnd : Reads literals literalCode endNumber := by
    simpa using literal.reads (Nat.le_refl 15) ofLiterals ends 0
  have description := describable_codeLengths literal (length_weights _ _) ends distance
    (length_weights _ _) rfl item ofItems
  have codes := readCodes?_descriptionBits description
    ((Codes.mk literalCode distanceCode).bodyBits symbols ++ rest)
  rw [readContents?, List.append_assoc]
  exact (congrArg (Option.bind · _) codes).trans (readBody?_bodyBits writes reads readsEnd rest)

theorem readContents?_fixedBits {out final : List UInt8} {symbols : List Symbol} {codes : Codes}
    (made : fixedCodes? = some codes) (writes : Writes out symbols final) (rest : Bits) :
    readContents? out true false (codes.bodyBits symbols ++ rest) = some (final, rest) := by
  obtain ⟨literal, distance⟩ := reads_fixedCodes made
  refine readBody?_bodyBits writes (fun symbol member => ?_) (literal endNumber (by decide)) rest
  have bounded := writes.bounded symbol member
  refine ⟨literal _ (Nat.lt_trans (literalNumber_lt bounded) (by decide)), fun number isNumber => ?_⟩
  cases symbol with
  | literal => cases isNumber
  | copy length far =>
    cases isNumber
    exact distance _ (distanceSlot_lt bounded)

/-! ### Stored bytes -/

theorem readStored?_storedBits {out bytes : List UInt8} {written : Nat} {rest : Bits}
    (few : bytes.length ≤ storedLimit)
    (aligned : (written + (storedBits written bytes).length + rest.length) % 8 = 0) :
    readStored? out (storedBits written bytes ++ rest) = some (bytes.reverse ++ out, rest) := by
  -- What the reader skips is the padding, because the stream ends at a byte boundary.
  have padded : (storedBits written bytes ++ rest).drop
      ((storedBits written bytes ++ rest).length % 8) =
        numberBits 16 bytes.length ++ (numberBits 16 (65535 - bytes.length) ++ (byteBits bytes ++ rest)) := by
    have width : (storedBits written bytes ++ rest).length % 8 = (padding written).length := by
      rw [List.length_append, padding, List.length_replicate]
      omega
    rw [width, storedBits]
    simp only [List.append_assoc, List.drop_left]
  have same : (bytes.map UInt8.toNat).map UInt8.ofNat = bytes := by
    simp [List.map_map, Function.comp_def]
  rw [storedLimit] at few
  rw [readStored?, padded]
  simp only [Option.bind_eq_bind, Option.bind_some, Option.pure_def,
    readNumber?_numberBits _ (by omega : bytes.length < 2 ^ 16),
    readNumber?_numberBits _ (by omega : 65535 - bytes.length < 2 ^ 16), readNumbers?_byteBits,
    Nat.add_sub_cancel' few, guard, if_true, same]

/-! ### The form of a block -/

/-- The bytes as they are where that takes no more room than the form, and the form otherwise. -/
def storedOr (written : Nat) (bytes : List UInt8) (form : BlockForm) : BlockForm :=
  if bytes.length + 4 ≤ byteCost form.contents && bytes.length ≤ storedLimit then
    ⟨0, storedBits (written + 3) bytes⟩
  else form

theorem storedOr_cases (written : Nat) (bytes : List UInt8) (form : BlockForm) :
    bytes.length ≤ storedLimit ∧ storedOr written bytes form = ⟨0, storedBits (written + 3) bytes⟩ ∨
      storedOr written bytes form = form := by
  rw [storedOr]
  split
  · next cheap =>
    rw [Bool.and_eq_true, decide_eq_true_eq, decide_eq_true_eq] at cheap
    exact .inl ⟨cheap.2, rfl⟩
  · exact .inr rfl

theorem chooseForm_cases {codes : Codes} (fixed : fixedCodes? = some codes) (written : Nat)
    (symbols : List Symbol) (bytes : List UInt8) :
    bytes.length ≤ storedLimit ∧
        chooseForm written symbols bytes = ⟨0, storedBits (written + 3) bytes⟩ ∨
      chooseForm written symbols bytes = ⟨1, codes.bodyBits symbols⟩ ∨
      ∃ own, dynamicBits? symbols = some own ∧ chooseForm written symbols bytes = ⟨2, own⟩ := by
  have shared := storedOr_cases written bytes ⟨1, codes.bodyBits symbols⟩
  unfold chooseForm
  rw [fixed]
  cases made : dynamicBits? symbols with
  | none => exact shared.imp_right .inl
  | some own =>
    dsimp only
    by_cases shorter : byteCost (codes.bodyBits symbols) ≤ byteCost own
    · rw [if_pos shorter]
      exact shared.imp_right .inl
    · rw [if_neg shorter]
      exact (storedOr_cases written bytes ⟨2, own⟩).imp_right fun same => .inr ⟨own, rfl, same⟩

/-- Whatever form is chosen, the block is read back as the bytes that its symbols write. -/
theorem readContents?_chooseForm {out bytes : List UInt8} {symbols : List Symbol} {written : Nat}
    {rest : Bits} (writes : Writes out symbols (bytes.reverse ++ out))
    (aligned : (written + 3 + (chooseForm written symbols bytes).contents.length + rest.length) % 8 = 0) :
    ∃ low high, numberBits 2 (chooseForm written symbols bytes).kind = [low, high] ∧
      readContents? out low high ((chooseForm written symbols bytes).contents ++ rest) =
        some (bytes.reverse ++ out, rest) := by
  obtain ⟨codes, fixed⟩ := exists_fixedCodes
  rcases chooseForm_cases fixed written symbols bytes with
    ⟨few, stored⟩ | shared | ⟨own, made, form⟩
  · rw [stored] at aligned ⊢
    exact ⟨false, false, (by decide : numberBits 2 0 = [false, false]), readStored?_storedBits few aligned⟩
  · rw [shared]
    exact ⟨true, false, (by decide : numberBits 2 1 = [true, false]),
      readContents?_fixedBits fixed writes rest⟩
  · rw [form]
    exact ⟨false, true, (by decide : numberBits 2 2 = [false, true]),
      readContents?_dynamicBits made writes rest⟩

end DiagramWeave.Deflate
