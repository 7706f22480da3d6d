import DiagramWeave.Proofs.Rewrite.Splice

/-!
# Scanning a rewritten document

Replacing the spans of the blocks changes what follows every opening delimiter that was left in the text between them.
No such delimiter can start a block afterwards. Where a block follows it in the source, what it lacks is found on its
own line: a delimiter with padding and something visible behind it would have taken the line end and the closing
delimiter of that block, and so would have been a block that starts before the least start. Where no block follows,
nothing behind it has changed.

An opening delimiter cannot reach over the edge of a reference either, since a reference begins and ends with
characters that the delimiter does not hold. So a block that a second scan finds starts inside a reference.
-/
namespace DiagramWeave

/-! ### References in the result -/

/-- A reference in a rewritten document: the block it stands for and where it starts. -/
structure Inserted where
  block : Block
  start : Nat

/-- Where a reference ends. -/
def Inserted.stop (place : Inserted) : Nat :=
  place.start + place.block.reference.toList.length

/-- The references to the blocks that stand behind `cursor`, when the text from there on is put `shown`
    characters into the result. -/
def insertedFrom (cursor shown : Nat) : List Block → List Inserted
  | [] => []
  | block :: blocks =>
    let place : Inserted := ⟨block, shown + (block.start - cursor)⟩
    place :: insertedFrom block.stop place.stop blocks

/-- The references in the rewritten document. -/
def inserted (blocks : List Block) : List Inserted :=
  insertedFrom 0 0 blocks

/-- The opening delimiter at `start` lies inside the reference. -/
def Inserted.Covers (place : Inserted) (start : Nat) : Prop :=
  place.start ≤ start ∧ start + openMark.length ≤ place.stop

section
variable {fallback : String} {text : List Char} {index offset : Nat} {blocks : List Block}

/-- Up to the end of the first block the result is the text before the block and the reference to it. -/
theorem spliceFrom_of_gap {cursor : Nat} {block : Block} {gap rest : List Char}
    (split : text.drop cursor = gap ++ rest) (wide : gap.length = block.start - cursor) :
    spliceFrom text cursor (block :: blocks) =
      gap ++ (block.reference.toList ++ spliceFrom text block.stop blocks) := by
  rw [spliceFrom, split, ← wide, List.take_left, List.append_assoc]

/-- Every reference stands at its place in the result. -/
theorem BlocksFrom.reference_at {locators : Block → String}
    (found : BlocksFrom fallback text index offset blocks) (front : List Char) :
    ∀ place ∈ insertedFrom offset front.length (blocks.map (Block.located locators)),
      place.block.reference.toList <+:
        (front ++ spliceFrom text offset (blocks.map (Block.located locators))).drop place.start := by
  induction found generalizing front with
  | done => simp [insertedFrom]
  | @next index offset start parts behind blocks least block _ ih =>
    obtain ⟨gap, wide, split⟩ := block.exists_gap least.1.1
    generalize same : (parts.toBlock fallback index start).located locators = located
    have starts : located.start = start := by rw [← same]; rfl
    have stops : located.stop = start + parts.source.length := by rw [← same]; rfl
    rw [List.map_cons, same, spliceFrom_of_gap split (by rw [wide, starts]), stops]
    intro place member
    simp only [insertedFrom, List.mem_cons, starts, stops, ← wide] at member
    rcases member with rfl | member
    · -- The first reference stands behind the text that is left before it.
      rw [← List.length_append, ← List.append_assoc, List.drop_left]
      exact List.prefix_append _ _
    · have later := ih (front ++ (gap ++ located.reference.toList)) place
      simp only [Inserted.stop, List.length_append, ← Nat.add_assoc] at later member
      simpa only [List.append_assoc] using later member

/-! ### No delimiter of the source starts a block -/

/-- Padding that ends in front of something visible ends no later in a text that goes on visibly elsewhere. -/
theorem pads_prefix {pads rest left right : List Char} {c d : Char}
    (allPads : ∀ e ∈ pads, Text.isPad e = true) (visible : Text.isBlank c = false)
    (same : left ++ c :: right = pads ++ d :: rest) :
    ∃ middle, left = pads ++ middle ∧ (middle = [] ∨ ∃ tail, middle = d :: tail) := by
  rcases List.append_eq_append_iff.1 same with ⟨between, longer, tail⟩ | ⟨between, longer, tail⟩
  · -- The padding would hold the visible character behind `left`.
    cases between with
    | nil => exact ⟨[], by simpa using longer.symm, .inl rfl⟩
    | cons e between =>
      simp only [List.cons_append, List.cons.injEq] at tail
      have pad := allPads c (by rw [longer, tail.1]; simp)
      rw [isPad_of_visible visible] at pad
      cases pad
  · cases between with
    | nil => exact ⟨[], by simpa using longer, .inl rfl⟩
    | cons e between =>
      simp only [List.cons_append, List.cons.injEq] at tail
      exact ⟨e :: between, longer, .inr ⟨between, by rw [tail.1]⟩⟩

theorem BlockAt.opens {text behind : List Char} {parts : BlockParts}
    (block : BlockAt text parts behind) : ∃ rest, text = openMark ++ rest := by
  refine ⟨parts.pads ++ (parts.line ++ (parts.lineEnd ++ parts.closing)) ++ behind, ?_⟩
  rw [block.whole, BlockParts.source, List.append_assoc]

/-- An opening delimiter in the text before a block, which reads as a block when something else that is visible
    stands in place of that block, is a block of the source already. -/
theorem BlockAt.of_gap {gap tail behind rest : List Char} {parts again : BlockParts} {c : Char} {k : Nat}
    (visible : Text.isBlank c = false) (block : BlockAt (parts.source ++ behind) parts behind)
    (fits : k + openMark.length ≤ gap.length) (found : BlockAt ((gap ++ c :: tail).drop k) again rest) :
    ∃ parts' rest', BlockAt ((gap ++ (parts.source ++ behind)).drop k) parts' rest' := by
  obtain ⟨rest, opens⟩ := found.opens
  obtain ⟨left, opened⟩ := exists_drop_eq_word fits opens
  rw [List.drop_append_of_le_length (by omega)] at found ⊢
  obtain ⟨d, line, starts, visible'⟩ := found.visible
  obtain ⟨e, ends, isEnds, isEnd⟩ := isLineEnd_of_isBreak block.broken
  have whole := found.whole
  rw [opened, BlockParts.source, starts] at whole
  simp only [List.append_assoc, List.cons_append] at whole
  obtain ⟨middle, rfl, starts'⟩ := pads_prefix found.pads visible (List.append_cancel_left whole)
  -- What is visible behind the padding is a character of the gap or the delimiter of the block itself.
  obtain ⟨first, more, shown, joined⟩ : ∃ first more, Text.isBlank first = false ∧
      middle ++ openMark = first :: more := by
    rcases starts' with rfl | ⟨tail, rfl⟩
    · exact ⟨'@', _, by decide, rfl⟩
    · exact ⟨d, _, visible', rfl⟩
  have again := exists_blockAt (more ++ (parts.pads ++ parts.line)) (ends ++ parts.body)
    found.padded found.pads shown isEnd block.closed.free
  rw [← List.cons_append, ← joined] at again
  rw [opened]
  simpa only [BlockParts.source, BlockParts.closing, isEnds, List.append_assoc, List.cons_append]
    using again

theorem Block.reference_edges (block : Block) :
    ∃ inner, block.reference.toList = '!' :: inner ++ [')'] := by
  refine ⟨'[' :: (block.title.toList ++ (']' :: '(' :: (escapeLocator (block.locator.getD "")).toList)), ?_⟩
  simp [block.reference_toList]

/-- An opening delimiter stands before a reference, inside it or behind it. -/
theorem openMark_at_reference {gap later rest : List Char} {block : Block} {k : Nat}
    (opens : (gap ++ (block.reference.toList ++ later)).drop k = openMark ++ rest) :
    k + openMark.length ≤ gap.length ∨
      gap.length ≤ k ∧ k + openMark.length ≤ gap.length + block.reference.toList.length ∨
      gap.length + block.reference.toList.length ≤ k := by
  obtain ⟨inner, edges⟩ := block.reference_edges
  rw [edges] at opens ⊢
  have left : (gap ++ '!' :: (inner ++ [')'] ++ later)).drop k = openMark ++ rest := by
    simpa using opens
  have right : ((gap ++ '!' :: inner) ++ ')' :: later).drop k = openMark ++ rest := by
    simpa using opens
  have first := word_beside (by decide) left
  have last := word_beside (by decide) right
  simp only [List.length_append, List.length_cons, List.length_nil] at last ⊢
  omega

/-- A block of the result starts inside a reference. -/
theorem BlocksFrom.covers_of_blockStart {locators : Block → String}
    (found : BlocksFrom fallback text index offset blocks) (shown : Nat) {k : Nat}
    (again : BlockStart (spliceFrom text offset (blocks.map (Block.located locators))) k) :
    ∃ place ∈ insertedFrom offset shown (blocks.map (Block.located locators)),
      place.Covers (shown + k) := by
  induction found generalizing shown k with
  | done absent =>
    -- No block is left, so the result goes on as the source does.
    rw [List.map_nil, spliceFrom, BlockStart, List.drop_drop] at again
    exact absurd again (absent _ (Nat.le_add_right _ k))
  | @next index offset start parts behind blocks least block _ ih =>
    obtain ⟨gap, wide, split⟩ := block.exists_gap least.1.1
    rw [List.map_cons] at again ⊢
    generalize same : (parts.toBlock fallback index start).located locators = located at again ⊢
    have starts : located.start = start := by rw [← same]; rfl
    have stops : located.stop = start + parts.source.length := by rw [← same]; rfl
    rw [spliceFrom_of_gap split (by rw [wide, starts]), stops] at again
    obtain ⟨parts', behind', reads⟩ := again
    obtain ⟨rest, opens⟩ := reads.opens
    simp only [insertedFrom, List.mem_cons, exists_eq_or_imp, Inserted.Covers, Inserted.stop, starts,
      stops, ← wide]
    rcases openMark_at_reference opens with before | inside | later
    · -- A block of the source would start before the least start.
      obtain ⟨inner, edges⟩ := located.reference_edges
      rw [edges, List.cons_append, List.cons_append] at reads
      rw [block.whole] at block
      obtain ⟨parts'', rest', early⟩ := BlockAt.of_gap (by decide) block before reads
      rw [← split, List.drop_drop] at early
      have := least.2 ⟨Nat.le_add_right offset k, parts'', rest', early⟩
      have := least.1.1
      omega
    · left
      omega
    · right
      obtain ⟨k, rfl⟩ := Nat.exists_eq_add_of_le later
      rw [← List.length_append, ← List.append_assoc, ← List.drop_drop, List.drop_left] at reads
      obtain ⟨place, member, covers⟩ := ih (shown + gap.length + located.reference.toList.length)
        ⟨parts', behind', reads⟩
      refine ⟨place, member, ?_⟩
      rw [Inserted.Covers, Inserted.stop] at covers
      omega

end

/-! ### The whole document -/

theorem openMark_infix_append_cons (first : List Char) {second : List Char} {c : Char} (foreign : c ∉ openMark)
    (inside : openMark <:+: first ++ c :: second) : openMark <:+: first ∨ openMark <:+: second := by
  obtain ⟨front, rest, whole⟩ := inside
  rw [List.append_assoc] at whole
  have opens : (first ++ c :: second).drop front.length = openMark ++ rest := by
    rw [← whole, List.drop_left]
  rcases word_beside foreign opens with before | behind
  · obtain ⟨left, opened⟩ := exists_drop_eq_word before opens
    exact .inl (infix_of_drop opened)
  · obtain ⟨k, more⟩ := Nat.exists_eq_add_of_lt behind
    rw [more, Nat.add_assoc, ← List.drop_drop, List.drop_left, List.drop_succ_cons] at opens
    exact .inr (infix_of_drop opens)

/-- A reference holds an opening delimiter only in its title or in its locator. -/
theorem Block.openMark_infix_reference {block : Block} (inside : openMark <:+: block.reference.toList) :
    openMark <:+: block.title.toList ∨
      openMark <:+: (escapeLocator (block.locator.getD "")).toList := by
  have absent : ¬ openMark <:+: ([] : List Char) := by decide
  rw [block.reference_toList] at inside
  -- The characters that a reference puts around title and locator do not belong to the delimiter.
  have behind {c : Char} {text : List Char} (foreign : c ∉ openMark) (inside : openMark <:+: c :: text) :
      openMark <:+: text := (openMark_infix_append_cons [] foreign inside).resolve_left absent
  have named := behind (by decide) (behind (by decide) inside)
  rcases openMark_infix_append_cons _ (by decide) named with title | rest
  · exact .inl title
  · have located := behind (by decide) rest
    exact .inr ((openMark_infix_append_cons _ (by decide) located).resolve_right absent)

theorem Inserted.Covers.openMark_within {place : Inserted} {result rest : List Char} {start : Nat}
    (covers : place.Covers start) (stands : place.block.reference.toList <+: result.drop place.start)
    (opens : result.drop start = openMark ++ rest) : openMark <:+: place.block.reference.toList := by
  obtain ⟨behind, whole⟩ := stands
  obtain ⟨k, rfl⟩ := Nat.exists_eq_add_of_le covers.1
  have fits := covers.2
  rw [Inserted.stop] at fits
  rw [← List.drop_drop, ← whole] at opens
  obtain ⟨left, opened⟩ := exists_drop_eq_word (by omega) opens
  exact infix_of_drop opened

theorem toList_eq_spliceFrom {text fallback result : String} {locators : Block → String}
    {listed : List Block} (permuted : listed.Perm (renderedBlocks text fallback locators))
    (rewritten : rewrite text listed = .ok result) :
    result.toList = spliceFrom text.toList 0 (renderedBlocks text fallback locators) := by
  rw [rewrite, inIndexOrder_renderedBlocks permuted] at rewritten
  cases read : rewriteFrom 0 text.toList (renderedBlocks text fallback locators) with
  | error failure =>
    rw [read] at rewritten
    cases rewritten
  | ok replaced =>
    rw [read] at rewritten
    cases rewritten
    rw [String.toList_ofList]
    exact (rewriteFrom_eq_spliceFrom (.of_scan text fallback) read).1

theorem mem_of_mem_insertedFrom {cursor shown : Nat} {blocks : List Block} {place : Inserted}
    (member : place ∈ insertedFrom cursor shown blocks) : place.block ∈ blocks := by
  induction blocks generalizing cursor shown with
  | nil => cases member
  | cons block blocks ih =>
    rcases List.mem_cons.1 member with rfl | member
    · exact List.mem_cons_self
    · exact List.mem_cons_of_mem _ (ih member)

section
variable {text fallback result : String} {locators : Block → String}

theorem reference_at_of_spliced
    (spliced : result.toList = spliceFrom text.toList 0 (renderedBlocks text fallback locators)) :
    ∀ place ∈ inserted (renderedBlocks text fallback locators),
      place.block.reference.toList <+: result.toList.drop place.start := by
  rw [spliced]
  exact (BlocksFrom.of_scan text fallback).reference_at []

theorem covers_of_spliced
    (spliced : result.toList = spliceFrom text.toList 0 (renderedBlocks text fallback locators))
    {start : Nat} (again : BlockStart result.toList start) :
    ∃ place ∈ inserted (renderedBlocks text fallback locators), place.Covers start := by
  rw [spliced] at again
  have covered := (BlocksFrom.of_scan text fallback).covers_of_blockStart 0 again
  rw [Nat.zero_add] at covered
  exact covered

end

/-- An opening delimiter with padding and something visible behind it, and somewhere behind that a line end and then
    a closing delimiter that no word character follows. -/
def OpensBlock (text : List Char) : Prop :=
  ∃ (pads middle between behind : List Char) (c e : Char),
    text = openMark ++ (pads ++ (c :: middle ++ e :: (between ++ closeMark ++ behind))) ∧ pads ≠ [] ∧
      (∀ d ∈ pads, Text.isPad d = true) ∧ Text.isBlank c = false ∧ Text.isLineEnd e = true ∧
      NoWordNext behind

theorem blockStart_iff_opensBlock {text : List Char} {start : Nat} :
    BlockStart text start ↔ OpensBlock (text.drop start) := by
  constructor
  · rintro ⟨parts, behind, block⟩
    obtain ⟨c, middle, line, visible⟩ := block.visible
    obtain ⟨e, ends, lineEnd, isEnd⟩ := isLineEnd_of_isBreak block.broken
    refine ⟨parts.pads, middle, ends ++ parts.body, behind, c, e, ?_, block.padded, block.pads, visible, isEnd,
      block.closed.free⟩
    rw [block.whole]
    simp only [BlockParts.source, BlockParts.closing, line, lineEnd, List.append_assoc, List.cons_append]
  · rintro ⟨pads, middle, between, behind, c, e, whole, padded, allPads, visible, isEnd, free⟩
    rw [BlockStart, whole]
    exact exists_blockAt middle between padded allPads visible isEnd free

/-- A reference of the result holds an opening delimiter that takes a closing delimiter left behind it. -/
def Reopened (blocks : List Block) (result : String) : Prop :=
  ∃ place ∈ inserted blocks, ∃ start, place.Covers start ∧ OpensBlock (result.toList.drop start)

theorem scan_eq_nil_iff_not_reopened {text fallback result : String} {locators : Block → String}
    (spliced : result.toList = spliceFrom text.toList 0 (renderedBlocks text fallback locators))
    (format : String) :
    scan result format = [] ↔ ¬ Reopened (renderedBlocks text fallback locators) result := by
  rw [scan_eq_nil_iff]
  constructor
  · rintro free ⟨place, _, start, _, opens⟩
    exact free start (blockStart_iff_opensBlock.2 opens)
  · intro settled start again
    obtain ⟨place, member, covers⟩ := covers_of_spliced spliced again
    exact settled ⟨place, member, start, covers, blockStart_iff_opensBlock.1 again⟩

/-- A title or a locator shows an opening delimiter when a reference holds one. -/
theorem openMark_shown_of_reopened {text fallback result : String} {locators : Block → String}
    (spliced : result.toList = spliceFrom text.toList 0 (renderedBlocks text fallback locators))
    (reopened : Reopened (renderedBlocks text fallback locators) result) :
    ∃ block ∈ scan text fallback, openMark <:+: block.title.toList ∨
      openMark <:+: (escapeLocator (locators block)).toList := by
  obtain ⟨place, member, start, covers, _, _, _, _, _, _, opens, _⟩ := reopened
  have inside := covers.openMark_within (reference_at_of_spliced spliced place member) opens
  obtain ⟨block, scanned, same⟩ := List.mem_map.1 (mem_of_mem_insertedFrom member)
  have shown := Block.openMark_infix_reference inside
  rw [← same] at shown
  exact ⟨block, scanned, shown⟩

/-- Putting a reference in place of a block changes the text. -/
theorem BlocksFrom.spliceFrom_ne {fallback : String} {text : List Char} {index offset : Nat}
    {blocks : List Block} {locators : Block → String} (found : BlocksFrom fallback text index offset blocks)
    (nonempty : blocks ≠ []) :
    spliceFrom text offset (blocks.map (Block.located locators)) ≠ text.drop offset := by
  cases found with
  | done => exact absurd rfl nonempty
  | @next _ _ start parts behind blocks least block _ =>
    intro same
    obtain ⟨gap, wide, split⟩ := block.exists_gap least.1.1
    rw [List.map_cons, spliceFrom_of_gap split wide, split] at same
    obtain ⟨inner, edges⟩ := Block.reference_edges ((parts.toBlock fallback _ start).located locators)
    rw [edges] at same
    have first := (List.cons.inj (List.append_cancel_left same)).1
    cases first

/-- No text copied from the source starts a block of the result. Every block that is found there has its
    opening delimiter inside a reference, so there is none when no title and no locator shows one. -/
theorem starts_in_reference_of_rewrite {text fallback result : String} {locators : Block → String}
    {listed : List Block} (permuted : listed.Perm (renderedBlocks text fallback locators))
    (rewritten : rewrite text listed = .ok result) (format : String) :
    (∀ place ∈ inserted (renderedBlocks text fallback locators),
        place.block.reference.toList <+: result.toList.drop place.start) ∧
      (∀ block ∈ scan result format,
        ∃ place ∈ inserted (renderedBlocks text fallback locators), place.Covers block.start) ∧
      ((∀ block ∈ scan text fallback, ¬ openMark <:+: block.title.toList ∧
          ¬ openMark <:+: (escapeLocator (locators block)).toList) →
        scan result format = []) := by
  have spliced := toList_eq_spliceFrom permuted rewritten
  refine ⟨reference_at_of_spliced spliced, ?_, ?_⟩
  · intro block found
    obtain ⟨_, start, parts, behind, here, rfl⟩ := (BlocksFrom.of_scan result format).exists_of_mem block found
    exact covers_of_spliced spliced ⟨parts, behind, here⟩
  · intro hidden
    rw [scan_eq_nil_iff_not_reopened spliced]
    intro reopened
    obtain ⟨block, scanned, inside⟩ := openMark_shown_of_reopened spliced reopened
    exact inside.elim (hidden block scanned).1 (hidden block scanned).2

/-- An opening delimiter is left in the text and another one in the title; only the second one finds the closing
    delimiter that is left behind it. -/
theorem starts_in_reference_of_title :
    (∀ place ∈ inserted (renderedBlocks "@startuml\n@startuml @startuml b\nA\n@enduml\n@enduml" "png"
          Block.payload),
        place.block.reference.toList <+:
          "@startuml\n![@startuml b](A)\n@enduml".toList.drop place.start) ∧
      (∀ block ∈ scan "@startuml\n![@startuml b](A)\n@enduml" "svg",
        ∃ place ∈ inserted (renderedBlocks "@startuml\n@startuml @startuml b\nA\n@enduml\n@enduml" "png"
          Block.payload), place.Covers block.start) ∧
      ((∀ block ∈ scan "@startuml\n@startuml @startuml b\nA\n@enduml\n@enduml" "png",
          ¬ openMark <:+: block.title.toList ∧
            ¬ openMark <:+: (escapeLocator block.payload).toList) →
        scan "@startuml\n![@startuml b](A)\n@enduml" "svg" = []) :=
  starts_in_reference_of_rewrite (.refl _) (by
    rw [rewrite, inIndexOrder_renderedBlocks (.refl _)]
    decide +kernel) "svg"

end DiagramWeave
