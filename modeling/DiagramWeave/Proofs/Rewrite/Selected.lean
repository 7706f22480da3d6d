import DiagramWeave.Proofs.Rewrite.Placed
import DiagramWeave.Proofs.Rewrite.Success
import Mathlib.Data.List.Pairwise

/-!
# Rewriting with some of the blocks

When blocks of a document are left out, the search for the next one starts at the end of the block that was given before
it and meets the blocks between the two first. What it takes for the block it looks for is the first place that reads as
a block of that title and format, and every such place lies within the span of a block of the document. So the given
blocks, and they alone, are replaced exactly when none of the blocks that are passed over reads like the one that is
looked for, at its start or further inside.
-/
namespace DiagramWeave

variable {text fallback : String} {locators : Block → String} {cursor start stop : Nat}
  {given listed blocks : List Block} {block left : Block}

/-- `left` stands before `block`, and behind every given block that stands before `block`. -/
def PassedOver (given : List Block) (left block : Block) : Prop :=
  left.stop ≤ block.start ∧ ∀ other ∈ given, other.stop ≤ block.start → other.stop ≤ left.start

/-- Somewhere in the span of `left` the text reads as a block with the title and format of `block`. -/
def Block.Masks (text : String) (left block : Block) : Prop :=
  ∃ start stop, left.start ≤ start ∧ start < left.stop ∧ block.ReadsAt text.toList start stop

/-! ### The spans of a document's blocks -/

/-- A block of the grammar starts within the span of a scanned block, where the scan has passed. -/
theorem BlocksFrom.exists_span {text : List Char} {index offset k : Nat}
    (found : BlocksFrom fallback text index offset blocks) (above : offset ≤ k) (starts : BlockStart text k) :
    ∃ block ∈ blocks, block.start ≤ k ∧ k < block.stop := by
  induction found with
  | done absent => exact absurd starts (absent k above)
  | @next index offset start parts behind blocks least block _ ih =>
    by_cases inside : k < start + parts.source.length
    · exact ⟨_, List.mem_cons_self, least.2 ⟨above, starts⟩, inside⟩
    · obtain ⟨later, member, span⟩ := ih (by omega)
      exact ⟨later, List.mem_cons_of_mem _ member, span⟩

theorem BlocksFrom.standInTurn {index offset : Nat} (found : BlocksFrom fallback text.toList index offset blocks) :
    StandInTurn text blocks ∧ ∀ block ∈ blocks, offset ≤ block.start := by
  induction found with
  | done => exact ⟨⟨by simp, by simp, .nil⟩, by simp⟩
  | @next index offset start parts behind blocks least block _ ih =>
    obtain ⟨⟨place, source, apart⟩, after⟩ := ih
    have wide := List.length_pos_iff.2 parts.source_ne_nil
    have long := congrArg List.length block.whole
    simp only [List.length_drop, List.length_append, String.length_toList] at long
    refine ⟨⟨?_, ?_, ?_⟩, ?_⟩
    · refine List.forall_mem_cons.2 ⟨⟨?_, ?_⟩, place⟩
      · exact Nat.lt_add_of_pos_right wide
      · simp only [BlockParts.toBlock]
        omega
    · refine List.forall_mem_cons.2 ⟨?_, source⟩
      simp only [BlockParts.toBlock, Nat.add_sub_cancel_left, String.toList_ofList, block.whole, List.take_left]
    · exact List.pairwise_cons.2 ⟨after, apart⟩
    · refine List.forall_mem_cons.2 ⟨least.1.1, fun later member => ?_⟩
      have := after later member
      have := least.1.1
      omega

theorem StandInTurn.sublist (stand : StandInTurn text blocks) (selected : given.Sublist blocks) :
    StandInTurn text given :=
  ⟨fun block member => stand.place block (selected.subset member),
    fun block member => stand.source block (selected.subset member), stand.apart.sublist selected⟩

/-- Of two blocks, one ends before the other starts. -/
theorem StandInTurn.apart_of_ne {one other : Block} (stand : StandInTurn text blocks) (first : one ∈ blocks)
    (second : other ∈ blocks) (distinct : one ≠ other) : one.stop ≤ other.start ∨ other.stop ≤ one.start := by
  have : Std.Symm fun one other : Block => one.stop ≤ other.start ∨ other.stop ≤ one.start := ⟨fun _ _ => Or.symm⟩
  have either : blocks.Pairwise fun one other => one.stop ≤ other.start ∨ other.stop ≤ one.start :=
    stand.apart.imp fun before => .inl before
  exact either.forall first second distinct

theorem standInTurn_renderedBlocks (text fallback : String) (locators : Block → String) :
    StandInTurn text (renderedBlocks text fallback locators) := by
  obtain ⟨place, source, apart⟩ := (BlocksFrom.of_scan text fallback).standInTurn.1
  refine ⟨?_, ?_, List.pairwise_map.2 apart⟩
  · exact List.forall_mem_map.2 place
  · exact List.forall_mem_map.2 source

theorem start_lt_stop_of_mem (member : block ∈ renderedBlocks text fallback locators) : block.start < block.stop :=
  ((standInTurn_renderedBlocks text fallback locators).place block member).1

theorem inIndexOrder_selected (selected : given.Sublist (renderedBlocks text fallback locators))
    (permuted : listed.Perm given) : inIndexOrder listed = given := by
  refine inIndexOrder_of_perm permuted (List.Pairwise.sublist selected (List.pairwise_map.2 ?_))
  exact (BlocksFrom.of_scan text fallback).ascending.2

/-! ### One block -/

/-- `block` was scanned from a text of these parts. -/
structure Block.ScannedAs (text fallback : String) (block : Block) (parts : BlockParts) (behind : List Char) :
    Prop where
  here : BlockAt (text.toList.drop block.start) parts behind
  title : block.title.toList = (splitHeader parts.header fallback).1
  extension : block.extension = (splitHeader parts.header fallback).2
  header : block.header = parts.header
  stop : block.stop = block.start + parts.source.length

theorem exists_scannedAs (member : block ∈ renderedBlocks text fallback locators) :
    ∃ parts behind, block.ScannedAs text fallback parts behind := by
  obtain ⟨scanned, found, rfl⟩ := List.mem_map.1 member
  obtain ⟨number, start, parts, behind, here, rfl⟩ := (BlocksFrom.of_scan text fallback).exists_of_mem scanned found
  have header : (parts.toBlock fallback number start).header = parts.header := here.header_toBlock
  exact ⟨parts, behind, here, String.toList_ofList, rfl, header, rfl⟩

theorem Block.ReadsAt.getElem?_start {text : List Char} (reads : block.ReadsAt text start stop) :
    text[start]? = some '@' := by
  obtain ⟨titled, rest, reads, _⟩ := reads
  have first := congrArg List.head? reads.whole
  rwa [List.head?_drop] at first

theorem getElem?_start_of_mem (member : block ∈ renderedBlocks text fallback locators) :
    text.toList[block.start]? = some '@' := by
  obtain ⟨parts, behind, scanned⟩ := exists_scannedAs member
  have first := congrArg List.head? scanned.here.whole
  rwa [List.head?_drop] at first

/-- Where only padding was dropped behind the title, a scanned block reads as a block of its own title. -/
theorem Block.ScannedAs.readsAt_start {parts : BlockParts} {behind : List Char}
    (scanned : block.ScannedAs text fallback parts behind) (padded : PaddedPoint block.header) :
    block.ReadsAt text.toList block.start block.stop := by
  have read := scanned.here.afterTitled? (scanned.header ▸ padded) fallback
  rw [← scanned.title, ← scanned.extension] at read
  obtain ⟨titled, reads⟩ := afterTitled?_eq_some.1 read
  have same := List.append_cancel_right (scanned.here.whole.symm.trans reads.source_append)
  exact ⟨titled, behind, reads, by rw [scanned.stop, same]⟩

theorem Block.ScannedAs.paddedPoint {parts : BlockParts} {behind : List Char}
    (scanned : block.ScannedAs text fallback parts behind) (reads : block.ReadsAt text.toList block.start stop) :
    PaddedPoint block.header := by
  obtain ⟨rest, read⟩ := Option.isSome_iff_exists.1 (Block.exists_readsAt.1 ⟨stop, reads⟩)
  rw [scanned.title, scanned.extension] at read
  exact scanned.header ▸ scanned.here.paddedPoint read

/-- Where the text reads as a block of the title of a scanned block, a block of the grammar starts. -/
theorem Block.ScannedAs.blockStart {parts : BlockParts} {behind : List Char} {k : Nat}
    (scanned : block.ScannedAs text fallback parts behind) (reads : block.ReadsAt text.toList k stop) :
    BlockStart text.toList k := by
  obtain ⟨titled, rest, reads, _⟩ := reads
  obtain ⟨starts, _⟩ := scanned.here.header_cut
  have visible := (headerCut_splitHeader fallback starts).startsVisibly starts
  rw [← scanned.title] at visible
  exact reads.blockAt visible

/-- The search lands on a scanned block when the block reads as one of its own title and nothing before it does. -/
theorem search?_eq_recorded_iff (member : block ∈ renderedBlocks text fallback locators)
    (above : cursor ≤ block.start) :
    block.search? text cursor = some (block.start, block.stop, block.source) ↔
      PaddedPoint block.header ∧
        ∀ k, cursor ≤ k → k < block.start → ∀ stop, ¬ block.ReadsAt text.toList k stop := by
  obtain ⟨parts, behind, scanned⟩ := exists_scannedAs member
  constructor
  · intro found
    obtain ⟨least, reads, _⟩ := Block.readsAt_of_search? found
    refine ⟨scanned.paddedPoint reads, fun k past below stop early => ?_⟩
    exact absurd (least.2 ⟨past, stop, early⟩) (Nat.not_le.2 below)
  · rintro ⟨padded, clear⟩
    have reads := scanned.readsAt_start padded
    cases found : block.search? text cursor with
    | none => exact absurd reads (Block.search?_eq_none.1 found _ above _)
    | some place =>
      obtain ⟨start, stop, matched⟩ := place
      obtain ⟨least, reads', rfl⟩ := Block.readsAt_of_search? found
      have early : start ≤ block.start := least.2 ⟨above, _, reads⟩
      have late : ¬ start < block.start := fun below => clear start least.1.1 below stop reads'
      obtain rfl : start = block.start := Nat.le_antisymm early (Nat.not_lt.1 late)
      obtain rfl : stop = block.stop := reads'.stop_unique reads
      rw [(standInTurn_renderedBlocks text fallback locators).source block member, String.ofList_toList]

/-! ### One rewriting -/

/-- A piece that starts with one character can be put into a text in place of another character at one place only. -/
theorem eq_of_take_append {text piece piece' : List Char} {m n : Nat} {c d : Char} (other : c ≠ d)
    (here : text[m]? = some d) (there : text[n]? = some d)
    (same : text.take m ++ c :: piece = text.take n ++ c :: piece') : m = n ∧ piece = piece' := by
  have within {k : Nat} (present : text[k]? = some d) : (text.take k).length = k :=
    List.length_take_of_le (List.getElem?_eq_some_iff.1 present).1.le
  -- Where the shorter front ends, one side has the piece and the other still has the text.
  have no_longer {m n : Nat} {piece piece' : List Char} (here : text[m]? = some d) (there : text[n]? = some d)
      (same : text.take m ++ c :: piece = text.take n ++ c :: piece') : ¬ m < n := by
    intro below
    have at_m := congrArg (fun whole => whole[m]?) same
    rw [List.getElem?_append_right (within here).le, within here, Nat.sub_self,
      List.getElem?_append_left (by rwa [within there]), List.getElem?_take_of_lt below, here] at at_m
    exact other (Option.some.inj at_m)
  obtain rfl : m = n := by
    have := no_longer here there same
    have := no_longer there here same.symm
    omega
  exact ⟨rfl, (List.cons.inj (List.append_cancel_left same)).2⟩

/-- The given blocks come from the scan, and stand one behind the other from `cursor` on. -/
structure Chosen (text fallback : String) (locators : Block → String) (cursor : Nat) (given : List Block) : Prop where
  scanned : ∀ block ∈ given, block ∈ renderedBlocks text fallback locators
  apart : given.Pairwise fun first second => first.stop ≤ second.start
  above : ∀ block ∈ given, cursor ≤ block.start

theorem Chosen.cons (chosen : Chosen text fallback locators cursor (block :: given)) :
    block ∈ renderedBlocks text fallback locators ∧ cursor ≤ block.start ∧
      Chosen text fallback locators block.stop given := by
  obtain ⟨scanned, apart, above⟩ := chosen
  obtain ⟨after, apart⟩ := List.pairwise_cons.1 apart
  exact ⟨scanned block List.mem_cons_self, above block List.mem_cons_self,
    fun later member => scanned later (List.mem_cons_of_mem _ member), apart, after⟩

theorem isSome_locator (member : block ∈ renderedBlocks text fallback locators) : block.locator.isSome := by
  obtain ⟨scanned, _, rfl⟩ := List.mem_map.1 member
  rfl

/-- A reference that replaces another span than that of its block shows in the result. -/
theorem found_at_place (member : block ∈ renderedBlocks text fallback locators) (above : cursor ≤ block.start)
    (found : block.search? text cursor = some (start, stop, block.source)) {replaced rest : List Char}
    (same : (text.toList.drop cursor).take (start - cursor) ++ block.reference.toList ++ replaced =
      (text.toList.drop cursor).take (block.start - cursor) ++ block.reference.toList ++ rest) :
    start = block.start ∧ stop = block.stop ∧ replaced = rest := by
  obtain ⟨parts, behind, scanned⟩ := exists_scannedAs member
  obtain ⟨least, reads, _⟩ := Block.readsAt_of_search? found
  have past : cursor ≤ start := least.1.1
  -- The first mark of the reference stands where an opening delimiter was.
  have here : (text.toList.drop cursor)[start - cursor]? = some '@' := by
    rw [List.getElem?_drop, Nat.add_sub_cancel' past, reads.getElem?_start]
  have there : (text.toList.drop cursor)[block.start - cursor]? = some '@' := by
    rw [List.getElem?_drop, Nat.add_sub_cancel' above, getElem?_start_of_mem member]
  simp only [Block.reference_toList, List.append_assoc, List.cons_append] at same
  obtain ⟨place, behind⟩ := eq_of_take_append (by decide) here there same
  obtain rfl : start = block.start := by omega
  refine ⟨rfl, reads.stop_unique (scanned.readsAt_start (scanned.paddedPoint reads)), ?_⟩
  simpa only [List.cons.injEq, true_and, List.append_cancel_left_eq] using behind

/-- A rewriting comes to the splice just when it finds every block at its place. -/
theorem Chosen.rewriteFrom_eq_iff (chosen : Chosen text fallback locators cursor given) :
    rewriteFrom cursor (text.toList.drop cursor) given = .ok (spliceFrom text.toList cursor given) ↔
      FoundInTurn text cursor given := by
  induction given generalizing cursor with
  | nil => exact iff_of_true rfl trivial
  | cons block given ih =>
    obtain ⟨member, above, later⟩ := chosen.cons
    rw [FoundInTurn, ← ih later]
    constructor
    · intro rewritten
      rcases block.found_or_refused text cursor with ⟨rendered, start, stop, found⟩ | ⟨failure, refused⟩
      · rw [rewriteFrom_found rendered found] at rewritten
        cases rest : rewriteFrom stop (text.toList.drop stop) given with
        | error failure =>
          rw [rest] at rewritten
          cases rewritten
        | ok replaced =>
          rw [rest] at rewritten
          obtain ⟨rfl, rfl, rfl⟩ := found_at_place member above found (Except.ok.inj rewritten)
          exact ⟨found, rest⟩
      · rw [rewriteFrom_refused refused] at rewritten
        cases rewritten
    · rintro ⟨found, rest⟩
      rw [rewriteFrom_found (isSome_locator member) found, rest]
      rfl

/-- No place before `block`, and behind all given blocks that stand before it, reads as a block with its title. -/
def Clear (text : String) (cursor : Nat) (given : List Block) (block : Block) : Prop :=
  ∀ k, cursor ≤ k → (∀ other ∈ given, other.stop ≤ block.start → other.stop ≤ k) → k < block.start →
    ∀ stop, ¬ block.ReadsAt text.toList k stop

/-- Before the first block no given block stands. -/
theorem Chosen.clear_head (chosen : Chosen text fallback locators cursor (block :: given)) :
    Clear text cursor (block :: given) block ↔
      ∀ k, cursor ≤ k → k < block.start → ∀ stop, ¬ block.ReadsAt text.toList k stop := by
  obtain ⟨member, _, later⟩ := chosen.cons
  have none : ∀ other ∈ block :: given, ¬ other.stop ≤ block.start := by
    intro other listed before
    have wide := start_lt_stop_of_mem (chosen.scanned other listed)
    rcases List.mem_cons.1 listed with rfl | listed
    · omega
    · have := start_lt_stop_of_mem member
      have := later.above other listed
      omega
  constructor
  · intro clear k past
    exact clear k past fun other listed before => absurd before (none other listed)
  · intro clear k past _
    exact clear k past

/-- Before any other block the first one stands. -/
theorem Chosen.clear_tail (chosen : Chosen text fallback locators cursor (block :: given)) {other : Block}
    (listed : other ∈ given) : Clear text cursor (block :: given) other ↔ Clear text block.stop given other := by
  obtain ⟨member, above, later⟩ := chosen.cons
  have wide := start_lt_stop_of_mem member
  have before := later.above other listed
  constructor
  · intro clear k past behind
    exact clear k (by omega) (List.forall_mem_cons.2 ⟨fun _ => past, behind⟩)
  · intro clear k _ behind
    obtain ⟨past, behind⟩ := List.forall_mem_cons.1 behind
    exact clear k (past before) behind

theorem Chosen.foundInTurn_iff (chosen : Chosen text fallback locators cursor given) :
    FoundInTurn text cursor given ↔ ∀ block ∈ given, PaddedPoint block.header ∧ Clear text cursor given block := by
  induction given generalizing cursor with
  | nil => simp [FoundInTurn]
  | cons block given ih =>
    obtain ⟨member, above, later⟩ := chosen.cons
    rw [FoundInTurn, search?_eq_recorded_iff member above, ih later, List.forall_mem_cons, chosen.clear_head]
    refine and_congr_right' (forall₂_congr fun other listed => ?_)
    rw [chosen.clear_tail listed]

/-! ### The blocks that are passed over -/

/-- A place that reads as a block lies within a block of the document, so what has to be clear are the blocks that are
    passed over. -/
theorem clear_iff (selected : given.Sublist (renderedBlocks text fallback locators)) (member : block ∈ given) :
    Clear text 0 given block ↔ ∀ left ∈ scan text fallback, PassedOver given left block → ¬ left.Masks text block := by
  constructor
  · rintro clear left _ ⟨before, behind⟩ ⟨start, stop, past, inside, reads⟩
    refine clear start start.zero_le (fun other listed ends => ?_) (by omega) stop reads
    exact (behind other listed ends).trans past
  · intro unmasked k _ behind below stop reads
    obtain ⟨parts, rest, scanned⟩ := exists_scannedAs (selected.subset member)
    obtain ⟨left, listed, past, inside⟩ :=
      (BlocksFrom.of_scan text fallback).exists_span k.zero_le (scanned.blockStart reads)
    -- Two blocks at two places do not overlap.
    have apart {other : Block} (known : other ∈ given) (distinct : left.start ≠ other.start ∨ left.stop ≠ other.stop) :
        left.stop ≤ other.start ∨ other.stop ≤ left.start := by
      have inScan : left.located locators ∈ renderedBlocks text fallback locators := List.mem_map_of_mem listed
      have different : left.located locators ≠ other := by
        rintro rfl
        exact distinct.elim (fun start => start rfl) (fun stop => stop rfl)
      have either := (standInTurn_renderedBlocks text fallback locators).apart_of_ne inScan (selected.subset known)
        different
      exact either
    refine unmasked left listed ⟨?_, fun other known ends => ?_⟩ ⟨k, stop, past, inside, reads⟩
    · have := start_lt_stop_of_mem (selected.subset member)
      have := apart member (by omega)
      omega
    · have := start_lt_stop_of_mem (selected.subset known)
      have := behind other known ends
      have := apart known (by omega)
      omega

/-- When some of the blocks of a document are given, in any order, these and no others are replaced just when no header
    of theirs drops more than padding before the point of the format, and no block that is passed over reads, at its
    start or further inside, like the given block behind it. -/
theorem rewrite_selected_iff (selected : given.Sublist (renderedBlocks text fallback locators))
    (permuted : listed.Perm given) :
    rewrite text listed = .ok (splice text given) ↔
      ∀ block ∈ given, PaddedPoint block.header ∧
        ∀ left ∈ scan text fallback, PassedOver given left block → ¬ left.Masks text block := by
  have chosen : Chosen text fallback locators 0 given := by
    refine ⟨fun block member => selected.subset member, ?_, fun _ _ => Nat.zero_le _⟩
    exact ((standInTurn_renderedBlocks text fallback locators).sublist selected).apart
  have whole := chosen.rewriteFrom_eq_iff
  rw [List.drop_zero] at whole
  have result : rewrite text listed = .ok (splice text given) ↔
      rewriteFrom 0 text.toList given = .ok (spliceFrom text.toList 0 given) := by
    rw [rewrite, inIndexOrder_selected selected permuted, splice]
    cases rewriteFrom 0 text.toList given with
    | error failure => simp [Except.map]
    | ok replaced => simp [Except.map, String.ofList_inj]
  rw [result, whole, chosen.foundInTurn_iff]
  exact forall₂_congr fun block member => and_congr_right' (clear_iff selected member)

/-- A block of another title is left out, and the others are listed backwards. -/
theorem rewrite_selected_iff_unlike :
    rewrite "@startuml b\nB\n@enduml @startuml a.SVG\nA\n@enduml @startuml a\nA\n@enduml"
        ((renderedBlocks "@startuml b\nB\n@enduml @startuml a.SVG\nA\n@enduml @startuml a\nA\n@enduml" "png"
          fun _ => "x").drop 1).reverse =
      .ok "@startuml b\nB\n@enduml ![a](x) ![a](x)" ∧
    ∀ block ∈ (renderedBlocks "@startuml b\nB\n@enduml @startuml a.SVG\nA\n@enduml @startuml a\nA\n@enduml" "png"
        fun _ => "x").drop 1,
      PaddedPoint block.header ∧
        ∀ left ∈ scan "@startuml b\nB\n@enduml @startuml a.SVG\nA\n@enduml @startuml a\nA\n@enduml" "png",
          PassedOver ((renderedBlocks "@startuml b\nB\n@enduml @startuml a.SVG\nA\n@enduml @startuml a\nA\n@enduml"
              "png" fun _ => "x").drop 1) left block →
            ¬ left.Masks "@startuml b\nB\n@enduml @startuml a.SVG\nA\n@enduml @startuml a\nA\n@enduml" block := by
  have rewritten : rewrite "@startuml b\nB\n@enduml @startuml a.SVG\nA\n@enduml @startuml a\nA\n@enduml"
      ((renderedBlocks "@startuml b\nB\n@enduml @startuml a.SVG\nA\n@enduml @startuml a\nA\n@enduml" "png"
        fun _ => "x").drop 1).reverse = .ok "@startuml b\nB\n@enduml ![a](x) ![a](x)" := by
    rw [rewrite, inIndexOrder_selected (List.drop_sublist 1 _) (List.reverse_perm _)]
    decide +kernel
  refine ⟨rewritten, (rewrite_selected_iff (List.drop_sublist 1 _) (List.reverse_perm _)).1 (rewritten.trans ?_)⟩
  decide +kernel

/-- The first of two like blocks is left out, and is replaced all the same, in the place of the other. Where only the
    titles are alike, the other is not found. -/
theorem rewrite_stops_at_left_out :
    (∀ block ∈ (renderedBlocks "@startuml a\nA\n@enduml @startuml a\nA\n@enduml" "png" fun _ => "x").drop 1,
      PaddedPoint block.header) ∧
    rewrite "@startuml a\nA\n@enduml @startuml a\nA\n@enduml"
      ((renderedBlocks "@startuml a\nA\n@enduml @startuml a\nA\n@enduml" "png" fun _ => "x").drop 1) =
        .ok "![a](x) @startuml a\nA\n@enduml" ∧
    splice "@startuml a\nA\n@enduml @startuml a\nA\n@enduml"
      ((renderedBlocks "@startuml a\nA\n@enduml @startuml a\nA\n@enduml" "png" fun _ => "x").drop 1) =
        "@startuml a\nA\n@enduml ![a](x)" ∧
    rewrite "@startuml a\nA\n@enduml @startuml a\nB\n@enduml"
      ((renderedBlocks "@startuml a\nA\n@enduml @startuml a\nB\n@enduml" "png" fun _ => "x").drop 1) =
        .error (.notFound "a" 0) := by
  refine ⟨?_, ?_, by decide +kernel, ?_⟩
  · have headers : ((renderedBlocks "@startuml a\nA\n@enduml @startuml a\nA\n@enduml" "png"
        fun _ => "x").drop 1).map Block.header = [['a']] := by decide +kernel
    intro block member stem suffix format cut
    have header : block.header ∈ [['a']] := headers ▸ List.mem_map_of_mem member
    rw [List.mem_singleton.1 header] at cut
    cases cut
  · rw [rewrite, inIndexOrder_selected (List.drop_sublist 1 _) (.refl _)]
    decide +kernel
  · rw [rewrite, inIndexOrder_selected (List.drop_sublist 1 _) (.refl _)]
    decide +kernel

end DiagramWeave
