import DiagramWeave.Proofs.Block.FoundAgain
import DiagramWeave.Rewrite
import Mathlib.Data.List.Nodup

/-!
# Rewriting is splicing

The rewriting of a document forgets where its blocks stood and looks each of them up by its title behind the block before
it. It is compared here with the splice, which trusts the recorded offsets and looks at no title.

The cursor of the rewriting always stands at the end of the block before, and there the least start of a block is the
place of the next one. A match of the search is a block of the grammar, so it cannot stand earlier. A match
that is the recorded text cannot stand later, because the same text matches at the recorded place too. So a
rewriting that succeeds has replaced the recorded spans, whatever the titles are.
-/
namespace DiagramWeave

/-! ### The splice -/

/-- The reference to the image of a block that has a locator. -/
def Block.reference (block : Block) : String :=
  "![" ++ block.title ++ "](" ++ escapeLocator (block.locator.getD "") ++ ")"

theorem Block.reference_toList (block : Block) :
    block.reference.toList = '!' :: '[' :: (block.title.toList ++ (']' :: '(' ::
      ((escapeLocator (block.locator.getD "")).toList ++ [')']))) := by
  simp [Block.reference]

/-- The text from `cursor` on with the recorded spans of the blocks replaced by their references. -/
def spliceFrom (text : List Char) (cursor : Nat) : List Block → List Char
  | [] => text.drop cursor
  | block :: blocks =>
    (text.drop cursor).take (block.start - cursor) ++ block.reference.toList ++
      spliceFrom text block.stop blocks

/-- The document with the recorded spans of the blocks replaced. -/
def splice (text : String) (blocks : List Block) : String :=
  String.ofList (spliceFrom text.toList 0 blocks)

/-- Each block in turn is found by its title at its recorded place, when the search starts at the end of
    the block before. -/
def FoundInTurn (text : String) (cursor : Nat) : List Block → Prop
  | [] => True
  | block :: blocks =>
    block.search? text cursor = some (block.start, block.stop, block.source) ∧
      FoundInTurn text block.stop blocks

/-- The block with the locator it is given. -/
def Block.located (locators : Block → String) (block : Block) : Block :=
  { block with locator := some (locators block) }

/-- The blocks of a document, each with the locator it is given. -/
def renderedBlocks (text fallback : String) (locators : Block → String) : List Block :=
  (scan text fallback).map (Block.located locators)

/-! ### Order -/

private theorem index_le_trans (a b c : Block) (first : decide (a.index ≤ b.index) = true)
    (second : decide (b.index ≤ c.index) = true) : decide (a.index ≤ c.index) = true := by
  simp only [decide_eq_true_eq] at *
  omega

private theorem index_le_total (a b : Block) :
    (decide (a.index ≤ b.index) || decide (b.index ≤ a.index)) = true := by
  simp only [Bool.or_eq_true, decide_eq_true_eq]
  omega

theorem inIndexOrder_perm (blocks : List Block) : (inIndexOrder blocks).Perm blocks :=
  List.mergeSort_perm blocks _

theorem inIndexOrder_sorted (blocks : List Block) :
    (inIndexOrder blocks).Pairwise fun first second => first.index ≤ second.index := by
  have sorted := List.pairwise_mergeSort index_le_trans index_le_total blocks
  exact sorted.imp of_decide_eq_true

/-- Blocks of one index come in the order in which they are listed. -/
theorem inIndexOrder_filter (blocks : List Block) (index : Int) :
    (inIndexOrder blocks).filter (fun block => block.index = index) =
      blocks.filter fun block => block.index = index := by
  have level : (blocks.filter fun block => block.index = index).Pairwise
      fun first second => decide (first.index ≤ second.index) = true := by
    apply List.pairwise_of_forall_mem_list
    intro first inFirst second inSecond
    have one := of_decide_eq_true (List.mem_filter.1 inFirst).2
    have other := of_decide_eq_true (List.mem_filter.1 inSecond).2
    exact decide_eq_true (le_of_eq (one.trans other.symm))
  have kept := List.sublist_mergeSort index_le_trans index_le_total level List.filter_sublist
  have kept' := kept.filter fun block => decide (block.index = index)
  simp only [List.filter_filter, Bool.and_self] at kept'
  exact (kept'.eq_of_length ((inIndexOrder_perm blocks).filter _).length_eq.symm).symm

theorem inIndexOrder_of_perm {listed ordered : List Block} (permuted : listed.Perm ordered)
    (ascending : ordered.Pairwise fun first second => first.index < second.index) :
    inIndexOrder listed = ordered := by
  have perm : (inIndexOrder listed).Perm ordered := (inIndexOrder_perm listed).trans permuted
  refine perm.eq_of_pairwise ?_ (inIndexOrder_sorted listed) (ascending.imp Int.le_of_lt)
  -- Two members of one index are the same block, as the indices ascend.
  intro a b inSorted inOrdered le ge
  have distinct : (ordered.map Block.index).Nodup :=
    List.pairwise_map.2 (ascending.imp fun below => Int.ne_of_lt below)
  exact List.inj_on_of_nodup_map distinct (perm.mem_iff.1 inSorted) inOrdered (Int.le_antisymm le ge)

theorem BlocksFrom.ascending {fallback : String} {text : List Char} {index offset : Nat}
    {blocks : List Block} (found : BlocksFrom fallback text index offset blocks) :
    (∀ block ∈ blocks, (index : Int) ≤ block.index) ∧
      blocks.Pairwise fun first second => first.index < second.index := by
  induction found with
  | done => exact ⟨by simp, .nil⟩
  | next _ _ _ ih =>
    obtain ⟨above, ordered⟩ := ih
    refine ⟨?_, List.pairwise_cons.2 ⟨?_, ordered⟩⟩
    · intro block member
      rcases List.mem_cons.1 member with rfl | member
      · exact Int.le_refl _
      · have := above block member
        push_cast at this
        omega
    · intro block member
      have := above block member
      simp only [BlockParts.toBlock]
      push_cast at this
      omega

theorem inIndexOrder_renderedBlocks {text fallback : String} {locators : Block → String}
    {listed : List Block} (permuted : listed.Perm (renderedBlocks text fallback locators)) :
    inIndexOrder listed = renderedBlocks text fallback locators := by
  refine inIndexOrder_of_perm permuted (List.pairwise_map.2 ?_)
  exact (BlocksFrom.of_scan text fallback).ascending.2

/-! ### Searching by title -/

theorem findTitled?_eq_some {title extension text before matched rest : List Char}
    (found : findTitled? title extension text = some (before, matched, rest)) :
    text = before ++ (matched ++ rest) ∧ afterTitled? title extension (matched ++ rest) = some rest ∧
      ∀ k < before.length, afterTitled? title extension (text.drop k) = none := by
  induction text generalizing before with
  | nil => cases found
  | cons c text ih =>
    rw [findTitled?] at found
    split at found
    · next here =>
      cases found
      -- What is left is an end of the text, so the text found is the rest of it.
      obtain ⟨parts, block⟩ := titledAt_of_afterTitled? here
      have suffix : rest <:+ c :: text := by
        rw [block.whole]
        simp only [← List.append_assoc]
        exact List.suffix_append _ _
      have joined : (c :: text).take ((c :: text).length - rest.length) ++ rest = c :: text := by
        obtain ⟨front, whole⟩ := suffix
        rw [← whole, List.length_append, Nat.add_sub_cancel, List.take_left]
      rw [joined]
      exact ⟨rfl, here, fun k below => absurd below (Nat.not_lt_zero k)⟩
    · next free =>
      obtain ⟨⟨inner, rest'⟩, later, same⟩ := Option.map_eq_some_iff.1 found
      cases same
      obtain ⟨whole, here, earlier⟩ := ih later
      refine ⟨by rw [List.cons_append, ← whole], here, fun k below => ?_⟩
      cases k with
      | zero => exact free
      | succ k => exact earlier k (Nat.lt_of_succ_lt_succ below)

theorem findTitled?_append {title extension before matched rest : List Char}
    (here : afterTitled? title extension (matched ++ rest) = some rest)
    (earlier : ∀ k < before.length,
      afterTitled? title extension ((before ++ (matched ++ rest)).drop k) = none) :
    findTitled? title extension (before ++ (matched ++ rest)) = some (before, matched, rest) := by
  induction before with
  | nil =>
    have taken : matched = (matched ++ rest).take ((matched ++ rest).length - rest.length) := by
      rw [List.length_append, Nat.add_sub_cancel, List.take_left]
    rw [List.nil_append]
    cases text : matched ++ rest with
    | nil =>
      rw [text] at here
      cases here
    | cons c tail =>
      rw [text] at here taken
      rw [findTitled?, here]
      simp only [← taken]
  | cons c before ih =>
    have free := earlier 0 (Nat.succ_pos _)
    have later := ih fun k below => earlier (k + 1) (Nat.succ_lt_succ below)
    rw [List.drop_zero, List.cons_append] at free
    rw [List.cons_append, findTitled?, free, later]
    rfl

/-! ### One block -/

theorem imageReference_of_isSome {block : Block} (rendered : block.locator.isSome) : imageReference block = .ok block.reference := by
  obtain ⟨locator, located⟩ := Option.isSome_iff_exists.1 rendered
  simp [imageReference, Block.reference, located]

section
variable {text : List Char} {offset start : Nat}

theorem rewriteFrom_cons {block : Block} {blocks : List Block} {result : List Char} {locator : String}
    (located : block.locator = some locator) :
    rewriteFrom offset text (block :: blocks) = .ok result ↔
      ∃ before rest replaced,
        findTitled? block.title.toList block.extension.toList text =
          some (before, block.source.toList, rest) ∧
        rewriteFrom (offset + before.length + block.source.toList.length) rest blocks =
          .ok replaced ∧
        result = before ++ block.reference.toList ++ replaced := by
  have rendered : block.locator.isSome := by rw [located, Option.isSome_some]
  rw [rewriteFrom, imageReference_of_isSome rendered]
  simp only [bind, Except.bind]
  -- Not found, found with another text, or found as recorded: only the last goes on.
  cases found : findTitled? block.title.toList block.extension.toList text with
  | none => simp [throw, throwThe, MonadExceptOf.throw]
  | some parts =>
    obtain ⟨before, matched, rest⟩ := parts
    dsimp only
    by_cases same : matched = block.source.toList
    · rw [if_pos same]
      subst same
      constructor
      · intro rewritten
        cases replaced : rewriteFrom (offset + before.length + block.source.toList.length) rest
            blocks with
        | error failure =>
          rw [replaced] at rewritten
          cases rewritten
        | ok behind =>
          rw [replaced] at rewritten
          cases rewritten
          exact ⟨before, rest, behind, rfl, replaced, rfl⟩
      · rintro ⟨_, _, behind, parts, replaced, rfl⟩
        cases parts
        rw [replaced]
        rfl
    · rw [if_neg same]
      constructor
      · intro rewritten
        cases rewritten
      · rintro ⟨_, _, _, parts, _, _⟩
        cases parts
        exact absurd rfl same

theorem BlockAt.exists_gap {parts : BlockParts} {behind : List Char}
    (block : BlockAt (text.drop start) parts behind) (above : offset ≤ start) :
    ∃ gap, gap.length = start - offset ∧ text.drop offset = gap ++ (parts.source ++ behind) := by
  refine ⟨(text.drop offset).take (start - offset), ?_, ?_⟩
  · have long := congrArg List.length block.whole
    have := List.length_pos_iff.2 parts.source_ne_nil
    simp only [List.length_drop, List.length_append] at long
    rw [List.length_take, List.length_drop]
    omega
  · rw [← block.whole, ← Nat.add_sub_cancel' above, ← List.drop_drop, Nat.add_sub_cancel_left,
      List.take_append_drop]

/-- Where the text of a scanned block was found, by whatever title, is the recorded place of the block. -/
theorem BlockAt.found_at_start {title extension : List Char} {parts : BlockParts}
    {behind before rest : List Char} (block : BlockAt (text.drop start) parts behind)
    (least : IsLeast {start | offset ≤ start ∧ BlockStart text start} start)
    (found : findTitled? title extension (text.drop offset) = some (before, parts.source, rest)) :
    start = offset + before.length ∧ rest = behind := by
  obtain ⟨whole, here, earlier⟩ := findTitled?_eq_some found
  obtain ⟨again, matched⟩ := titledAt_of_afterTitled? here
  -- The text found is the block itself, so a block starts here and the least start is no later.
  have moved : BlockAt (parts.source ++ rest) parts rest := block.before matched.closed.free
  have above : start ≤ offset + before.length := by
    refine least.2 ⟨Nat.le_add_right _ _, parts, rest, ?_⟩
    rw [← List.drop_drop, whole, List.drop_left]
    exact moved
  -- The same text matches at the least start, and the search takes the first match.
  have below : ¬ start < offset + before.length := by
    intro short
    have none := earlier (start - offset) (by have := least.1.1; omega)
    have front : parts.source =
        openMark ++ (again.pads ++ (again.titleLine title ++ (again.body ++ closeMark))) := by
      refine List.append_cancel_right (?_ : parts.source ++ rest = _ ++ rest)
      rw [matched.whole]
      simp only [List.append_assoc]
    have some := (matched.before block.closed.free).isSome_afterTitled?
    have place : (text.drop offset).drop (start - offset) = parts.source ++ behind := by
      rw [List.drop_drop, Nat.add_sub_cancel' least.1.1, block.whole]
    rw [place, front] at none
    simp only [List.append_assoc] at none some
    rw [none] at some
    cases some
  have place : start = offset + before.length := Nat.le_antisymm above (Nat.not_lt.1 below)
  refine ⟨place, ?_⟩
  have same := block.whole
  rw [place, ← List.drop_drop, whole, List.drop_left] at same
  exact List.append_cancel_left same

end

/-! ### The whole document -/

theorem rewriteFrom_eq_spliceFrom {fallback text : String} {index offset : Nat}
    {locators : Block → String} {blocks : List Block}
    (found : BlocksFrom fallback text.toList index offset blocks) {result : List Char}
    (rewritten : rewriteFrom offset (text.toList.drop offset)
      (blocks.map (Block.located locators)) = .ok result) :
    result = spliceFrom text.toList offset (blocks.map (Block.located locators)) ∧
      FoundInTurn text offset (blocks.map (Block.located locators)) := by
  induction found generalizing result with
  | done =>
    cases rewritten
    exact ⟨rfl, trivial⟩
  | @next index offset start parts behind blocks least block _ ih =>
    rw [List.map_cons] at rewritten ⊢
    obtain ⟨before, rest, replaced, here, later, rfl⟩ := (rewriteFrom_cons rfl).1 rewritten
    have source : ((parts.toBlock fallback index start).located locators).source.toList =
        parts.source := String.toList_ofList
    rw [source] at here later
    -- The cursor moves to the end of this block, which is where the grammar goes on.
    obtain ⟨place, rfl⟩ := block.found_at_start least here
    have behindStop : text.toList.drop (start + parts.source.length) = rest := by
      rw [← List.drop_drop, block.whole, List.drop_left]
    rw [← place, ← behindStop] at later
    obtain ⟨spliced, inTurn⟩ := ih later
    refine ⟨?_, ?_, inTurn⟩
    · have front : (text.toList.drop offset).take (start - offset) = before := by
        rw [(findTitled?_eq_some here).1, place, Nat.add_sub_cancel_left, List.take_left]
      rw [spliced, ← front]
      rfl
    · rw [Block.search?, here, Option.map_some]
      dsimp only
      rw [← place]
      rfl

/-- A rewriting that succeeds is the splice: each scanned span is replaced by its own reference and
    nothing else changes, in whatever order the blocks are listed and whatever their titles are. No
    search has landed on another span. -/
theorem rewrite_eq_splice {text fallback result : String} {locators : Block → String}
    {listed : List Block} (permuted : listed.Perm (renderedBlocks text fallback locators))
    (rewritten : rewrite text listed = .ok result) :
    result = splice text (renderedBlocks text fallback locators) ∧
      FoundInTurn text 0 (renderedBlocks text fallback locators) := by
  rw [rewrite, inIndexOrder_renderedBlocks permuted] at rewritten
  cases read : rewriteFrom 0 text.toList (renderedBlocks text fallback locators) with
  | error failure =>
    rw [read] at rewritten
    cases rewritten
  | ok replaced =>
    rw [read] at rewritten
    cases rewritten
    obtain ⟨spliced, inTurn⟩ := rewriteFrom_eq_spliceFrom (.of_scan text fallback) read
    exact ⟨congrArg String.ofList spliced, inTurn⟩

/-- Two blocks of one title, listed backwards. -/
theorem rewrite_eq_splice_repeated :
    "x\n![a](A) y ![a](B)" = splice "x\n@startuml a\nA\n@enduml y @startuml a\nB\n@enduml"
        (renderedBlocks "x\n@startuml a\nA\n@enduml y @startuml a\nB\n@enduml" "png"
          Block.payload) ∧
      FoundInTurn "x\n@startuml a\nA\n@enduml y @startuml a\nB\n@enduml" 0
        (renderedBlocks "x\n@startuml a\nA\n@enduml y @startuml a\nB\n@enduml" "png"
          Block.payload) :=
  rewrite_eq_splice (List.reverse_perm _) (by
    rw [rewrite, inIndexOrder_renderedBlocks (List.reverse_perm _)]
    decide +kernel)

end DiagramWeave
