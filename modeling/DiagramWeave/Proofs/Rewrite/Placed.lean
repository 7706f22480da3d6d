import DiagramWeave.Proofs.Block.TitleSearch
import DiagramWeave.Proofs.Rewrite.Outside
import Mathlib.Algebra.Ring.Nat

/-!
# Rewriting with any blocks

The blocks given to a rewriting need not come from the document: their indices, titles, formats, recorded texts and
locators may be anything. The rewriting takes them in the order of their index and goes through the document once. It
either finds every recorded text behind the one before it, and replaces just these pieces of the document, or stops at
the first block that has no locator or is not found. What is between the pieces is left as it was.
-/
namespace DiagramWeave

/-- The block as if it had been read at this place. -/
def Block.movedTo (block : Block) (start stop : Nat) : Block :=
  { block with start, stop }

/-- The block without its place. -/
def Block.unplaced (block : Block) : Block :=
  block.movedTo 0 0

/-- The blocks are found in turn, the first from `cursor` on, and the search for whatever comes next starts at `last`.
    Each block has a locator. `placed` are the blocks at the places where they were found. -/
inductive FoundAt (text : String) : Nat → List Block → List Block → Nat → Prop
  | none {cursor : Nat} : FoundAt text cursor [] [] cursor
  | next {cursor start stop last : Nat} {block : Block} {blocks placed : List Block} :
      block.locator.isSome → block.search? text cursor = some (start, stop, block.source) →
      FoundAt text stop blocks placed last →
      FoundAt text cursor (block :: blocks) (block.movedTo start stop :: placed) last

/-- Why the rewriting cannot go on with a block that is looked for from `cursor` on. -/
inductive Block.Refused (text : String) (cursor : Nat) (block : Block) : RewriteError → Prop
  | unrendered : block.locator = none → block.Refused text cursor (.noLocator block.title)
  | missing : block.locator.isSome → (∀ start stop, block.search? text cursor ≠ some (start, stop, block.source)) →
      block.Refused text cursor (.notFound block.title cursor)

/-- Each block has its recorded text at its place, and the places stand in the text one behind the other. -/
structure StandInTurn (text : String) (placed : List Block) : Prop where
  place : ∀ block ∈ placed, block.start < block.stop ∧ block.stop ≤ text.length
  source : ∀ block ∈ placed, (text.toList.drop block.start).take (block.stop - block.start) = block.source.toList
  apart : placed.Pairwise fun first second => first.stop ≤ second.start

/-- The blocks by their index, and those of one index in the order in which they are listed. -/
structure StablyOrdered (blocks ordered : List Block) : Prop where
  perm : ordered.Perm blocks
  sorted : ordered.Pairwise fun first second => first.index ≤ second.index
  stable : ∀ index : Int,
    ordered.filter (fun block => block.index = index) = blocks.filter fun block => block.index = index

theorem stablyOrdered_inIndexOrder (blocks : List Block) : StablyOrdered blocks (inIndexOrder blocks) :=
  ⟨inIndexOrder_perm blocks, inIndexOrder_sorted blocks, inIndexOrder_filter blocks⟩

/-- Distinct indices leave no choice. -/
theorem inIndexOrder_congr {blocks listed : List Block} (permuted : blocks.Perm listed)
    (distinct : (blocks.map Block.index).Nodup) : inIndexOrder listed = inIndexOrder blocks := by
  apply inIndexOrder_of_perm (permuted.symm.trans (inIndexOrder_perm blocks).symm)
  have apart : (inIndexOrder blocks).Pairwise fun first second => first.index ≠ second.index :=
    List.pairwise_map.1 (((inIndexOrder_perm blocks).map _).nodup_iff.2 distinct)
  exact (inIndexOrder_sorted blocks).imp₂ (fun _ _ below other => lt_of_le_of_ne below other) apart

section

variable {text : String} {cursor last start stop : Nat} {block : Block} {blocks placed later : List Block}
  {failure : RewriteError}

/-! ### One block -/

theorem Block.ReadsAt.bounds {text : List Char} (reads : block.ReadsAt text start stop) :
    start < stop ∧ stop ≤ text.length := by
  obtain ⟨parts, behind, titled, rfl⟩ := reads
  have long := congrArg List.length titled.source_append
  have marked : 0 < openMark.length := by decide
  simp only [List.length_drop, List.length_append, TitledParts.source] at long ⊢
  omega

/-- What is found stands behind the cursor, in one piece. -/
theorem Block.found_bounds {matched : String} (found : block.search? text cursor = some (start, stop, matched)) :
    cursor ≤ start ∧ start < stop ∧ stop ≤ text.length ∧
      (text.toList.drop start).take (stop - start) = matched.toList := by
  obtain ⟨least, reads, rfl⟩ := Block.readsAt_of_search? found
  obtain ⟨wide, inside⟩ := reads.bounds
  exact ⟨least.1.1, wide, inside, String.toList_ofList.symm⟩

/-- A block that is found is replaced, and the rest is done from its end on. -/
theorem rewriteFrom_found (rendered : block.locator.isSome)
    (found : block.search? text cursor = some (start, stop, block.source)) :
    rewriteFrom cursor (text.toList.drop cursor) (block :: blocks) =
      (rewriteFrom stop (text.toList.drop stop) blocks).map fun replaced =>
        (text.toList.drop cursor).take (start - cursor) ++ block.reference.toList ++ replaced := by
  obtain ⟨⟨before, source, rest⟩, here, same⟩ := Option.map_eq_some_iff.1 found
  obtain ⟨whole, _, _⟩ := findTitled?_eq_some here
  simp only [Prod.mk.injEq] at same
  obtain ⟨rfl, rfl, matched⟩ := same
  have recorded : source = block.source.toList := by rw [← matched, String.toList_ofList]
  -- The text from the cursor on is what was passed over, the recorded text, and the rest.
  have front : (text.toList.drop cursor).take (cursor + before.length - cursor) = before := by
    rw [Nat.add_sub_cancel_left, whole, List.take_left]
  have behind : text.toList.drop (cursor + before.length + source.length) = rest := by
    rw [← List.drop_drop, ← List.drop_drop, whole, List.drop_left, List.drop_left]
  rw [rewriteFrom, imageReference_of_isSome rendered, here, front, behind]
  simp only [bind, Except.bind, if_pos recorded]
  cases rewriteFrom (cursor + before.length + source.length) rest blocks <;> rfl

/-- A block that is refused ends the rewriting. -/
theorem rewriteFrom_refused (refused : block.Refused text cursor failure) :
    rewriteFrom cursor (text.toList.drop cursor) (block :: blocks) = .error failure := by
  cases refused with
  | unrendered free =>
    rw [rewriteFrom, imageReference, free]
    rfl
  | missing rendered absent =>
    rw [rewriteFrom, imageReference_of_isSome rendered]
    simp only [bind, Except.bind]
    cases found : findTitled? block.title.toList block.extension.toList (text.toList.drop cursor) with
    | none => rfl
    | some parts =>
      obtain ⟨before, matched, rest⟩ := parts
      have other : matched ≠ block.source.toList := by
        intro same
        apply absent (cursor + before.length) (cursor + before.length + matched.length)
        rw [Block.search?, found, Option.map_some, same]
        simp only [String.ofList_toList]
      simp only [if_neg other]
      rfl

theorem Block.found_or_refused (block : Block) (text : String) (cursor : Nat) :
    (block.locator.isSome ∧ ∃ start stop, block.search? text cursor = some (start, stop, block.source)) ∨
      ∃ failure, block.Refused text cursor failure := by
  cases located : block.locator with
  | none => exact .inr ⟨_, .unrendered located⟩
  | some locator =>
    have rendered : block.locator.isSome := by rw [located, Option.isSome_some]
    by_cases found : ∃ start stop, block.search? text cursor = some (start, stop, block.source)
    · exact .inl ⟨rfl, found⟩
    · exact .inr ⟨_, .missing rendered fun start stop here => found ⟨start, stop, here⟩⟩

/-! ### All blocks -/

theorem FoundAt.rewriteFrom_eq (found : FoundAt text cursor blocks placed last) :
    rewriteFrom cursor (text.toList.drop cursor) blocks = .ok (spliceFrom text.toList cursor placed) := by
  induction found with
  | none => rfl
  | next rendered here _ ih =>
    rw [rewriteFrom_found rendered here, ih]
    rfl

/-- A rewriting that stops behind the blocks it has found has nothing to show for them. -/
theorem FoundAt.rewriteFrom_append (found : FoundAt text cursor blocks placed last)
    (fails : rewriteFrom last (text.toList.drop last) later = .error failure) :
    rewriteFrom cursor (text.toList.drop cursor) (blocks ++ later) = .error failure := by
  induction found with
  | none => exact fails
  | next rendered here _ ih =>
    rw [List.cons_append, rewriteFrom_found rendered here, ih fails]
    rfl

/-- Either all blocks are found, or there is a first one that is refused. -/
theorem exists_foundAt (text : String) (blocks : List Block) (cursor : Nat) :
    (∃ placed last, FoundAt text cursor blocks placed last) ∨
      ∃ before block later placed last failure, blocks = before ++ block :: later ∧
        FoundAt text cursor before placed last ∧ block.Refused text last failure := by
  -- Where the next block is looked for depends on the ones before it.
  induction blocks generalizing cursor with
  | nil => exact .inl ⟨[], cursor, .none⟩
  | cons block blocks ih =>
    rcases block.found_or_refused text cursor with ⟨rendered, start, stop, here⟩ | ⟨failure, refused⟩
    · rcases ih stop with ⟨placed, last, found⟩ | ⟨before, next, later, placed, last, failure, rfl, found, refused⟩
      · exact .inl ⟨_, last, .next rendered here found⟩
      · exact .inr ⟨_, next, later, _, last, failure, rfl, .next rendered here found, refused⟩
    · exact .inr ⟨[], block, blocks, [], cursor, failure, rfl, .none, refused⟩

theorem FoundAt.unplaced_eq (found : FoundAt text cursor blocks placed last) :
    placed.map Block.unplaced = blocks.map Block.unplaced := by
  induction found with
  | none => rfl
  | next _ _ _ ih =>
    rw [List.map_cons, List.map_cons, ih]
    rfl

theorem FoundAt.rendered (found : FoundAt text cursor blocks placed last) : ∀ block ∈ blocks, block.locator.isSome := by
  induction found with
  | none => simp
  | next rendered _ _ ih => exact List.forall_mem_cons.2 ⟨rendered, ih⟩

/-- The places are those of the recorded texts, one behind the other and none of them before the cursor. -/
theorem FoundAt.standInTurn (found : FoundAt text cursor blocks placed last) :
    StandInTurn text placed ∧ ∀ block ∈ placed, cursor ≤ block.start := by
  induction found with
  | none => exact ⟨⟨by simp, by simp, .nil⟩, by simp⟩
  | next _ here _ ih =>
    obtain ⟨behind, wide, inside, taken⟩ := Block.found_bounds here
    obtain ⟨⟨place, source, apart⟩, after⟩ := ih
    refine ⟨⟨?_, ?_, ?_⟩, ?_⟩
    · exact List.forall_mem_cons.2 ⟨⟨wide, inside⟩, place⟩
    · exact List.forall_mem_cons.2 ⟨taken, source⟩
    · exact List.pairwise_cons.2 ⟨after, apart⟩
    · refine List.forall_mem_cons.2 ⟨behind, ?_⟩
      intro block member
      have := after block member
      omega

/-- The document itself is woven of what stands outside of the blocks and of their recorded texts. -/
theorem FoundAt.drop_eq_weave (found : FoundAt text cursor blocks placed last) :
    text.toList.drop cursor =
      weave (outside text.toList cursor placed) (placed.map fun block => block.source.toList) := by
  induction found with
  | none => simp [outside, weave]
  | @next cursor start stop last block blocks placed _ here _ ih =>
    obtain ⟨behind, wide, _, taken⟩ := Block.found_bounds here
    have first : (text.toList.drop cursor).drop (start - cursor) = text.toList.drop start := by
      rw [List.drop_drop, Nat.add_sub_cancel' behind]
    have second : (text.toList.drop start).drop (stop - start) = text.toList.drop stop := by
      rw [List.drop_drop, Nat.add_sub_cancel' wide.le]
    -- From the last piece back to the first, every piece is put in front of what follows it in the document.
    rw [outside, List.map_cons, weave, Block.movedTo]
    dsimp only
    rw [← ih, ← taken, ← second, List.append_assoc, List.take_append_drop, ← first, List.take_append_drop]

end

/-- What is read off the blocks apart from their places is what it was. -/
theorem map_eq_of_unplaced {α : Type} {placed ordered : List Block} (shown : Block → α)
    (blind : ∀ block, shown block.unplaced = shown block)
    (same : placed.map Block.unplaced = ordered.map Block.unplaced) : placed.map shown = ordered.map shown := by
  have through (blocks : List Block) : (blocks.map Block.unplaced).map shown = blocks.map shown := by
    rw [List.map_map]
    exact List.map_congr_left fun block _ => blind block
  rw [← through placed, same, through]

theorem length_weave (pieces : List (List Char)) (blocks : List Block) (shown : Block → String) :
    (weave pieces (blocks.map fun block => (shown block).toList)).length =
      pieces.flatten.length + (blocks.map fun block => (shown block).length).sum := by
  rw [(weave_perm _ _).length_eq, List.length_append, List.length_flatten, List.length_flatten, List.map_map]
  rfl

/-- The lengths of a document and of its rewriting differ as those of the recorded texts and of the references. -/
theorem FoundAt.length_splice {text : String} {blocks ordered placed : List Block} {last : Nat}
    (found : FoundAt text 0 ordered placed last) (permuted : ordered.Perm blocks) :
    (splice text placed).length + (blocks.map fun block => block.source.length).sum =
      text.length + (blocks.map fun block => block.reference.length).sum := by
  have sum (shown : Block → String) (blind : ∀ block, shown block.unplaced = shown block) :
      (placed.map fun block => (shown block).length).sum = (blocks.map fun block => (shown block).length).sum := by
    rw [map_eq_of_unplaced _ (fun block => congrArg String.length (blind block)) found.unplaced_eq]
    exact (permuted.map _).sum_nat
  have before : text.length = (outside text.toList 0 placed).flatten.length +
      (blocks.map fun block => block.source.length).sum := by
    have long := congrArg List.length found.drop_eq_weave
    rw [List.drop_zero, String.length_toList, length_weave _ _ Block.source, sum Block.source fun _ => rfl] at long
    exact long
  have after : (splice text placed).length = (outside text.toList 0 placed).flatten.length +
      (blocks.map fun block => block.reference.length).sum := by
    rw [splice, String.length_ofList, spliceFrom_eq_weave, length_weave _ _ Block.reference,
      sum Block.reference fun _ => rfl]
  omega

theorem FoundAt.rewrite_eq {text : String} {blocks placed : List Block} {last : Nat}
    (found : FoundAt text 0 (inIndexOrder blocks) placed last) : rewrite text blocks = .ok (splice text placed) := by
  have whole := found.rewriteFrom_eq
  rw [List.drop_zero] at whole
  rw [rewrite, whole]
  rfl

theorem FoundAt.rewrite_fails {text : String} {blocks before later placed : List Block} {block : Block} {last : Nat}
    {failure : RewriteError} (found : FoundAt text 0 before placed last)
    (split : inIndexOrder blocks = before ++ block :: later) (refused : block.Refused text last failure) :
    rewrite text blocks = .error failure := by
  have whole := found.rewriteFrom_append (@rewriteFrom_refused _ _ _ later _ refused)
  rw [List.drop_zero, ← split] at whole
  rw [rewrite, whole]
  rfl

theorem rewrite_eq_ok_iff {text result : String} {blocks : List Block} : rewrite text blocks = .ok result ↔
    ∃ placed last, FoundAt text 0 (inIndexOrder blocks) placed last ∧ result = splice text placed := by
  constructor
  · intro rewritten
    rcases exists_foundAt text (inIndexOrder blocks) 0 with ⟨placed, last, found⟩ |
        ⟨before, block, later, placed, last, failure, split, found, refused⟩
    · rw [found.rewrite_eq] at rewritten
      exact ⟨placed, last, found, (Except.ok.inj rewritten).symm⟩
    · rw [found.rewrite_fails split refused] at rewritten
      cases rewritten
  · rintro ⟨placed, last, found, rfl⟩
    exact found.rewrite_eq

theorem rewrite_eq_error_iff {text : String} {blocks : List Block} {failure : RewriteError} :
    rewrite text blocks = .error failure ↔
      ∃ before block later placed last, inIndexOrder blocks = before ++ block :: later ∧
        FoundAt text 0 before placed last ∧ block.Refused text last failure := by
  constructor
  · intro failed
    rcases exists_foundAt text (inIndexOrder blocks) 0 with ⟨placed, last, found⟩ |
        ⟨before, block, later, placed, last, failure', split, found, refused⟩
    · rw [found.rewrite_eq] at failed
      cases failed
    · rw [found.rewrite_fails split refused] at failed
      cases failed
      exact ⟨before, block, later, placed, last, split, found, refused⟩
  · rintro ⟨before, block, later, placed, last, split, found, refused⟩
    exact found.rewrite_fails split refused

/-- Whatever the blocks are, a rewriting takes them by their index and replaces one piece of the document for each, which
    is the recorded text of the block, the pieces one behind the other. What stands outside of the pieces is kept. It
    succeeds just when every block has a locator and is found, and fails for the first one that has none or is not
    found. The order of the list counts only for blocks of one index. -/
theorem rewrite_replaces_sources (text : String) (blocks : List Block) :
    StablyOrdered blocks (inIndexOrder blocks) ∧
    (∀ result, rewrite text blocks = .ok result →
      (∀ block ∈ blocks, block.locator.isSome) ∧
      ∃ placed, placed.map Block.unplaced = (inIndexOrder blocks).map Block.unplaced ∧
        StandInTurn text placed ∧
        text.toList = weave (outside text.toList 0 placed) (placed.map fun block => block.source.toList) ∧
        result.toList = weave (outside text.toList 0 placed) (placed.map fun block => block.reference.toList) ∧
        result.length + (blocks.map fun block => block.source.length).sum =
          text.length + (blocks.map fun block => block.reference.length).sum) ∧
    (∀ result, rewrite text blocks = .ok result ↔
      ∃ placed last, FoundAt text 0 (inIndexOrder blocks) placed last ∧ result = splice text placed) ∧
    (∀ failure, rewrite text blocks = .error failure ↔
      ∃ before block later placed last, inIndexOrder blocks = before ++ block :: later ∧
        FoundAt text 0 before placed last ∧ block.Refused text last failure) ∧
    ∀ listed, blocks.Perm listed → (blocks.map Block.index).Nodup → rewrite text listed = rewrite text blocks := by
  refine ⟨stablyOrdered_inIndexOrder blocks, ?_, fun _ => rewrite_eq_ok_iff, fun _ => rewrite_eq_error_iff, ?_⟩
  · intro result rewritten
    obtain ⟨placed, last, found, rfl⟩ := rewrite_eq_ok_iff.1 rewritten
    have whole := found.drop_eq_weave
    rw [List.drop_zero] at whole
    refine ⟨?_, placed, found.unplaced_eq, found.standInTurn.1, whole, ?_,
      found.length_splice (inIndexOrder_perm blocks)⟩
    · intro block member
      exact found.rendered block ((inIndexOrder_perm blocks).mem_iff.2 member)
    · rw [splice, String.toList_ofList, spliceFrom_eq_weave]
  · intro listed permuted distinct
    rw [rewrite, rewrite, inIndexOrder_congr permuted distinct]

-- Neither the recorded places nor the order of the list count.
example : rewrite "@startuml a\nA\n@enduml @startuml a.PNG\n@enduml."
    [⟨7, "@startuml a.PNG\n@enduml", "a", "png", "", 90, 80, some "i"⟩,
      ⟨-2, "@startuml a\nA\n@enduml", "a", "svg", "", 0, 0, some "j k"⟩] = .ok "![a](j%20k) ![a](i)." := by
  rw [rewrite, inIndexOrder_of_perm (.swap ..) (by simp)]
  decide +kernel

end DiagramWeave
