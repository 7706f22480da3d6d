import DiagramWeave.Proofs.Rewrite.Splice

/-!
# When a rewriting succeeds

The search for a block lands on it exactly when nothing but padding was dropped between the title and the
point of the format. If so, the block matches at its place and no earlier place matches, because an earlier match
would be an earlier block. If not, the block does not match its own title, and the recorded text stands nowhere
before the next block. A rewriting therefore succeeds exactly when every header is of that kind.
-/
namespace DiagramWeave

/-- The header that stands in the recorded text of a block. -/
def Block.header (block : Block) : List Char :=
  match headerLine? block.source.toList with
  | some (header, _) => header
  | none => []

theorem BlockAt.header_toBlock {fallback : String} {text behind : List Char} {parts : BlockParts}
    {index start : Nat} (block : BlockAt text parts behind) :
    (parts.toBlock fallback index start).header = parts.header := by
  have alone : BlockAt parts.source parts [] := by
    rw [← List.append_nil parts.source]
    exact block.before fun c first => by cases first
  rw [Block.header, BlockParts.toBlock, String.toList_ofList, alone.headerAt.headerLine?]
  rfl

theorem BlockAt.findTitled?_iff {text behind : List Char} {parts : BlockParts} {offset start : Nat}
    (block : BlockAt (text.drop start) parts behind)
    (least : IsLeast {start | offset ≤ start ∧ BlockStart text start} start) (fallback : String) :
    (∃ before rest, findTitled? (splitHeader parts.header fallback).1
      (splitHeader parts.header fallback).2.toList (text.drop offset) =
        some (before, parts.source, rest)) ↔ PaddedPoint parts.header := by
  constructor
  · rintro ⟨before, rest, found⟩
    obtain ⟨place, rfl⟩ := block.found_at_start least found
    obtain ⟨whole, here, _⟩ := findTitled?_eq_some found
    rw [← block.whole] at here
    exact block.paddedPoint here
  · intro padded
    obtain ⟨before, wide, split⟩ := block.exists_gap least.1.1
    have here := block.afterTitled? padded fallback
    rw [block.whole] at here
    have visible := (headerCut_splitHeader fallback block.header_cut.1).startsVisibly
      block.header_cut.1
    refine ⟨before, behind, ?_⟩
    rw [split]
    refine findTitled?_append here fun k below => ?_
    -- An earlier match would be a block that starts before the least start.
    rw [← split]
    cases early : DiagramWeave.afterTitled? (splitHeader parts.header fallback).1
        (splitHeader parts.header fallback).2.toList ((text.drop offset).drop k) with
    | none => rfl
    | some rest =>
      obtain ⟨_, matched⟩ := titledAt_of_afterTitled? early
      obtain ⟨found, rest, earlier⟩ := matched.blockAt visible
      rw [List.drop_drop] at earlier
      have := least.2 ⟨Nat.le_add_right offset k, found, rest, earlier⟩
      omega

theorem rewriteFrom_succeeds_iff {fallback : String} {text : List Char} {index offset : Nat}
    {blocks : List Block} (found : BlocksFrom fallback text index offset blocks)
    (locators : Block → String) :
    (∃ result, rewriteFrom offset (text.drop offset) (blocks.map (Block.located locators)) =
      .ok result) ↔ ∀ block ∈ blocks, PaddedPoint block.header := by
  induction found with
  | done => simp [rewriteFrom]
  | @next index offset start parts behind blocks least block _ ih =>
    have source : ((parts.toBlock fallback index start).located locators).source.toList =
        parts.source := String.toList_ofList
    have title : ((parts.toBlock fallback index start).located locators).title.toList =
        (splitHeader parts.header fallback).1 := String.toList_ofList
    have behindStop : text.drop (start + parts.source.length) = behind := by
      rw [← List.drop_drop, block.whole, List.drop_left]
    rw [List.map_cons, List.forall_mem_cons, block.header_toBlock, ← ih, behindStop,
      ← block.findTitled?_iff least fallback]
    constructor
    · rintro ⟨result, rewritten⟩
      obtain ⟨before, rest, replaced, here, later, rfl⟩ := (rewriteFrom_cons rfl).1 rewritten
      rw [source, title] at here
      obtain ⟨place, rfl⟩ := block.found_at_start least here
      rw [source, ← place] at later
      exact ⟨⟨before, rest, here⟩, replaced, later⟩
    · rintro ⟨⟨before, rest, here⟩, replaced, later⟩
      obtain ⟨place, rfl⟩ := block.found_at_start least here
      refine ⟨_, (rewriteFrom_cons rfl).2 ⟨before, rest, replaced, ?_, ?_, rfl⟩⟩
      · rw [source, title]
        exact here
      · rw [source, ← place]
        exact later

/-- A rewriting succeeds exactly when, in every header, only padding stands between the title and the
    point of the format. -/
theorem rewrite_succeeds_iff {text fallback : String} {locators : Block → String}
    {listed : List Block} (permuted : listed.Perm (renderedBlocks text fallback locators)) :
    (∃ result, rewrite text listed = .ok result) ↔
      ∀ block ∈ scan text fallback, PaddedPoint block.header := by
  have whole := rewriteFrom_succeeds_iff (.of_scan text fallback) locators
  rw [rewrite, inIndexOrder_renderedBlocks permuted, ← whole, List.drop_zero, renderedBlocks]
  cases rewriteFrom 0 text.toList ((scan text fallback).map (Block.located locators)) with
  | error failure => simp [Except.map]
  | ok replaced => simp [Except.map]

/-- A tab before the point and a format in capitals. -/
theorem rewrite_succeeds_iff_tab :
    (∃ result, rewrite "@startuml a\t.SVG \r\nA\n@enduml @startuml b\nB\n@enduml"
      (renderedBlocks "@startuml a\t.SVG \r\nA\n@enduml @startuml b\nB\n@enduml" "png"
        Block.payload).reverse = .ok result) ↔
      ∀ block ∈ scan "@startuml a\t.SVG \r\nA\n@enduml @startuml b\nB\n@enduml" "png",
        PaddedPoint block.header :=
  rewrite_succeeds_iff (List.reverse_perm _)

/-- A no-break space before the point is dropped from the title, but the search does not pass over it. -/
theorem rewrite_fails_at_wide_blank :
    rewrite "@startuml foo\u00a0.svg\nA\n@enduml"
      (renderedBlocks "@startuml foo\u00a0.svg\nA\n@enduml" "png" fun _ => "x") =
        .error (.notFound "foo" 0) := by
  rw [rewrite, inIndexOrder_renderedBlocks (.refl _)]
  decide +kernel

end DiagramWeave
