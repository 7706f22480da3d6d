import DiagramWeave.Proofs.Block.Header

/-!
# Finding a scanned block again

At the place of a scanned block the search by title takes its first alternative everywhere: the longest padding, the
format when there is one, the line end that counts as one. So it ends exactly where the block ends, provided that nothing
but padding was dropped between title and point. When something else was dropped, no cut of the block's text
fits, because the dropped blank is neither padding nor a point nor a line end.
-/
namespace DiagramWeave

/-! ### First alternatives -/

theorem padRests_append {pads : List Char} (rest : List Char) (all : ∀ c ∈ pads, Text.isPad c = true)
    (stop : ∀ c, rest.head? = some c → Text.isPad c = false) :
    ∃ more, padRests (pads ++ rest) = rest :: more := by
  induction pads with
  | nil =>
    cases rest with
    | nil => exact ⟨[], rfl⟩
    | cons c rest => exact ⟨[], by simp [padRests, stop c rfl]⟩
  | cons d pads ih =>
    obtain ⟨more, found⟩ := ih fun c member => all c (List.mem_cons_of_mem _ member)
    exact ⟨more ++ [d :: pads ++ rest], by simp [padRests, all d List.mem_cons_self, found]⟩

theorem breakRests_append {lineEnd rest : List Char} (broken : IsBreak lineEnd rest) :
    ∃ more, breakRests (lineEnd ++ rest) = rest :: more := by
  rcases broken with rfl | rfl | ⟨rfl, alone⟩
  · exact ⟨['\n' :: rest], rfl⟩
  · exact ⟨[], rfl⟩
  · cases rest with
    | nil => exact ⟨[], rfl⟩
    | cons c rest =>
      have other : c ≠ '\n' := fun same => alone (by rw [same]; rfl)
      exact ⟨[], by simp [breakRests, other]⟩

theorem formatRests_point {extension letters rest : List Char}
    (same : List.Forall₂ (fun c d => Text.sameLetter c d = true) extension letters) :
    ∃ more, formatRests extension ('.' :: letters ++ rest) = rest :: more := by
  have read := afterAnyCase?_eq_some.2 ⟨letters, (rfl : letters ++ rest = _), same⟩
  exact ⟨['.' :: letters ++ rest], by simp [formatRests, read]⟩

theorem formatRests_of_isLineEnd {extension rest : List Char} {e : Char}
    (isEnd : Text.isLineEnd e = true) : formatRests extension (e :: rest) = [e :: rest] := by
  have other : e ≠ '.' := by
    rintro rfl
    cases isEnd
  simp [formatRests, other]

theorem isPad_of_isLineEnd {e : Char} (isEnd : Text.isLineEnd e = true) : Text.isPad e = false := by
  simp only [Text.isLineEnd, Bool.or_eq_true, beq_iff_eq] at isEnd
  rcases isEnd with rfl | rfl <;> decide

/-- What stands behind a title and its blanks: the format with padding behind it, or the line end at once. -/
theorem head?_suffix_not_pad {extension suffix trail rest : List Char}
    (isSuffix : FormatSuffix extension suffix) (short : suffix = [] → trail = [])
    (stop : ∀ d, rest.head? = some d → Text.isPad d = false) :
    ∀ d, (suffix ++ (trail ++ rest)).head? = some d → Text.isPad d = false := by
  intro d first
  rcases isSuffix with none | ⟨letters, some, _⟩
  · rw [none, short none] at first
    exact stop d first
  · rw [some] at first
    cases first
    decide

theorem formatRests_suffix {extension suffix trail rest : List Char} {e : Char}
    (isSuffix : FormatSuffix extension suffix) (short : suffix = [] → trail = [])
    (isEnd : Text.isLineEnd e = true) :
    ∃ more, formatRests extension (suffix ++ (trail ++ e :: rest)) = (trail ++ e :: rest) :: more := by
  rcases isSuffix with none | ⟨letters, some, letter⟩
  · rw [none, short none]
    exact ⟨[], formatRests_of_isLineEnd isEnd⟩
  · rw [some]
    exact formatRests_point letter

/-- When every first alternative fits, the search ends behind the first closing delimiter that follows. -/
theorem TitledAt.afterTitled? {title extension text behind : List Char}
    {parts : TitledParts} (block : TitledAt title extension text parts behind)
    (visible : StartsVisibly title)
    (broken : IsBreak parts.lineEnd (parts.body ++ closeMark ++ behind))
    (short : parts.suffix = [] → parts.trail = []) :
    DiagramWeave.afterTitled? title extension text = some behind := by
  obtain ⟨c, tail, rfl, visible⟩ := visible
  obtain ⟨pad, pads, same⟩ := List.exists_cons_of_ne_nil block.padded
  obtain ⟨e, ends, isEnds, isEnd⟩ := isLineEnd_of_isBreak broken
  have allPads := block.pads
  rw [same] at allPads
  have opened : Text.after? openMark text = some (pad :: (pads ++ (parts.titleLine (c :: tail) ++
      (parts.body ++ closeMark ++ behind)))) := by
    rw [Text.after?_eq_some, block.whole, same, List.cons_append]
  have titled : Text.after? (c :: tail)
      (parts.titleLine (c :: tail) ++ (parts.body ++ closeMark ++ behind)) =
      some (parts.gap ++ (parts.suffix ++ (parts.trail ++ (parts.lineEnd ++
        (parts.body ++ closeMark ++ behind))))) := by
    rw [Text.after?_eq_some, TitledParts.titleLine]
    simp only [List.append_assoc]
  have stop : ∀ d, (parts.lineEnd ++ (parts.body ++ closeMark ++ behind)).head? = some d →
      Text.isPad d = false := by
    intro d first
    rw [isEnds] at first
    cases first
    exact isPad_of_isLineEnd isEnd
  have morePads : ∀ d ∈ pads, Text.isPad d = true := by
    intro d member
    exact allPads d (List.mem_cons_of_mem _ member)
  -- Of each list of alternatives the first one leads to the end.
  obtain ⟨moreNames, names⟩ := padRests_append
    (parts.titleLine (c :: tail) ++ (parts.body ++ closeMark ++ behind)) morePads fun d first => by
      cases first
      exact isPad_of_visible visible
  obtain ⟨moreGaps, gaps⟩ := padRests_append _ block.gap (head?_suffix_not_pad block.suffix short stop)
  obtain ⟨moreFormats, formats⟩ : ∃ more, formatRests extension
      (parts.suffix ++ (parts.trail ++ (parts.lineEnd ++ (parts.body ++ closeMark ++ behind)))) =
        (parts.trail ++ (parts.lineEnd ++ (parts.body ++ closeMark ++ behind))) :: more := by
    rw [isEnds]
    exact formatRests_suffix block.suffix short isEnd
  obtain ⟨moreTrails, trails⟩ := padRests_append _ block.trail stop
  obtain ⟨moreBreaks, breaks⟩ := breakRests_append broken
  have closed := splitAtClose?_eq_some.2 block.closed
  unfold DiagramWeave.afterTitled?
  simp only [opened, allPads pad List.mem_cons_self, if_true, names, List.findSome?_cons, titled,
    Option.bind_some, gaps, formats, trails, breaks, closed, Option.map_some]

/-! ### The header of a block -/

theorem BlockAt.header_cut {text behind : List Char} {parts : BlockParts}
    (block : BlockAt text parts behind) :
    StartsVisibly parts.header ∧
      ∃ trail, parts.line = parts.header ++ trail ∧ ∀ d ∈ trail, Text.isPad d = true := by
  obtain ⟨c, tail, starts, visible⟩ := block.visible
  obtain ⟨rest, trimmed⟩ := trimEnd_cons tail (isPad_of_visible visible)
  rw [← starts] at trimmed
  exact ⟨⟨c, rest, trimmed, visible⟩, exists_dropped_of_trimEnd Text.isPad parts.line⟩

/-- The title of a block that a scan finds is a piece of one line, and its first character can be seen. -/
theorem title_of_mem_scan {text fallback : String} {block : Block} (found : block ∈ scan text fallback) :
    StartsVisibly block.title.toList ∧ ∀ c ∈ block.title.toList, Text.isLineEnd c = false := by
  obtain ⟨_, _, parts, _, here, rfl⟩ := (BlocksFrom.of_scan text fallback).exists_of_mem block found
  obtain ⟨starts, trail, line, _⟩ := here.header_cut
  have cut := headerCut_splitHeader fallback starts
  simp only [BlockParts.toBlock, String.toList_ofList]
  refine ⟨cut.startsVisibly starts, ?_⟩
  intro c member
  apply here.oneLine
  rw [line]
  apply List.mem_append_left
  generalize (splitHeader parts.header fallback).1 = title at cut member
  generalize (splitHeader parts.header fallback).2 = extension at cut
  cases cut with
  | plain => exact member
  | formatted whole =>
    rw [whole]
    exact List.mem_append_left _ member

/-- A block whose title is followed by padding alone is found again, and up to its end. -/
theorem BlockAt.afterTitled? {text behind : List Char} {parts : BlockParts}
    (block : BlockAt text parts behind) (padded : PaddedPoint parts.header) (fallback : String) :
    DiagramWeave.afterTitled? (splitHeader parts.header fallback).1
      (splitHeader parts.header fallback).2.toList text = some behind := by
  obtain ⟨starts, trail, line, allTrail⟩ := block.header_cut
  have cut := headerCut_splitHeader fallback starts
  have visible := cut.startsVisibly starts
  have member : parts.lineEnd ∈ lineEnds := by
    rcases block.broken with same | same | ⟨same, _⟩ <;> simp [lineEnds, same]
  have whole := block.whole
  simp only [BlockParts.source, BlockParts.closing, List.append_assoc] at whole
  have closed := block.closed
  simp only [BlockParts.closing] at closed
  generalize (splitHeader parts.header fallback).1 = title at cut visible ⊢
  generalize (splitHeader parts.header fallback).2 = extension at cut ⊢
  cases cut with
  | plain =>
    have titled : TitledAt parts.header fallback.toList text
        ⟨parts.pads, trail, [], [], parts.lineEnd, parts.body⟩ behind := by
      refine ⟨?_, block.padded, block.pads, allTrail, .inl rfl, by simp, member, closed⟩
      rw [whole, line]
      simp [TitledParts.titleLine]
    exact titled.afterTitled? visible block.broken fun _ => rfl
  | @formatted _ blanks suffix format split _ _ letters condition =>
    have titled : TitledAt title format.name.toList text
        ⟨parts.pads, blanks, '.' :: suffix, trail, parts.lineEnd, parts.body⟩ behind := by
      refine ⟨?_, block.padded, block.pads, condition.1 padded, .inr ⟨_, rfl, letters⟩, allTrail,
        member, closed⟩
      rw [whole, line, split]
      simp [TitledParts.titleLine]
    exact titled.afterTitled? visible block.broken (by simp)

theorem span_unique {p : Char → Bool} {first second : List Char} {c d : Char} {behind rest : List Char}
    (same : first ++ c :: behind = second ++ d :: rest) (all : ∀ e ∈ first, p e = true)
    (stop : p c = false) (all' : ∀ e ∈ second, p e = true) (stop' : p d = false) :
    first = second ∧ c :: behind = d :: rest := by
  obtain ⟨taken, left⟩ := span_append behind all stop
  obtain ⟨taken', left'⟩ := span_append rest all' stop'
  rw [same] at taken left
  exact ⟨taken.symm.trans taken', left.symm.trans left'⟩

/-- A blank that can stand inside a line. -/
def isInnerBlank (c : Char) : Bool :=
  Text.isBlank c && !Text.isLineEnd c

theorem isInnerBlank_of_isPad {c : Char} (pad : Text.isPad c = true) : isInnerBlank c = true := by
  simp only [Text.isPad, Bool.or_eq_true, beq_iff_eq] at pad
  rcases pad with rfl | rfl <;> decide

/-- Behind a title, blanks up to a point are read as the gap of a titled block, and perhaps its padding in front of the
    line end. In both readings they end at the first character that is no inner blank. -/
theorem TitledAt.isPad_of_blanks {title extension text behind blanks letters rest : List Char}
    {parts : TitledParts} (block : TitledAt title extension text parts behind)
    (inner : ∀ c ∈ blanks, isInnerBlank c = true)
    (same : blanks ++ '.' :: letters =
      parts.gap ++ (parts.suffix ++ (parts.trail ++ (parts.lineEnd ++ rest)))) :
    ∀ c ∈ blanks, Text.isPad c = true := by
  obtain ⟨e, ends, isEnds, isEnd⟩ := isLineEnd_of_mem_lineEnds block.broken
  have stop : isInnerBlank e = false := by simp [isInnerBlank, isEnd]
  rcases block.suffix with none | ⟨letters, some, _⟩
  · have padding : ∀ c ∈ parts.gap ++ parts.trail, Text.isPad c = true := by
      intro c member
      exact (List.mem_append.1 member).elim (block.gap c) (block.trail c)
    rw [none, isEnds, List.nil_append, ← List.append_assoc] at same
    obtain ⟨blanksSame, _⟩ := span_unique same inner (by decide)
      (fun c member => isInnerBlank_of_isPad (padding c member)) stop
    rw [blanksSame]
    exact padding
  · rw [some, List.cons_append] at same
    obtain ⟨blanksSame, _⟩ := span_unique same inner (by decide)
      (fun c member => isInnerBlank_of_isPad (block.gap c member)) (by decide)
    rw [blanksSame]
    exact block.gap

/-- When a block is matched by its own title and format, only padding was dropped. -/
theorem BlockAt.paddedPoint {text behind rest : List Char} {parts : BlockParts} {fallback : String}
    (block : BlockAt text parts behind)
    (found : DiagramWeave.afterTitled? (splitHeader parts.header fallback).1
      (splitHeader parts.header fallback).2.toList text = some rest) :
    PaddedPoint parts.header := by
  obtain ⟨starts, trail, line, allTrail⟩ := block.header_cut
  have cut := headerCut_splitHeader fallback starts
  have titled := cut.startsVisibly starts
  obtain ⟨again, matched⟩ := titledAt_of_afterTitled? found
  generalize (splitHeader parts.header fallback).1 = title at cut titled matched
  generalize (splitHeader parts.header fallback).2 = extension at cut matched
  cases cut with
  | plain padded => exact padded
  | @formatted _ blanks suffix format split _ allBlanks _ condition =>
    obtain ⟨c, tail, rfl, visible⟩ := titled
    have whole := matched.whole
    rw [block.whole, TitledParts.titleLine] at whole
    simp only [BlockParts.source, line, split, List.append_assoc, List.cons_append] at whole
    -- Both paddings end at the title, which starts visibly, so both readings go on with the same text.
    obtain ⟨_, sameTitle⟩ := span_unique (List.append_cancel_left whole) block.pads
      (isPad_of_visible visible) matched.pads (isPad_of_visible visible)
    have sameGap := List.append_cancel_left (List.cons.inj sameTitle).2
    have inner : ∀ d ∈ blanks, isInnerBlank d = true := by
      intro d member
      have inLine : d ∈ parts.line := by
        rw [line, split]
        simp [member]
      simp [isInnerBlank, allBlanks d member, block.oneLine d inLine]
    rw [condition]
    exact matched.isPad_of_blanks inner sameGap

end DiagramWeave
