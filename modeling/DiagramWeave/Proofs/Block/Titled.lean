import DiagramWeave.Block.Search
import DiagramWeave.Proofs.Block.Grammar
import Mathlib.Data.List.Forall2

/-!
# Blocks found by their title

The search for a titled block tries several paddings one after another. Here its alternatives are described
as cuts of the text, so that a match is a cut of the text into the parts the search names, and every such cut makes
the search succeed. Two facts follow for the rewriting of a document. A titled block whose title starts visibly is a
block of the grammar, so the search cannot stop where the scan would not. And whether a text matches depends
on what follows it through the next character alone.
-/
namespace DiagramWeave

/-! ### The alternatives of the search as cuts -/

/-- The line ends a titled block may have behind its header. -/
def lineEnds : List (List Char) :=
  [['\r', '\n'], ['\r'], ['\n']]

/-- A point and the letters of the format, or nothing. -/
def FormatSuffix (extension suffix : List Char) : Prop :=
  suffix = [] ∨ ∃ letters, suffix = '.' :: letters ∧
    List.Forall₂ (fun c d => Text.sameLetter c d = true) extension letters

theorem mem_padRests {text rest : List Char} :
    rest ∈ padRests text ↔ ∃ pads, text = pads ++ rest ∧ ∀ c ∈ pads, Text.isPad c = true := by
  induction text with
  | nil =>
    simp only [padRests, List.mem_singleton]
    constructor
    · rintro rfl
      exact ⟨[], rfl, by simp⟩
    · rintro ⟨pads, whole, _⟩
      exact (List.append_eq_nil_iff.1 whole.symm).2
  | cons c text ih =>
    have here : rest = c :: text →
        ∃ pads, c :: text = pads ++ rest ∧ ∀ d ∈ pads, Text.isPad d = true := by
      rintro rfl
      exact ⟨[], rfl, by simp⟩
    unfold padRests
    by_cases pad : Text.isPad c = true
    · simp only [pad, if_true, List.mem_append, List.mem_singleton, ih]
      constructor
      · rintro (⟨pads, rfl, all⟩ | same)
        · exact ⟨c :: pads, rfl, by simpa [pad] using all⟩
        · exact here same
      · rintro ⟨pads, whole, all⟩
        cases pads with
        | nil => exact .inr whole.symm
        | cons d pads =>
          simp only [List.cons_append, List.cons.injEq] at whole
          exact .inl ⟨pads, whole.2, fun e member => all e (List.mem_cons_of_mem _ member)⟩
    · simp only [pad, Bool.false_eq_true, if_false, List.mem_singleton]
      constructor
      · exact here
      · rintro ⟨pads, whole, all⟩
        cases pads with
        | nil => exact whole.symm
        | cons d pads =>
          simp only [List.cons_append, List.cons.injEq] at whole
          rw [whole.1] at pad
          exact absurd (all d List.mem_cons_self) pad

theorem isLineEnd_of_mem_lineEnds {lineEnd : List Char} (member : lineEnd ∈ lineEnds) :
    ∃ c tail, lineEnd = c :: tail ∧ Text.isLineEnd c = true := by
  simp only [lineEnds, List.mem_cons, List.not_mem_nil, or_false] at member
  rcases member with same | same | same <;> exact ⟨_, _, same, by decide⟩

theorem mem_breakRests {text rest : List Char} :
    rest ∈ breakRests text ↔ ∃ lineEnd ∈ lineEnds, text = lineEnd ++ rest := by
  unfold breakRests
  simp only [lineEnds, List.mem_cons, List.not_mem_nil, or_false, exists_eq_or_imp, exists_eq_left,
    List.cons_append, List.nil_append]
  split
  · next behind =>
    -- Before a line feed a carriage return may be a line end of its own, so there are two rests.
    simp only [List.mem_cons, List.not_mem_nil, or_false, List.cons.injEq, true_and, Char.reduceEq,
      false_and]
    constructor <;> (rintro (rfl | rfl) <;> simp)
  · next behind alone =>
    simp only [List.mem_singleton, List.cons.injEq, true_and, Char.reduceEq, false_and, or_false]
    constructor
    · rintro rfl
      exact .inr rfl
    · rintro (feed | same)
      · exact absurd feed (alone rest)
      · exact same.symm
  · next behind =>
    simp only [List.mem_singleton, List.cons.injEq, true_and, Char.reduceEq, false_and, false_or]
    exact eq_comm
  · next crlf cr lf =>
    simp only [List.not_mem_nil, false_iff]
    rintro (rfl | rfl | rfl)
    · exact crlf rest rfl
    · exact cr rest rfl
    · exact lf rest rfl

theorem afterAnyCase?_eq_some {mark text rest : List Char} :
    Text.afterAnyCase? mark text = some rest ↔ ∃ letters, text = letters ++ rest ∧
      List.Forall₂ (fun c d => Text.sameLetter c d = true) mark letters := by
  induction mark generalizing text with
  | nil =>
    simp only [Text.afterAnyCase?, Option.some.injEq]
    constructor
    · rintro rfl
      exact ⟨[], rfl, .nil⟩
    · rintro ⟨letters, rfl, same⟩
      cases same
      rfl
  | cons c mark ih =>
    cases text with
    | nil =>
      simp only [Text.afterAnyCase?, reduceCtorEq, false_iff]
      rintro ⟨letters, whole, same⟩
      cases same
      cases whole
    | cons d text =>
      by_cases equal : Text.sameLetter c d = true
      · simp only [Text.afterAnyCase?, equal, if_true, ih]
        constructor
        · rintro ⟨letters, rfl, same⟩
          exact ⟨d :: letters, rfl, .cons equal same⟩
        · rintro ⟨letters, whole, same⟩
          cases same with
          | cons _ tail =>
            simp only [List.cons_append, List.cons.injEq] at whole
            exact ⟨_, whole.2, tail⟩
      · simp only [Text.afterAnyCase?, equal, Bool.false_eq_true, if_false, reduceCtorEq, false_iff]
        rintro ⟨letters, whole, same⟩
        cases same with
        | cons first _ =>
          simp only [List.cons_append, List.cons.injEq] at whole
          rw [whole.1] at equal
          exact equal first

theorem mem_formatRests {extension text rest : List Char} :
    rest ∈ formatRests extension text ↔
      ∃ suffix, text = suffix ++ rest ∧ FormatSuffix extension suffix := by
  have left : rest = text → ∃ suffix, text = suffix ++ rest ∧ FormatSuffix extension suffix := by
    rintro rfl
    exact ⟨[], rfl, .inl rfl⟩
  unfold formatRests
  split
  · next tail =>
    simp only [List.mem_append, Option.mem_toList, List.mem_singleton,
      afterAnyCase?_eq_some]
    constructor
    · rintro (⟨letters, rfl, same⟩ | whole)
      · exact ⟨'.' :: letters, rfl, .inr ⟨letters, rfl, same⟩⟩
      · exact left whole
    · rintro ⟨suffix, whole, rfl | ⟨letters, rfl, same⟩⟩
      · exact .inr whole.symm
      · simp only [List.cons_append, List.cons.injEq, true_and] at whole
        exact .inl ⟨letters, whole, same⟩
  · next pointless =>
    simp only [List.mem_singleton]
    constructor
    · exact left
    · rintro ⟨suffix, whole, rfl | ⟨letters, rfl, _⟩⟩
      · exact whole.symm
      · exact absurd whole (pointless _)

/-! ### One titled block -/

/-- What the search leaves open of a titled block. -/
structure TitledParts where
  pads : List Char
  gap : List Char
  suffix : List Char
  trail : List Char
  lineEnd : List Char
  body : List Char

/-- The text of a titled block up to its line end, the title and all behind it. -/
def TitledParts.titleLine (parts : TitledParts) (title : List Char) : List Char :=
  title ++ (parts.gap ++ (parts.suffix ++ (parts.trail ++ parts.lineEnd)))

/-- `text` starts with a block of this title and format, and `behind` follows it. -/
structure TitledAt (title extension text : List Char) (parts : TitledParts)
    (behind : List Char) : Prop where
  whole : text = openMark ++ (parts.pads ++ (parts.titleLine title ++
    (parts.body ++ closeMark ++ behind)))
  padded : parts.pads ≠ []
  pads : ∀ c ∈ parts.pads, Text.isPad c = true
  gap : ∀ c ∈ parts.gap, Text.isPad c = true
  suffix : FormatSuffix extension parts.suffix
  trail : ∀ c ∈ parts.trail, Text.isPad c = true
  broken : parts.lineEnd ∈ lineEnds
  closed : FirstClose (parts.body ++ closeMark ++ behind) parts.body behind

/-- Every match of the search is a titled block. -/
theorem titledAt_of_afterTitled? {title extension text behind : List Char}
    (found : afterTitled? title extension text = some behind) :
    ∃ parts, TitledAt title extension text parts behind := by
  unfold afterTitled? at found
  split at found
  · next pad line opened =>
    split at found
    · next isPad =>
      -- The alternatives that were taken, from the outermost to the innermost.
      obtain ⟨named, inNamed, found⟩ := List.exists_of_findSome?_eq_some found
      obtain ⟨tail, titled, found⟩ := Option.bind_eq_some_iff.1 found
      obtain ⟨pointed, inPointed, found⟩ := List.exists_of_findSome?_eq_some found
      obtain ⟨formatted, inFormatted, found⟩ := List.exists_of_findSome?_eq_some found
      obtain ⟨ended, inEnded, found⟩ := List.exists_of_findSome?_eq_some found
      obtain ⟨rest, inBroken, found⟩ := List.exists_of_findSome?_eq_some found
      obtain ⟨⟨body, _⟩, closed, rfl⟩ := Option.map_eq_some_iff.1 found
      -- Each of them is a cut of the text.
      obtain ⟨pads, rfl, allPads⟩ := mem_padRests.1 inNamed
      obtain rfl := Text.after?_eq_some.1 titled
      obtain ⟨gap, rfl, allGap⟩ := mem_padRests.1 inPointed
      obtain ⟨suffix, rfl, isSuffix⟩ := mem_formatRests.1 inFormatted
      obtain ⟨trail, rfl, allTrail⟩ := mem_padRests.1 inEnded
      obtain ⟨lineEnd, isEnd, rfl⟩ := mem_breakRests.1 inBroken
      have close := splitAtClose?_eq_some.1 closed
      refine ⟨⟨pad :: pads, gap, suffix, trail, lineEnd, body⟩, ?_, by simp, ?_, allGap, isSuffix,
        allTrail, isEnd, close.whole ▸ close⟩
      · rw [Text.after?_eq_some.1 opened, close.whole]
        simp only [TitledParts.titleLine, List.append_assoc, List.cons_append]
      · simpa [isPad] using allPads
    · cases found
  · cases found

/-- Where a titled block stands, the search matches. -/
theorem TitledAt.isSome_afterTitled? {title extension text behind : List Char} {parts : TitledParts}
    (block : TitledAt title extension text parts behind) :
    (afterTitled? title extension text).isSome := by
  obtain ⟨pad, pads, same⟩ := List.exists_cons_of_ne_nil block.padded
  have allPads := block.pads
  rw [same] at allPads
  have opened : Text.after? openMark text = some (pad :: (pads ++ (parts.titleLine title ++
      (parts.body ++ closeMark ++ behind)))) := by
    rw [Text.after?_eq_some, block.whole, same, List.cons_append]
  unfold afterTitled?
  rw [opened]
  simp only [allPads pad List.mem_cons_self, if_true, List.findSome?_isSome_iff]
  refine ⟨_, mem_padRests.2 ⟨pads, rfl, fun c member => allPads c (List.mem_cons_of_mem _ member)⟩, ?_⟩
  simp only [TitledParts.titleLine, List.append_assoc]
  rw [Text.after?_eq_some.2 rfl, Option.bind_some]
  simp only [List.findSome?_isSome_iff]
  refine ⟨_, mem_padRests.2 ⟨parts.gap, rfl, block.gap⟩, ?_⟩
  refine ⟨_, mem_formatRests.2 ⟨parts.suffix, rfl, block.suffix⟩, ?_⟩
  refine ⟨_, mem_padRests.2 ⟨parts.trail, rfl, block.trail⟩, ?_⟩
  refine ⟨_, mem_breakRests.2 ⟨parts.lineEnd, block.broken, rfl⟩, ?_⟩
  have closed := block.closed
  rw [List.append_assoc] at closed
  simp [splitAtClose?_eq_some.2 closed]

/-! ### What follows a block counts through its next character alone -/

theorem FirstClose.before {body behind rest : List Char}
    (close : FirstClose (body ++ closeMark ++ behind) body behind) (free : NoWordNext rest) :
    FirstClose (body ++ closeMark ++ rest) body rest := by
  refine ⟨rfl, free, fun earlier later same freeLater => ?_⟩
  by_contra above
  -- Two ways to cut one text: the earlier delimiter ends behind the one that closes the block, or not.
  rcases List.append_eq_append_iff.1 same with ⟨between, longer, _⟩ | ⟨between, shorter, left⟩
  · have := congrArg List.length longer
    simp only [List.length_append] at this
    omega
  · -- The closing delimiter found ends inside the body, so it stood there before as well.
    cases between with
    | nil =>
      have := congrArg List.length shorter
      simp only [List.length_append, List.length_nil] at this
      omega
    | cons c between =>
      have same' : body ++ closeMark ++ behind = earlier ++ closeMark ++ (c :: between ++ behind) := by
        rw [shorter, List.append_assoc]
      refine above (close.first earlier _ same' fun d first => ?_)
      rw [left] at freeLater
      exact freeLater d (by simpa using first)

theorem TitledAt.before {title extension text behind rest : List Char} {parts : TitledParts}
    (block : TitledAt title extension text parts behind) (free : NoWordNext rest) :
    TitledAt title extension (openMark ++ (parts.pads ++ (parts.titleLine title ++
      (parts.body ++ closeMark ++ rest)))) parts rest :=
  { block with
    whole := rfl
    closed := block.closed.before free }

theorem IsBreak.before {lineEnd body behind rest : List Char}
    (broken : IsBreak lineEnd (body ++ closeMark ++ behind)) :
    IsBreak lineEnd (body ++ closeMark ++ rest) := by
  rcases broken with crlf | lf | ⟨cr, alone⟩
  · exact .inl crlf
  · exact .inr (.inl lf)
  · refine .inr (.inr ⟨cr, ?_⟩)
    -- The next character is the first of the body or of the closing delimiter.
    cases body with
    | nil => simp [closeMark]
    | cons c body => simpa using alone

theorem BlockAt.before {text behind rest : List Char} {parts : BlockParts}
    (block : BlockAt text parts behind) (free : NoWordNext rest) :
    BlockAt (parts.source ++ rest) parts rest :=
  { block with
    whole := rfl
    broken := block.broken.before
    closed := block.closed.before free }

/-! ### A titled block is a block -/

theorem exists_firstLineEnd (before behind : List Char) {e : Char} (isEnd : Text.isLineEnd e = true) :
    ∃ line d rest, before ++ e :: behind = line ++ d :: rest ∧
      (∀ c ∈ line, Text.isLineEnd c = false) ∧ Text.isLineEnd d = true ∧ behind <:+ rest := by
  induction before with
  | nil => exact ⟨[], e, behind, rfl, by simp, isEnd, List.suffix_refl behind⟩
  | cons c before ih =>
    cases ends : Text.isLineEnd c with
    | true =>
      refine ⟨[], c, before ++ e :: behind, rfl, by simp, ends, ?_⟩
      exact (List.suffix_cons e behind).trans (List.suffix_append before _)
    | false =>
      obtain ⟨line, d, rest, whole, oneLine, isEnd', suffix⟩ := ih
      exact ⟨c :: line, d, rest, by rw [List.cons_append, whole, List.cons_append],
        by simpa [ends] using oneLine, isEnd', suffix⟩

theorem exists_isBreak {d : Char} (rest : List Char) (isEnd : Text.isLineEnd d = true) :
    ∃ lineEnd behind, d :: rest = lineEnd ++ behind ∧ IsBreak lineEnd behind ∧
      (rest = behind ∨ rest = '\n' :: behind) := by
  simp only [Text.isLineEnd, Bool.or_eq_true, beq_iff_eq] at isEnd
  rcases isEnd with rfl | rfl
  · by_cases feed : rest.head? = some '\n'
    · obtain ⟨behind, rfl⟩ := List.head?_eq_some_iff.1 feed
      exact ⟨['\r', '\n'], behind, rfl, .inl rfl, .inr rfl⟩
    · exact ⟨['\r'], rest, rfl, .inr (.inr ⟨rfl, feed⟩), .inl rfl⟩
  · exact ⟨['\n'], rest, rfl, .inr (.inl rfl), .inl rfl⟩

theorem exists_firstClose (earlier : List Char) {later : List Char} (free : NoWordNext later) :
    ∃ before behind, FirstClose (earlier ++ closeMark ++ later) before behind := by
  induction earlier with
  | nil => exact ⟨[], later, rfl, free, fun _ _ _ _ => Nat.zero_le _⟩
  | cons c earlier ih =>
    obtain ⟨before, behind, close⟩ := ih
    simp only [List.cons_append]
    cases closed : afterClose? (c :: (earlier ++ closeMark ++ later)) with
    | some rest => exact ⟨[], rest, firstClose_of_afterClose? closed⟩
    | none => exact ⟨c :: before, behind, (firstClose_cons closed).2 ⟨before, rfl, close⟩⟩

/-- A line end may take along the next character, but that is a line feed, and no closing delimiter starts with one. -/
theorem exists_closeMark_behind {rest after front behind : List Char}
    (left : rest = after ∨ rest = '\n' :: after) (whole : rest = front ++ closeMark ++ behind) :
    ∃ earlier, after = earlier ++ closeMark ++ behind := by
  rcases left with same | same
  · exact ⟨front, same ▸ whole⟩
  · rw [same] at whole
    cases front with
    | nil => simp [closeMark] at whole
    | cons first earlier =>
      simp only [List.cons_append, List.cons.injEq] at whole
      exact ⟨earlier, whole.2⟩

/-- An opening delimiter with padding and something visible behind it starts a block as soon as a line end and
    then a closing delimiter follow, wherever they stand. -/
theorem exists_blockAt {pads behind : List Char} {c e : Char} (middle between : List Char)
    (padded : pads ≠ []) (allPads : ∀ d ∈ pads, Text.isPad d = true) (visible : Text.isBlank c = false)
    (isEnd : Text.isLineEnd e = true) (free : NoWordNext behind) :
    ∃ parts rest, BlockAt (openMark ++ (pads ++ (c :: middle ++ e :: (between ++ closeMark ++ behind))))
      parts rest := by
  -- The line ends at the first line end, which may stand before the one that is given.
  obtain ⟨line, d, rest, split, oneLine, isEnd', suffix⟩ :=
    exists_firstLineEnd (c :: middle) (between ++ closeMark ++ behind) isEnd
  obtain ⟨lineEnd, after, broke, isBreak, left⟩ := exists_isBreak rest isEnd'
  obtain ⟨earlier, closes⟩ : ∃ earlier, after = earlier ++ closeMark ++ behind := by
    obtain ⟨more, whole⟩ := suffix
    refine exists_closeMark_behind left (?_ : rest = more ++ between ++ closeMark ++ behind)
    rw [← whole]
    simp only [List.append_assoc]
  obtain ⟨body, behind', close⟩ := exists_firstClose earlier free
  rw [← closes] at close
  -- The visible character starts the line, as it is no line end.
  have shown : StartsVisibly line := by
    cases line with
    | nil =>
      simp only [List.cons_append, List.nil_append, List.cons.injEq] at split
      rw [← split.1, isLineEnd_of_visible visible] at isEnd'
      cases isEnd'
    | cons first tail =>
      simp only [List.cons_append, List.cons.injEq] at split
      exact ⟨first, tail, rfl, split.1 ▸ visible⟩
  refine ⟨⟨pads, line, lineEnd, body⟩, behind', ?_, padded, allPads, shown, oneLine, ?_, ?_⟩
  · rw [split, broke, close.whole]
    simp only [BlockParts.source, BlockParts.closing, List.append_assoc]
  · exact close.whole ▸ isBreak
  · exact close.whole ▸ close

/-- A titled block whose title starts visibly is a block of the grammar. -/
theorem TitledAt.blockAt {title extension text behind : List Char} {parts : TitledParts}
    (block : TitledAt title extension text parts behind) (visible : StartsVisibly title) :
    ∃ found rest, BlockAt text found rest := by
  obtain ⟨c, title, rfl, visible⟩ := visible
  obtain ⟨e, ends, isEnds, isEnd⟩ := isLineEnd_of_mem_lineEnds block.broken
  have found := exists_blockAt (title ++ (parts.gap ++ (parts.suffix ++ parts.trail)))
    (ends ++ parts.body) block.padded block.pads visible isEnd block.closed.free
  rw [block.whole, TitledParts.titleLine, isEnds]
  simpa only [List.append_assoc, List.cons_append] using found

end DiagramWeave
