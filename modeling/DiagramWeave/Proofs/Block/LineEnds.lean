import DiagramWeave.Proofs.Block.Grammar
import DiagramWeave.World.TextFile

/-!
# Blocks and line ends

Reading a file makes single line feeds of the line ends of a document. The readers of blocks take any line end for one,
and neither delimiters nor headers hold any, so this makes no block and breaks none: the blocks stand between the same
pieces of the document as before, and the pieces have single line feeds for their line ends.
-/
namespace DiagramWeave

variable {text rest : List Char} {c : Char}

/-! ### Line ends made one -/

theorem unifyBreaks_cons (other : c ≠ '\r') (text : List Char) : unifyBreaks (c :: text) = c :: unifyBreaks text := by
  rw [unifyBreaks]
  · intro _ same
    exact absurd same other
  · exact other

theorem unifyBreaks_return (alone : text.head? ≠ some '\n') :
    unifyBreaks ('\r' :: text) = '\n' :: unifyBreaks text := by
  rw [unifyBreaks]
  rintro rest rfl
  exact alone rfl

/-- A carriage return in front of a line feed says nothing. -/
theorem unifyBreaks_pair (feed : text.head? = some '\n') : unifyBreaks ('\r' :: text) = unifyBreaks text := by
  obtain ⟨rest, rfl⟩ := List.head?_eq_some_iff.1 feed
  exact (unifyBreaks_cons (by decide) rest).symm

theorem exists_unifyBreaks_return (text : List Char) : ∃ rest, unifyBreaks ('\r' :: text) = '\n' :: rest := by
  by_cases feed : text.head? = some '\n'
  · obtain ⟨rest, rfl⟩ := List.head?_eq_some_iff.1 feed
    exact ⟨unifyBreaks rest, rfl⟩
  · exact ⟨_, unifyBreaks_return feed⟩

theorem return_not_mem_unifyBreaks (text : List Char) : '\r' ∉ unifyBreaks text := by
  fun_induction unifyBreaks text with
  | case1 rest ih => simpa using ih
  | case2 rest _ ih => simpa using ih
  | case3 c rest _ other ih => simpa [Ne.symm other] using ih
  | case4 => exact List.not_mem_nil

theorem unifyBreaks_of_free (free : '\r' ∉ text) : unifyBreaks text = text := by
  induction text with
  | nil => rfl
  | cons c text ih =>
    rw [List.mem_cons, not_or] at free
    rw [unifyBreaks_cons (Ne.symm free.1), ih free.2]

/-! ### Reading pieces -/

theorem after?_unifyBreaks {mark : List Char} (free : '\r' ∉ mark ∧ '\n' ∉ mark) (text : List Char) :
    Text.after? mark (unifyBreaks text) = (Text.after? mark text).map unifyBreaks := by
  induction mark generalizing text with
  | nil => rfl
  | cons c mark ih =>
    simp only [List.mem_cons, not_or] at free
    cases text with
    | nil => rfl
    | cons d text =>
      by_cases back : d = '\r'
      · -- Neither the carriage return nor the line feed that comes of it goes with the mark.
        subst back
        obtain ⟨rest, unified⟩ := exists_unifyBreaks_return text
        rw [unified, Text.after?, Text.after?, if_neg (Ne.symm free.2.1), if_neg (Ne.symm free.1.1)]
        rfl
      · rw [unifyBreaks_cons back, Text.after?, Text.after?]
        split
        · exact ih ⟨free.1.2, free.2.2⟩ text
        · rfl

section

variable {p : Char → Bool}

/-- A run without line ends ends where it did. -/
theorem span_unifyBreaks (stops : p '\r' = false) (stops' : p '\n' = false) (text : List Char) :
    (unifyBreaks text).takeWhile p = text.takeWhile p ∧
      (unifyBreaks text).dropWhile p = unifyBreaks (text.dropWhile p) := by
  induction text with
  | nil => exact ⟨rfl, rfl⟩
  | cons c text ih =>
    by_cases back : c = '\r'
    · subst back
      obtain ⟨rest, unified⟩ := exists_unifyBreaks_return text
      rw [List.dropWhile_cons_of_neg (by simp [stops]), unified]
      simp [stops, stops']
    · rw [unifyBreaks_cons back]
      cases goesOn : p c with
      | true => simpa [goesOn] using ih
      | false => simp [goesOn, unifyBreaks_cons back]

end

theorem afterBreak?_unifyBreaks (text : List Char) :
    Text.afterBreak? (unifyBreaks text) = (Text.afterBreak? text).map unifyBreaks := by
  cases text with
  | nil => rfl
  | cons c text =>
    by_cases back : c = '\r'
    · subst back
      by_cases feed : text.head? = some '\n'
      · obtain ⟨rest, rfl⟩ := List.head?_eq_some_iff.1 feed
        rfl
      · have single : Text.afterBreak? ('\r' :: text) = some text :=
          afterBreak?_eq_some.2 ⟨['\r'], rfl, .inr (.inr ⟨rfl, feed⟩)⟩
        rw [unifyBreaks_return feed, single]
        rfl
    · rw [unifyBreaks_cons back]
      by_cases feed : c = '\n'
      · subst feed
        rfl
      · simp [Text.afterBreak?, back, feed]

theorem headerLine?_unifyBreaks (text : List Char) :
    headerLine? (unifyBreaks text) = (headerLine? text).map fun parts => (parts.1, unifyBreaks parts.2) := by
  rw [headerLine?, headerLine?, after?_unifyBreaks (by decide)]
  cases Text.after? openMark text with
  | none => rfl
  | some line =>
    cases line with
    | nil => rfl
    | cons pad line =>
      by_cases back : pad = '\r'
      · -- Neither a carriage return nor a line feed pads.
        subst back
        obtain ⟨rest, unified⟩ := exists_unifyBreaks_return line
        simp only [Option.map_some, unified]
        cases rest.dropWhile Text.isPad <;> cases line.dropWhile Text.isPad <;> rfl
      · simp only [Option.map_some, unifyBreaks_cons back, (span_unifyBreaks (p := Text.isPad) rfl rfl line).2]
        cases line.dropWhile Text.isPad with
        | nil => rfl
        | cons c tail =>
          by_cases back : c = '\r'
          · -- A line without a header is none, whatever ends it.
            subst back
            obtain ⟨rest, unified⟩ := exists_unifyBreaks_return tail
            have blank : Text.isBlank '\n' = true ∧ Text.isBlank '\r' = true := by decide
            simp [unified, blank]
          · obtain ⟨taken, left⟩ := span_unifyBreaks (p := fun d => !Text.isLineEnd d) rfl rfl (c :: tail)
            rw [unifyBreaks_cons back] at taken left ⊢
            simp only [taken, left, afterBreak?_unifyBreaks]
            split
            · simp only [Option.map_map]
              rfl
            · rfl

theorem afterClose?_unifyBreaks (text : List Char) :
    afterClose? (unifyBreaks text) = (afterClose? text).map unifyBreaks := by
  rw [afterClose?, afterClose?, after?_unifyBreaks (by decide)]
  cases Text.after? closeMark text with
  | none => rfl
  | some behind =>
    cases behind with
    | nil => rfl
    | cons c rest =>
      by_cases back : c = '\r'
      · subst back
        obtain ⟨rest, unified⟩ := exists_unifyBreaks_return rest
        have apart : Text.isWord '\n' = false ∧ Text.isWord '\r' = false := by decide
        simp [unified, apart]
      · rw [Option.map_some, unifyBreaks_cons back]
        cases word : Text.isWord c with
        | true => simp [word]
        | false => simp [word, unifyBreaks_cons back]

theorem splitAtClose?_of_closed {behind : List Char} (closed : afterClose? text = some behind) :
    splitAtClose? text = some ([], behind) := by
  unfold splitAtClose?
  rw [closed]

theorem splitAtClose?_of_unclosed (unclosed : afterClose? (c :: rest) = none) :
    splitAtClose? (c :: rest) = (splitAtClose? rest).map fun parts => (c :: parts.1, parts.2) := by
  rw [splitAtClose?, unclosed]

/-- A delimiter is no line feed, so a line feed comes first in both or in neither. -/
theorem head?_feed_of_splitAtClose? {before behind : List Char} (split : splitAtClose? text = some (before, behind)) :
    before.head? = some '\n' ↔ text.head? = some '\n' := by
  rw [(splitAtClose?_eq_some.1 split).whole]
  cases before with
  | nil => simp [closeMark]
  | cons d before => simp

theorem splitAtClose?_unifyBreaks (text : List Char) :
    splitAtClose? (unifyBreaks text) =
      (splitAtClose? text).map fun parts => (unifyBreaks parts.1, unifyBreaks parts.2) := by
  induction text with
  | nil => rfl
  | cons c rest ih =>
    have commutes := afterClose?_unifyBreaks (c :: rest)
    cases closed : afterClose? (c :: rest) with
    | some behind =>
      rw [closed] at commutes
      rw [splitAtClose?_of_closed closed, splitAtClose?_of_closed commutes]
      rfl
    | none =>
      rw [closed] at commutes
      rw [splitAtClose?_of_unclosed closed]
      by_cases back : c = '\r'
      · subst back
        -- Whether it stays depends on the next character, which the part in front of the delimiter has as well.
        by_cases feed : rest.head? = some '\n'
        · rw [unifyBreaks_pair feed, ih, Option.map_map]
          refine Option.map_congr fun parts split => ?_
          have front := (head?_feed_of_splitAtClose? split).2 feed
          rw [Function.comp_apply, unifyBreaks_pair front]
        · rw [unifyBreaks_return feed] at commutes ⊢
          rw [splitAtClose?_of_unclosed commutes, ih, Option.map_map, Option.map_map]
          refine Option.map_congr fun parts split => ?_
          have front := mt (head?_feed_of_splitAtClose? split).1 feed
          rw [Function.comp_apply, Function.comp_apply, unifyBreaks_return front]
      · rw [unifyBreaks_cons back] at commutes ⊢
        rw [splitAtClose?_of_unclosed commutes, ih, Option.map_map, Option.map_map]
        refine Option.map_congr fun parts _ => ?_
        rw [Function.comp_apply, Function.comp_apply, unifyBreaks_cons back]

/-- A block is read with its line ends made single line feeds, or none is read. -/
theorem blockAt?_unifyBreaks (text : List Char) :
    blockAt? (unifyBreaks text) = (blockAt? text).map fun pieces =>
      ⟨pieces.header, unifyBreaks pieces.body, unifyBreaks pieces.rest⟩ := by
  rw [blockAt?, blockAt?, headerLine?_unifyBreaks]
  cases headerLine? text with
  | none => rfl
  | some parts =>
    simp only [Option.map_some, splitAtClose?_unifyBreaks, Option.map_map]
    rfl

/-! ### All blocks of a document -/

/-- The pieces with a text in front of the first. -/
def inFront (front : List Char) : List (List Char) → List (List Char)
  | [] => [front]
  | piece :: pieces => (front ++ piece) :: pieces

/-- The pieces of a text around its blocks, one more than there are blocks. -/
def piecesAround (text : List Char) : List (List Char) :=
  match _read : blockAt? text with
  | some pieces => [] :: piecesAround pieces.rest
  | none =>
    match text with
    | [] => [[]]
    | c :: rest => inFront [c] (piecesAround rest)
termination_by text.length
decreasing_by
  · exact blockAt?_length _read
  · simp

theorem piecesAround_of_block {pieces : BlockPieces} (read : blockAt? text = some pieces) :
    piecesAround text = [] :: piecesAround pieces.rest := by
  rw [piecesAround.eq_def]
  split
  next found =>
    rw [read] at found
    cases found
    rfl
  next absent =>
    rw [read] at absent
    cases absent

theorem piecesAround_nil : piecesAround [] = [[]] := by
  rw [piecesAround]
  rfl

theorem piecesAround_cons (absent : blockAt? (c :: rest) = none) :
    piecesAround (c :: rest) = inFront [c] (piecesAround rest) := by
  rw [piecesAround]
  split
  next found =>
    rw [absent] at found
    cases found
  · rfl

theorem head?_of_blockAt? {pieces : BlockPieces} (read : blockAt? text = some pieces) : text.head? = some '@' := by
  obtain ⟨parts, block, _⟩ := blockAt?_eq_some.1 read
  rw [block.whole]
  rfl

/-- The first piece starts with a line feed just when the text does. -/
theorem exists_piecesAround (text : List Char) : ∃ piece pieces, piecesAround text = piece :: pieces ∧
    (piece.head? = some '\n' ↔ text.head? = some '\n') := by
  induction text with
  | nil => exact ⟨[], [], piecesAround_nil, .rfl⟩
  | cons c rest ih =>
    cases read : blockAt? (c :: rest) with
    | some pieces =>
      refine ⟨[], _, piecesAround_of_block read, iff_of_false nofun ?_⟩
      rw [head?_of_blockAt? read]
      decide
    | none =>
      obtain ⟨piece, pieces, first, _⟩ := ih
      refine ⟨c :: piece, pieces, ?_, .rfl⟩
      rw [piecesAround_cons read, first]
      rfl

/-- Single line feeds for line ends make no block and break none. -/
theorem piecesAround_unifyBreaks (text : List Char) :
    piecesAround (unifyBreaks text) = (piecesAround text).map unifyBreaks := by
  induction text using piecesAround.induct with
  | case1 text pieces read ih =>
    have read' := blockAt?_unifyBreaks text
    rw [read] at read'
    rw [piecesAround_of_block read, piecesAround_of_block read', ih]
    rfl
  | case2 => simp [piecesAround_nil, unifyBreaks]
  | case3 c rest read ih =>
    have read' := blockAt?_unifyBreaks (c :: rest)
    rw [read] at read'
    obtain ⟨piece, pieces, first, feed⟩ := exists_piecesAround rest
    rw [first] at ih
    rw [piecesAround_cons read, first]
    by_cases back : c = '\r'
    · subst back
      by_cases here : rest.head? = some '\n'
      · -- The line feed behind it stands in the same piece.
        rw [unifyBreaks_pair here, ih]
        simp only [inFront, List.map_cons, List.singleton_append, unifyBreaks_pair (feed.2 here)]
      · rw [unifyBreaks_return here] at read' ⊢
        rw [piecesAround_cons read', ih]
        simp only [inFront, List.map_cons, List.singleton_append, unifyBreaks_return (mt feed.1 here)]
    · rw [unifyBreaks_cons back] at read' ⊢
      rw [piecesAround_cons read', ih]
      simp only [inFront, List.map_cons, List.singleton_append, unifyBreaks_cons back]

end DiagramWeave
