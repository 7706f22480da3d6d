import DiagramWeave.Proofs.Block.Header

/-!
# Scanning undoes writing

A document is written from blocks and the texts between them. What the scan could mistake is shut out where it would
arise: a text between blocks opens no block, a diagram does not close its own, and a title that stands alone does not end
like one with a format. A delimiter has no line end in it and only one `@`, at its front, so none arises across the edges
of what is written either. Then the scan gives the blocks back, each at its place.
-/
namespace DiagramWeave

variable {fallback : String} {index offset : Nat} {payload behind rest : List Char}

/-! ### What is written -/

/-- A format as it may be written behind a title. -/
structure Spelling where
  format : ImageFormat
  letters : List Char
  spelt : format.SpeltAs letters

/-- What stands behind the last point is no format, or nothing visible stands before the point. -/
def NamesNoFormat (title : List Char) : Prop :=
  ∀ stem suffix, title = stem ++ '.' :: suffix → '.' ∉ suffix → Text.allBlank stem = false →
    ∀ format : ImageFormat, ¬ format.SpeltAs suffix

/-- No closing delimiter in the text counts, nor would one at its end. -/
def Unclosed (text : List Char) : Prop :=
  ∀ before behind, text = before ++ closeMark ++ behind → ¬ NoWordNext behind

theorem unclosed_iff (text : List Char) : Unclosed text ↔ splitAtClose? text = none := by
  constructor
  · intro unclosed
    by_contra closed
    obtain ⟨⟨before, behind⟩, found⟩ := Option.ne_none_iff_exists'.1 closed
    have close := splitAtClose?_eq_some.1 found
    exact unclosed before behind close.whole close.free
  · rintro absent before behind rfl free
    obtain ⟨earlier, later, close⟩ := exists_firstClose before free
    rw [splitAtClose?_eq_some.2 close] at absent
    cases absent

instance (text : List Char) : Decidable (NoWordNext text) :=
  decidable_of_iff ((text.head?.all fun c => !Text.isWord c) = true) (by
    cases text <;> simp [NoWordNext])

instance (text : List Char) : Decidable (Unclosed text) :=
  decidable_of_iff _ (unclosed_iff text).symm

/-- A block that is to be written. -/
structure Description where
  title : List Char
  spelling : Option Spelling
  payload : List Char
  starts : StartsVisibly title
  ends : StartsVisibly title.reverse
  oneLine : ∀ c ∈ title, Text.isLineEnd c = false
  plain : spelling = none → NamesNoFormat title
  unclosed : Unclosed payload

/-- The text between a block and the next. -/
structure Gap where
  text : List Char
  free : ¬ openMark <:+: text
  apart : NoWordNext text

/-- A document that is to be written: what stands before the first block, and every block with the text behind it. -/
structure Draft where
  front : List Char
  free : ¬ openMark <:+: front
  entries : List (Description × Gap)

namespace Description

/-- The title, and the format behind a point where it is spelt. -/
def header (description : Description) : List Char :=
  match description.spelling with
  | some spelling => description.title ++ '.' :: spelling.letters
  | none => description.title

/-- The text of the block. -/
def text (description : Description) : List Char :=
  openMark ++ ' ' :: (description.header ++ '\n' :: (description.payload ++ '\n' :: closeMark))

/-- The name of the format. -/
def extension (description : Description) (fallback : String) : String :=
  match description.spelling with
  | some spelling => spelling.format.name
  | none => fallback

/-- The block as it stands in a document at `start`. -/
def block (description : Description) (fallback : String) (index start : Nat) : Block where
  index := index
  source := String.ofList description.text
  title := String.ofList description.title
  extension := description.extension fallback
  payload := String.ofList (Text.trim Text.isBlank description.payload)
  start := start
  stop := start + description.text.length
  locator := none

end Description

/-- Blocks and the texts behind them, one after the other. -/
def written (entries : List (Description × Gap)) : List Char :=
  entries.flatMap fun entry => entry.1.text ++ entry.2.text

/-- The document. -/
def Draft.text (draft : Draft) : String :=
  String.ofList (draft.front ++ written draft.entries)

/-! ### Spelt formats -/

theorem toLower_of_isBlank {c : Char} (low : c.toNat < 0x80) (blank : Text.isBlank c = true) : c.toLower = c := by
  have checked : ∀ code < 0x80, Text.isBlank (Char.ofNat code) = true → (Char.ofNat code).toLower = Char.ofNat code := by
    decide +kernel
  have := checked c.toNat low
  rw [Char.ofNat_toNat] at this
  exact this blank

theorem ImageFormat.SpeltAs.visible {letters : List Char} {format : ImageFormat} (spelt : format.SpeltAs letters) :
    ∀ c ∈ letters, Text.isBlank c = false := by
  have checked : (format.name.toList.all fun c => !Text.isBlank c) = true := by cases format <;> decide
  have plain := format.isPlain_of_mem_name
  rw [← spelt] at checked plain
  intro c member
  by_contra blank
  rw [Bool.not_eq_false] at blank
  obtain ⟨⟨low, _⟩, _⟩ := plain _ (List.mem_map_of_mem member)
  have shown := List.all_eq_true.1 checked _ (List.mem_map_of_mem member)
  rw [toLower_of_isBlank (low_of_toLower low) blank, blank] at shown
  cases shown

theorem ImageFormat.SpeltAs.pointless {letters : List Char} {format : ImageFormat} (spelt : format.SpeltAs letters) :
    '.' ∉ letters := by
  intro member
  have point : '.' ∈ letters.map Char.toLower := List.mem_map_of_mem member
  rw [spelt] at point
  exact absurd point (by cases format <;> decide)

theorem ImageFormat.SpeltAs.ne_nil {letters : List Char} {format : ImageFormat} (spelt : format.SpeltAs letters) :
    letters ≠ [] := by
  rintro rfl
  exact absurd spelt (by cases format <;> decide)

/-! ### One block -/

theorem splitHeader_of_namesNoFormat {title : List Char} (plain : NamesNoFormat title) (fallback : String) :
    splitHeader title fallback = (title, fallback) := by
  rw [splitHeader]
  cases cut : Text.splitLast? '.' title with
  | none => rfl
  | some parts =>
    obtain ⟨stem, suffix⟩ := parts
    obtain ⟨whole, pointless⟩ := splitLast?_eq_some.1 cut
    cases named : ImageFormat.ofName? (String.ofList (Text.lower suffix)) with
    | none => simp only [named]
    | some format =>
      have blank : Text.allBlank stem = true := by
        by_contra shown
        rw [Bool.not_eq_true] at shown
        exact plain stem suffix whole pointless shown format (ImageFormat.ofName?_lower.1 named)
      simp only [named, blank, if_true]

namespace Description

variable (description : Description)

theorem title_getLast? : ∃ c, description.title.getLast? = some c ∧ Text.isBlank c = false := by
  obtain ⟨c, tail, reversed, visible⟩ := description.ends
  exact ⟨c, by rw [List.getLast?_eq_head?_reverse, reversed, List.head?_cons], visible⟩

theorem header_getLast? : ∃ c, description.header.getLast? = some c ∧ Text.isBlank c = false := by
  rw [header]
  split
  · next spelling _ =>
    obtain ⟨front, c, letters⟩ := (List.eq_nil_or_concat' spelling.letters).resolve_left spelling.spelt.ne_nil
    refine ⟨c, ?_, spelling.spelt.visible c (by simp [letters])⟩
    rw [letters, ← List.cons_append, ← List.append_assoc, List.getLast?_concat]
  · exact description.title_getLast?

theorem header_startsVisibly : StartsVisibly description.header := by
  obtain ⟨c, tail, starts, visible⟩ := description.starts
  rw [header, starts]
  split
  · exact ⟨c, _, List.cons_append, visible⟩
  · exact ⟨c, tail, rfl, visible⟩

theorem header_oneLine : ∀ c ∈ description.header, Text.isLineEnd c = false := by
  rw [header]
  split
  · next spelling _ =>
    have letters : ∀ c ∈ '.' :: spelling.letters, Text.isLineEnd c = false :=
      List.forall_mem_cons.2 ⟨by decide, fun c member => isLineEnd_of_visible (spelling.spelt.visible c member)⟩
    exact List.forall_mem_append.2 ⟨description.oneLine, letters⟩
  · exact description.oneLine

theorem splitHeader_header (fallback : String) :
    splitHeader description.header fallback = (description.title, description.extension fallback) := by
  rw [header, extension]
  cases written : description.spelling with
  | some spelling =>
    obtain ⟨c, last, visible⟩ := description.title_getLast?
    have cut := splitLast?_append description.title spelling.spelt.pointless
    have named := ImageFormat.ofName?_lower.2 spelling.spelt
    have shown : Text.allBlank description.title = false := by
      obtain ⟨c, tail, starts, visible⟩ := description.starts
      rw [starts, Text.allBlank, List.all_cons, visible, Bool.false_and]
    simp only [splitHeader, cut, named, shown, Bool.false_eq_true, if_false, trimEnd_of_getLast? last visible]
  | none => exact splitHeader_of_namesNoFormat (description.plain written) fallback

/-- The parts of the block. -/
def parts : BlockParts :=
  ⟨[' '], description.header, ['\n'], description.payload ++ ['\n']⟩

theorem source_parts : description.parts.source = description.text := by
  simp [parts, BlockParts.source, BlockParts.closing, text]

end Description

/-- A delimiter holds no line end, so none reaches from a diagram into the line of the closing one. -/
theorem Unclosed.firstClose (unclosed : Unclosed payload) (free : NoWordNext behind) :
    FirstClose (payload ++ ['\n'] ++ closeMark ++ behind) (payload ++ ['\n']) behind := by
  refine ⟨rfl, free, fun earlier later same apart => ?_⟩
  rw [List.length_append, List.length_singleton]
  have opens : (payload ++ '\n' :: (closeMark ++ behind)).drop earlier.length = closeMark ++ later := by
    have split : payload ++ '\n' :: (closeMark ++ behind) = earlier ++ (closeMark ++ later) := by
      rw [← List.append_assoc, ← same]
      simp
    rw [split, List.drop_left]
  rcases word_beside (by decide) opens with inside | after
  · obtain ⟨left, rest⟩ := exists_drop_eq_word inside opens
    have whole : payload = payload.take earlier.length ++ closeMark ++ left := by
      rw [List.append_assoc, ← rest, List.take_append_drop]
    refine absurd (fun c first => apart c ?_) (unclosed _ left whole)
    -- What stands behind the delimiter in the diagram stands behind it in the document.
    rw [List.drop_append_of_le_length (by omega), rest, List.append_assoc] at opens
    rw [← List.append_cancel_left opens]
    simp [first]
  · exact after

theorem trim_append_lineEnd (text : List Char) :
    Text.trim Text.isBlank (text ++ ['\n']) = Text.trim Text.isBlank text := by
  have blank : ∀ c ∈ ['\n'], Text.isBlank c = true := List.forall_mem_singleton.2 (by decide)
  rw [Text.trim, Text.trim, List.dropWhile_append]
  split
  · next empty =>
    rw [List.isEmpty_iff.1 empty]
    decide
  · exact trimEnd_append blank

theorem Description.blockAt (description : Description) (free : NoWordNext behind) :
    BlockAt (description.text ++ behind) description.parts behind where
  whole := by rw [source_parts]
  padded := List.cons_ne_nil _ _
  pads := by
    rw [parts, List.forall_mem_singleton]
    decide
  visible := description.header_startsVisibly
  oneLine := description.header_oneLine
  broken := .inr (.inl rfl)
  closed := description.unclosed.firstClose free

theorem Description.toBlock_parts (description : Description) (fallback : String) (index start : Nat) :
    description.parts.toBlock fallback index start = description.block fallback index start := by
  obtain ⟨c, last, visible⟩ := description.header_getLast?
  have header : description.parts.header = description.header := trimEnd_of_getLast? last (isPad_of_visible visible)
  have payload : Text.trim Text.isBlank description.parts.body = Text.trim Text.isBlank description.payload :=
    trim_append_lineEnd description.payload
  rw [BlockParts.toBlock, header, payload, splitHeader_header, source_parts, block]

/-! ### The document -/

/-- Nothing comes next but what a delimiter starts with. -/
def BlockNext (text : List Char) : Prop :=
  ∀ c, text.head? = some c → c = '@'

/-- No opening delimiter arises at the end of a text: only its first character could stand in what comes next. -/
theorem append_ne_openMark_append {gap later : List Char} (free : ¬ openMark <:+: gap) (filled : gap ≠ [])
    (next : BlockNext rest) : gap ++ rest ≠ openMark ++ later := by
  intro opens
  rw [← List.drop_zero (l := gap ++ rest)] at opens
  by_cases fits : 0 + openMark.length ≤ gap.length
  · obtain ⟨left, inside⟩ := exists_drop_eq_word fits opens
    exact free (infix_of_drop inside)
  · cases rest with
    | nil =>
      have := congrArg List.length opens
      simp only [List.append_nil, List.drop_zero, List.length_append] at this
      omega
    | cons d rest =>
      have across := getElem?_of_across opens (Nat.zero_le _) (Nat.not_le.1 fits)
      rw [next d rfl, Nat.sub_zero] at across
      have first : ∀ k < openMark.length, openMark[k]? = some '@' → k = 0 := by decide
      exact filled (List.length_eq_zero_iff.1 (first gap.length (by omega) across))

/-- A text without an opening delimiter is passed over. -/
theorem scanFrom_gap {gap : List Char} (free : ¬ openMark <:+: gap) (next : BlockNext rest) :
    scanFrom fallback index offset (gap ++ rest) = scanFrom fallback index (offset + gap.length) rest := by
  induction gap generalizing offset with
  | nil => rfl
  | cons c gap ih =>
    have inner : ¬ openMark <:+: gap := fun inside => free (inside.trans (List.suffix_cons c gap).isInfix)
    have unopened : ∀ parts behind, ¬ BlockAt (c :: (gap ++ rest)) parts behind := by
      intro parts behind block
      have opens := block.whole
      rw [BlockParts.source, List.append_assoc] at opens
      exact append_ne_openMark_append free (List.cons_ne_nil c gap) next opens
    rw [List.cons_append, scanFrom_cons unopened, ih inner, List.length_cons, Nat.add_assoc, Nat.add_comm 1]

theorem blockNext_written (entries : List (Description × Gap)) : BlockNext (written entries) := by
  intro c first
  cases entries with
  | nil => cases first
  | cons entry entries =>
    simp only [written, List.flatMap_cons, Description.text, openMark, List.cons_append, List.head?_cons,
      Option.some.injEq] at first
    exact first.symm

theorem Gap.noWordNext (gap : Gap) (next : BlockNext rest) : NoWordNext (gap.text ++ rest) := by
  intro c first
  cases text : gap.text with
  | nil =>
    rw [text, List.nil_append] at first
    rw [next c first]
    decide
  | cons d tail =>
    rw [text] at first
    exact gap.apart c (by rw [text]; exact first)

/-- One block and the text behind it are scanned, and the scan goes on behind them. -/
theorem scanFrom_entry (description : Description) (gap : Gap) (entries : List (Description × Gap)) :
    scanFrom fallback index offset (written ((description, gap) :: entries)) =
      description.block fallback index offset ::
        scanFrom fallback (index + 1) (offset + (description.text ++ gap.text).length) (written entries) := by
  have next := blockNext_written entries
  have block := description.blockAt (gap.noWordNext next)
  have split : written ((description, gap) :: entries) = description.text ++ (gap.text ++ written entries) := by
    simp [written]
  rw [split, scanFrom_of_blockAt block, scanFrom_gap gap.free next, description.toBlock_parts,
    description.source_parts, List.length_append, Nat.add_assoc]

/-- From the first block on, the scan gives one block for each that was written, where it was written. -/
theorem scanFrom_written (entries : List (Description × Gap)) :
    (scanFrom fallback index offset (written entries)).length = entries.length ∧
      ∀ before description gap after, entries = before ++ (description, gap) :: after →
        (scanFrom fallback index offset (written entries))[before.length]? =
          some (description.block fallback (index + before.length) (offset + (written before).length)) := by
  induction entries generalizing index offset with
  | nil =>
    refine ⟨by simp [written, scanFrom_nil], ?_⟩
    intro before description gap after whole
    simp at whole
  | cons entry entries ih =>
    obtain ⟨first, between⟩ := entry
    obtain ⟨long, later⟩ := @ih (index + 1) (offset + (first.text ++ between.text).length)
    rw [scanFrom_entry]
    refine ⟨by rw [List.length_cons, long, List.length_cons], ?_⟩
    intro before description gap after whole
    cases before with
    | nil =>
      cases whole
      rfl
    | cons other before =>
      simp only [List.cons_append, List.cons.injEq] at whole
      obtain ⟨rfl, whole⟩ := whole
      rw [List.length_cons, List.getElem?_cons_succ, later before description gap after whole]
      have place : (written ((first, between) :: before)).length =
          (first.text ++ between.text).length + (written before).length := by
        rw [written, List.flatMap_cons, List.length_append, written]
      rw [place, Nat.add_assoc, Nat.add_assoc, Nat.add_comm 1]

/-- The scan of a document that was written gives back what was written: one block for each, in their order, with its
    title, its format or the default, its diagram without the blanks around it, and its place. -/
theorem scan_written (draft : Draft) (fallback : String) :
    (scan draft.text fallback).length = draft.entries.length ∧
    ∀ before description gap after, draft.entries = before ++ (description, gap) :: after →
      (scan draft.text fallback)[before.length]? =
        some (description.block fallback before.length (draft.front ++ written before).length) := by
  have passed : scan draft.text fallback = scanFrom fallback 0 draft.front.length (written draft.entries) := by
    rw [scan, Draft.text, String.toList_ofList, scanFrom_gap draft.free (blockNext_written _), Nat.zero_add]
  have found := @scanFrom_written fallback 0 draft.front.length draft.entries
  rw [passed]
  simpa only [Nat.zero_add, List.length_append] using found

-- The title has a point of its own, and the delimiter in the diagram is part of a word.
example : (Draft.mk "x ".toList (by decide) [
    (⟨"v1.2".toList, some ⟨.svg, "SvG".toList, by decide⟩, "@enduml_".toList, ⟨_, _, rfl, by decide⟩,
      ⟨_, _, rfl, by decide⟩, by simp [Text.isLineEnd], nofun, by decide⟩, ⟨".".toList, by decide, by decide⟩)]).text =
    "x @startuml v1.2.SvG\n@enduml_\n@enduml." := by decide

end DiagramWeave
