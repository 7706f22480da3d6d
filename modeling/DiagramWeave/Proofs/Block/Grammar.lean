import DiagramWeave.Block.Scan
import Mathlib.Data.List.TakeWhile
import Mathlib.Order.Bounds.Basic

/-!
# The grammar of blocks

What a block is, said without a search: an opening delimiter, padding, one header line, a line end, and
everything up to the first closing delimiter that no word character follows. The blocks of a document are
then fixed by their starts alone: the least start comes first, and each later block has the least start
at or behind the end of the block before it.

The reader of one block is shown to accept exactly the texts of this grammar, in both directions, so
that no second reading of a text exists. The scan over a document follows by induction on its own
recursion.
-/
namespace DiagramWeave

/-! ### Closing delimiters and line ends -/

/-- No word character comes first. -/
def NoWordNext (behind : List Char) : Prop :=
  ∀ c, behind.head? = some c → Text.isWord c = false

/-- `before` and `behind` stand around the first closing delimiter of `text` that counts. -/
structure FirstClose (text before behind : List Char) : Prop where
  whole : text = before ++ closeMark ++ behind
  free : NoWordNext behind
  first : ∀ earlier later, text = earlier ++ closeMark ++ later → NoWordNext later →
    before.length ≤ earlier.length

/-- One line end in front of `rest`. A carriage return takes the line feed behind it along. -/
def IsBreak (lineEnd rest : List Char) : Prop :=
  lineEnd = ['\r', '\n'] ∨ lineEnd = ['\n'] ∨ (lineEnd = ['\r'] ∧ rest.head? ≠ some '\n')

theorem afterClose?_eq_some {text rest : List Char} :
    afterClose? text = some rest ↔ text = closeMark ++ rest ∧ NoWordNext rest := by
  unfold afterClose?
  cases found : Text.after? closeMark text with
  | none =>
    constructor
    · intro read
      cases read
    · rintro ⟨same, _⟩
      rw [Text.after?_eq_some.2 same] at found
      cases found
  | some behind =>
    have whole := Text.after?_eq_some.1 found
    have unique : text = closeMark ++ rest ↔ behind = rest := by
      rw [whole, List.append_cancel_left_eq]
    -- Only the first character behind the delimiter decides, and none is there at the end of the text.
    cases behind with
    | nil =>
      simp only [Option.some.injEq, unique]
      constructor
      · rintro rfl
        exact ⟨rfl, fun c first => by cases first⟩
      · exact fun both => both.1
    | cons c tail =>
      by_cases word : Text.isWord c = true
      · simp only [word, if_true, unique, reduceCtorEq, false_iff, not_and]
        rintro rfl free
        have := free c rfl
        simp [word] at this
      · simp only [word, unique, Bool.false_eq_true, if_false, Option.some.injEq]
        constructor
        · rintro rfl
          refine ⟨rfl, fun d first => ?_⟩
          cases first
          simpa using word
        · exact fun both => both.1

/-- A text has one first closing delimiter. -/
theorem FirstClose.unique {text before behind before' behind' : List Char}
    (one : FirstClose text before behind) (other : FirstClose text before' behind') :
    before = before' ∧ behind = behind' := by
  have whole := one.whole.symm.trans other.whole
  rw [List.append_assoc, List.append_assoc] at whole
  -- Each of the two is the first, so neither is longer.
  have width : before.length = before'.length :=
    Nat.le_antisymm (one.first _ _ other.whole other.free) (other.first _ _ one.whole one.free)
  obtain ⟨same, closing⟩ := List.append_inj whole width
  exact ⟨same, List.append_cancel_left closing⟩

theorem firstClose_of_afterClose? {text behind : List Char} (closed : afterClose? text = some behind) :
    FirstClose text [] behind := by
  obtain ⟨whole, free⟩ := afterClose?_eq_some.1 closed
  exact ⟨by simpa using whole, free, fun _ _ _ _ => Nat.zero_le _⟩

theorem exists_cons_of_afterClose?_eq_none {c : Char} {rest earlier later : List Char}
    (unclosed : afterClose? (c :: rest) = none) (same : c :: rest = earlier ++ closeMark ++ later)
    (free : NoWordNext later) : ∃ inner, earlier = c :: inner ∧ rest = inner ++ closeMark ++ later := by
  cases earlier with
  | nil =>
    rw [afterClose?_eq_some.2 ⟨same, free⟩] at unclosed
    cases unclosed
  | cons d inner =>
    simp only [List.cons_append, List.cons.injEq] at same
    exact ⟨inner, by rw [same.1], same.2⟩

/-- Where no closing delimiter stands at the front, the first one is found behind the first character. -/
theorem firstClose_cons {c : Char} {rest before behind : List Char}
    (unclosed : afterClose? (c :: rest) = none) :
    FirstClose (c :: rest) before behind ↔ ∃ inner, before = c :: inner ∧ FirstClose rest inner behind := by
  constructor
  · intro close
    obtain ⟨inner, rfl, whole⟩ :=
      exists_cons_of_afterClose?_eq_none unclosed close.whole close.free
    refine ⟨inner, rfl, whole, close.free, ?_⟩
    intro earlier later same free
    have least := close.first (c :: earlier) later (by rw [same]; simp) free
    exact Nat.le_of_succ_le_succ least
  · rintro ⟨inner, rfl, close⟩
    refine ⟨by rw [close.whole]; simp, close.free, ?_⟩
    intro earlier later same free
    obtain ⟨shorter, rfl, left⟩ := exists_cons_of_afterClose?_eq_none unclosed same free
    exact Nat.succ_le_succ (close.first shorter later left free)

theorem splitAtClose?_eq_some {text before behind : List Char} :
    splitAtClose? text = some (before, behind) ↔ FirstClose text before behind := by
  induction text generalizing before with
  | nil =>
    have absent : splitAtClose? [] = none := rfl
    rw [absent]
    constructor
    · intro read
      cases read
    · intro close
      -- No delimiter fits into an empty text.
      have whole := congrArg List.length close.whole
      simp [closeMark] at whole
  | cons c rest ih =>
    rw [splitAtClose?]
    cases closed : afterClose? (c :: rest) with
    | some tail =>
      have here := firstClose_of_afterClose? closed
      constructor
      · intro read
        cases read
        exact here
      · intro close
        obtain ⟨rfl, rfl⟩ := here.unique close
        rfl
    | none =>
      rw [firstClose_cons closed]
      simp only [Option.map_eq_some_iff, Prod.mk.injEq, Prod.exists]
      constructor
      · rintro ⟨inner, _, found, rfl, rfl⟩
        exact ⟨inner, rfl, ih.1 found⟩
      · rintro ⟨inner, rfl, close⟩
        exact ⟨inner, behind, ih.2 close, rfl, rfl⟩

theorem afterBreak?_eq_some {text rest : List Char} :
    Text.afterBreak? text = some rest ↔
      ∃ lineEnd, text = lineEnd ++ rest ∧ IsBreak lineEnd rest := by
  unfold Text.afterBreak? IsBreak
  constructor
  · intro read
    split at read
    · cases read
      exact ⟨['\r', '\n'], rfl, .inl rfl⟩
    · next alone =>
      -- The case above took every carriage return that a line feed follows.
      cases read
      refine ⟨['\r'], rfl, .inr (.inr ⟨rfl, fun feed => ?_⟩)⟩
      cases rest with
      | nil => cases feed
      | cons d tail =>
        cases feed
        exact alone tail rfl
    · cases read
      exact ⟨['\n'], rfl, .inr (.inl rfl)⟩
    · cases read
  · rintro ⟨lineEnd, rfl, rfl | rfl | ⟨rfl, alone⟩⟩
    · rfl
    · rfl
    · cases rest with
      | nil => rfl
      | cons d tail =>
        have other : d ≠ '\n' := fun same => alone (by rw [same]; rfl)
        simp [other]

/-! ### One block -/

/-- The first character is there and is not blank. -/
def StartsVisibly (text : List Char) : Prop :=
  ∃ c tail, text = c :: tail ∧ Text.isBlank c = false

/-- The parts that the text of a block is put together from; the delimiters stand around them. -/
structure BlockParts where
  pads : List Char
  line : List Char
  lineEnd : List Char
  body : List Char

namespace BlockParts

/-- What stands behind the line end, up to the end of the block. -/
def closing (parts : BlockParts) : List Char :=
  parts.body ++ closeMark

/-- The text of a block. -/
def source (parts : BlockParts) : List Char :=
  openMark ++ (parts.pads ++ (parts.line ++ (parts.lineEnd ++ parts.closing)))

/-- The header is its line without the padding at the end. -/
def header (parts : BlockParts) : List Char :=
  Text.trimEnd Text.isPad parts.line

/-- The block with these parts that starts `start` characters into a document. -/
def toBlock (parts : BlockParts) (fallback : String) (index start : Nat) : Block where
  index := index
  source := String.ofList parts.source
  title := String.ofList (splitHeader parts.header fallback).1
  extension := (splitHeader parts.header fallback).2
  payload := String.ofList (Text.trim Text.isBlank parts.body)
  start := start
  stop := start + parts.source.length
  locator := none

end BlockParts

/-- `text` starts with the block that `parts` make up, and `behind` follows it. -/
structure BlockAt (text : List Char) (parts : BlockParts) (behind : List Char) : Prop where
  whole : text = parts.source ++ behind
  padded : parts.pads ≠ []
  pads : ∀ c ∈ parts.pads, Text.isPad c = true
  visible : StartsVisibly parts.line
  oneLine : ∀ c ∈ parts.line, Text.isLineEnd c = false
  broken : IsBreak parts.lineEnd (parts.closing ++ behind)
  closed : FirstClose (parts.closing ++ behind) parts.body behind

/-- The start of a block stands at `start`. -/
def BlockStart (text : List Char) (start : Nat) : Prop :=
  ∃ parts behind, BlockAt (text.drop start) parts behind

theorem isBlank_of_isPad {c : Char} (pad : Text.isPad c = true) : Text.isBlank c = true := by
  simp only [Text.isPad, Bool.or_eq_true, beq_iff_eq] at pad
  rcases pad with rfl | rfl <;> decide

theorem isBlank_of_isLineEnd {c : Char} (ends : Text.isLineEnd c = true) : Text.isBlank c = true := by
  simp only [Text.isLineEnd, Bool.or_eq_true, beq_iff_eq] at ends
  rcases ends with rfl | rfl <;> decide

theorem isPad_of_visible {c : Char} (visible : Text.isBlank c = false) : Text.isPad c = false := by
  cases pad : Text.isPad c with
  | false => rfl
  | true =>
    rw [isBlank_of_isPad pad] at visible
    cases visible

theorem isLineEnd_of_visible {c : Char} (visible : Text.isBlank c = false) : Text.isLineEnd c = false := by
  cases ends : Text.isLineEnd c with
  | false => rfl
  | true =>
    rw [isBlank_of_isLineEnd ends] at visible
    cases visible

theorem isLineEnd_of_isBreak {lineEnd rest : List Char} (broken : IsBreak lineEnd rest) :
    ∃ c tail, lineEnd = c :: tail ∧ Text.isLineEnd c = true := by
  rcases broken with rfl | rfl | ⟨rfl, _⟩
  · exact ⟨'\r', ['\n'], rfl, by decide⟩
  · exact ⟨'\n', [], rfl, by decide⟩
  · exact ⟨'\r', [], rfl, by decide⟩

/-- A run ends in front of the first character that does not belong to it. -/
theorem span_append {p : Char → Bool} {run : List Char} {c : Char} (rest : List Char)
    (all : ∀ d ∈ run, p d = true) (stop : p c = false) :
    (run ++ c :: rest).takeWhile p = run ∧ (run ++ c :: rest).dropWhile p = c :: rest := by
  have stop' : ¬ p c = true := by simp [stop]
  constructor
  · rw [List.takeWhile_append_of_pos all, List.takeWhile_cons_of_neg stop', List.append_nil]
  · rw [List.dropWhile_append_of_pos all, List.dropWhile_cons_of_neg stop']

/-- `text` starts with an opening delimiter and the line of a block, and `behind` follows the line end. -/
structure HeaderAt (text pads line lineEnd behind : List Char) : Prop where
  whole : text = openMark ++ (pads ++ (line ++ (lineEnd ++ behind)))
  padded : pads ≠ []
  pads : ∀ c ∈ pads, Text.isPad c = true
  visible : StartsVisibly line
  oneLine : ∀ c ∈ line, Text.isLineEnd c = false
  broken : IsBreak lineEnd behind

/-- What is read as a header line is one. -/
theorem headerAt_of_headerLine? {text header behind : List Char}
    (read : headerLine? text = some (header, behind)) :
    ∃ pads line lineEnd, HeaderAt text pads line lineEnd behind ∧
      header = Text.trimEnd Text.isPad line := by
  unfold headerLine? at read
  split at read
  · next pad rest opened =>
    split at read
    · next c tail dropped =>
      split at read
      · next shown =>
        simp only [Option.map_eq_some_iff, Prod.mk.injEq] at read
        obtain ⟨_, broken, trimmed, rfl⟩ := read
        obtain ⟨lineEnd, left, isBreak⟩ := afterBreak?_eq_some.1 broken
        simp only [Bool.and_eq_true, Bool.not_eq_true'] at shown
        obtain ⟨isPad, visible⟩ := shown
        refine ⟨pad :: rest.takeWhile Text.isPad, (c :: tail).takeWhile fun d => !Text.isLineEnd d,
          lineEnd, ⟨?_, List.cons_ne_nil _ _, ?_, ?_, ?_, isBreak⟩, trimmed.symm⟩
        · rw [Text.after?_eq_some.1 opened, ← left, List.takeWhile_append_dropWhile, ← dropped,
            List.cons_append, List.takeWhile_append_dropWhile]
        · intro d member
          rcases List.mem_cons.1 member with rfl | member
          · exact isPad
          · exact List.mem_takeWhile_imp member
        · -- A line end is blank, so the visible character belongs to the line.
          have stays := isLineEnd_of_visible visible
          exact ⟨c, tail.takeWhile fun d => !Text.isLineEnd d, by simp [stays], visible⟩
        · intro d member
          simpa using List.mem_takeWhile_imp member
      · cases read
    · cases read
  · cases read

/-- A header line is read, whatever stands in it: each part ends where a character stands that cannot belong to it. -/
theorem HeaderAt.headerLine? {text pads line lineEnd behind : List Char}
    (header : HeaderAt text pads line lineEnd behind) :
    DiagramWeave.headerLine? text = some (Text.trimEnd Text.isPad line, behind) := by
  obtain ⟨pad, more, rfl⟩ := List.exists_cons_of_ne_nil header.padded
  obtain ⟨c, tail, rfl, visible⟩ := header.visible
  obtain ⟨e, ends, rfl, isEnd⟩ := isLineEnd_of_isBreak header.broken
  have opened := Text.after?_eq_some.2 header.whole
  have isPad : Text.isPad pad = true := header.pads pad List.mem_cons_self
  have dropped := (span_append (tail ++ (e :: ends ++ behind))
    (fun d member => header.pads d (List.mem_cons_of_mem _ member)) (isPad_of_visible visible)).2
  have inLine : ∀ d ∈ c :: tail, (!Text.isLineEnd d) = true := by
    intro d member
    simp [header.oneLine d member]
  obtain ⟨taken, left⟩ := span_append (ends ++ behind) inLine
    (by simp [isEnd] : (!Text.isLineEnd e) = false)
  have broken := afterBreak?_eq_some.2 ⟨e :: ends, rfl, header.broken⟩
  unfold DiagramWeave.headerLine?
  rw [opened]
  simp only [List.cons_append] at dropped taken left broken ⊢
  simp only [dropped, isPad, visible, Bool.not_false, Bool.and_self, if_true, taken, left, broken,
    Option.map_some]

theorem BlockAt.headerAt {text behind : List Char} {parts : BlockParts}
    (block : BlockAt text parts behind) :
    HeaderAt text parts.pads parts.line parts.lineEnd (parts.closing ++ behind) := by
  refine ⟨?_, block.padded, block.pads, block.visible, block.oneLine, block.broken⟩
  rw [block.whole]
  simp only [BlockParts.source, List.append_assoc]

/-- The reader of one block accepts exactly the texts that start with a block. -/
theorem blockAt?_eq_some {text : List Char} {pieces : BlockPieces} :
    blockAt? text = some pieces ↔
      ∃ parts, BlockAt text parts pieces.rest ∧
        pieces.header = parts.header ∧ pieces.body = parts.body := by
  constructor
  · intro read
    unfold blockAt? at read
    split at read
    · next header behind found =>
      simp only [Option.map_eq_some_iff, Prod.exists] at read
      obtain ⟨body, rest, closed, rfl⟩ := read
      obtain ⟨pads, line, lineEnd, start, rfl⟩ := headerAt_of_headerLine? found
      have close := splitAtClose?_eq_some.1 closed
      refine ⟨⟨pads, line, lineEnd, body⟩, ?_, rfl, rfl⟩
      have same : behind = body ++ closeMark ++ rest := close.whole
      exact {
        whole := by
          rw [start.whole, same]
          simp only [BlockParts.source, BlockParts.closing, List.append_assoc]
        padded := start.padded
        pads := start.pads
        visible := start.visible
        oneLine := start.oneLine
        broken := same ▸ start.broken
        closed := same ▸ close }
    · cases read
  · rintro ⟨parts, block, header, body⟩
    have start : headerLine? text = some (parts.header, parts.closing ++ pieces.rest) :=
      block.headerAt.headerLine?
    have closed := splitAtClose?_eq_some.2 block.closed
    unfold blockAt?
    rw [start]
    simp only [closed, Option.map_some, ← header, ← body]

theorem blockAt?_eq_none {text : List Char} :
    blockAt? text = none ↔ ∀ parts behind, ¬ BlockAt text parts behind := by
  constructor
  · intro absent parts behind block
    have read : blockAt? text = some ⟨parts.header, parts.body, behind⟩ :=
      blockAt?_eq_some.2 ⟨parts, block, rfl, rfl⟩
    rw [absent] at read
    cases read
  · intro absent
    cases read : blockAt? text with
    | none => rfl
    | some pieces =>
      obtain ⟨parts, block, _⟩ := blockAt?_eq_some.1 read
      exact absurd block (absent parts pieces.rest)

/-- One text starts with at most one block. -/
theorem BlockAt.unique {text : List Char} {first second : BlockParts} {behind rest : List Char}
    (one : BlockAt text first behind) (other : BlockAt text second rest) :
    first.header = second.header ∧ first.body = second.body ∧ behind = rest ∧
      first.source = second.source := by
  -- The reader accepts both readings and gives one result, and the sources follow from the rest of the text.
  have read : blockAt? text = some ⟨first.header, first.body, behind⟩ :=
    blockAt?_eq_some.2 ⟨first, one, rfl, rfl⟩
  have again : blockAt? text = some ⟨second.header, second.body, rest⟩ :=
    blockAt?_eq_some.2 ⟨second, other, rfl, rfl⟩
  rw [read] at again
  simp only [Option.some.injEq, BlockPieces.mk.injEq] at again
  obtain ⟨header, body, same⟩ := again
  have sources := one.whole.symm.trans other.whole
  rw [same] at sources
  exact ⟨header, body, same, List.append_cancel_right sources⟩

theorem BlockParts.source_ne_nil (parts : BlockParts) : parts.source ≠ [] := by
  simp [source, openMark]

/-! ### All blocks of a document -/

theorem scanFrom_nil (fallback : String) (index offset : Nat) :
    scanFrom fallback index offset [] = [] := by
  rw [scanFrom]
  split
  · next read =>
    have := blockAt?_length read
    simp at this
  · rfl

theorem scanFrom_cons {fallback : String} {index offset : Nat} {c : Char} {rest : List Char}
    (free : ∀ parts behind, ¬ BlockAt (c :: rest) parts behind) :
    scanFrom fallback index offset (c :: rest) = scanFrom fallback index (offset + 1) rest := by
  rw [scanFrom]
  split
  · next read =>
    rw [blockAt?_eq_none.2 free] at read
    cases read
  · rfl

theorem scanFrom_of_blockAt {fallback : String} {index offset : Nat} {text behind : List Char}
    {parts : BlockParts} (block : BlockAt text parts behind) :
    scanFrom fallback index offset text =
      parts.toBlock fallback index offset ::
        scanFrom fallback (index + 1) (offset + parts.source.length) behind := by
  have expected : blockAt? text = some ⟨parts.header, parts.body, behind⟩ :=
    blockAt?_eq_some.2 ⟨parts, block, rfl, rfl⟩
  rw [scanFrom]
  split
  · next pieces read =>
    rw [expected] at read
    cases read
    have wide : text.length - behind.length = parts.source.length := by
      rw [block.whole, List.length_append, Nat.add_sub_cancel]
    have taken : text.take parts.source.length = parts.source := by
      rw [block.whole, List.take_left]
    simp only [wide, taken, BlockParts.toBlock]
  · next read =>
    rw [expected] at read
    cases read

/-- From `offset` on, the blocks of `text` are those listed, the first of them with the number `index`:
    the one with the least start comes first, and the others stand behind its end. -/
inductive BlocksFrom (fallback : String) (text : List Char) : Nat → Nat → List Block → Prop
  | done {index offset : Nat} :
      (∀ start, offset ≤ start → ¬ BlockStart text start) →
      BlocksFrom fallback text index offset []
  | next {index offset start : Nat} {parts : BlockParts} {behind : List Char}
      {blocks : List Block} :
      IsLeast {start | offset ≤ start ∧ BlockStart text start} start →
      BlockAt (text.drop start) parts behind →
      BlocksFrom fallback text (index + 1) (start + parts.source.length) blocks →
      BlocksFrom fallback text index offset (parts.toBlock fallback index start :: blocks)

namespace BlocksFrom

variable {fallback : String} {text : List Char}

/-- A place where no block starts may be passed over. -/
theorem skip {index offset : Nat} {blocks : List Block} (free : ¬ BlockStart text offset)
    (found : BlocksFrom fallback text index (offset + 1) blocks) :
    BlocksFrom fallback text index offset blocks := by
  have later {start : Nat} (above : offset ≤ start) (here : BlockStart text start) :
      offset + 1 ≤ start := by
    rcases Nat.eq_or_lt_of_le above with rfl | behind
    · exact absurd here free
    · exact behind
  cases found with
  | done absent => exact .done fun start above here => absent start (later above here) here
  | next least block rest =>
    refine .next ⟨⟨Nat.le_of_succ_le least.1.1, least.1.2⟩, ?_⟩ block rest
    exact fun start other => least.2 ⟨later other.1 other.2, other.2⟩

/-- The grammar leaves no choice. -/
theorem unique {index offset : Nat} {first second : List Block}
    (one : BlocksFrom fallback text index offset first)
    (other : BlocksFrom fallback text index offset second) : first = second := by
  induction one generalizing second with
  | done absent =>
    cases other with
    | done => rfl
    | next least => exact absurd least.1.2 (absent _ least.1.1)
  | @next index offset start parts behind blocks least block _ ih =>
    cases other with
    | done absent => exact absurd least.1.2 (absent _ least.1.1)
    | @next _ _ start' parts' behind' blocks' least' block' rest' =>
      -- Both least starts are one, and one block stands there.
      obtain rfl : start = start' := least.unique least'
      obtain ⟨header, body, _, source⟩ := block.unique block'
      rw [← source] at rest'
      rw [ih rest']
      simp only [BlockParts.toBlock, header, body, source]

theorem scanFrom_drop (index offset : Nat) :
    BlocksFrom fallback text index offset (scanFrom fallback index offset (text.drop offset)) := by
  -- The induction is on the recursion of the scan: a block here, the end of the text, or no block here.
  generalize same : text.drop offset = rest
  induction index, offset, rest using scanFrom.induct fallback with
  | case1 index offset rest pieces read width _ _ _ ih =>
    obtain ⟨parts, block, _, _⟩ := blockAt?_eq_some.1 read
    have wide : width = parts.source.length := by
      simp only [width, block.whole, List.length_append, Nat.add_sub_cancel]
    have behind : text.drop (offset + width) = pieces.rest := by
      rw [← List.drop_drop, same, wide, block.whole, List.drop_left]
    have later := ih behind
    have here : BlockAt (text.drop offset) parts pieces.rest := same ▸ block
    rw [wide] at later
    rw [scanFrom_of_blockAt block]
    exact .next ⟨⟨Nat.le_refl offset, parts, _, here⟩, fun start other => other.1⟩ here later
  | case2 index offset read =>
    rw [scanFrom_nil]
    -- Behind the end of the text nothing is left in which a block could stand.
    refine .done fun start above here => ?_
    obtain ⟨parts, behind, block⟩ := here
    have empty : text.drop start = [] := by
      rw [← Nat.add_sub_cancel' above, ← List.drop_drop, same, List.drop_nil]
    rw [empty] at block
    have whole := block.whole.symm
    simp [BlockParts.source_ne_nil] at whole
  | case3 index offset c rest read ih =>
    have free : ¬ BlockStart text offset := by
      rintro ⟨parts, behind, block⟩
      rw [same] at block
      exact blockAt?_eq_none.1 read parts behind block
    have next : text.drop (offset + 1) = rest := by
      rw [← List.drop_drop, same, List.drop_one, List.tail_cons]
    rw [scanFrom_cons (blockAt?_eq_none.1 read)]
    exact skip free (ih next)

/-- Every listed block stands in the text. -/
theorem exists_of_mem {index offset : Nat} {blocks : List Block}
    (found : BlocksFrom fallback text index offset blocks) :
    ∀ block ∈ blocks, ∃ number start parts behind, BlockAt (text.drop start) parts behind ∧
      block = parts.toBlock fallback number start := by
  induction found with
  | done => simp
  | next _ block _ ih => exact List.forall_mem_cons.2 ⟨⟨_, _, _, _, block, rfl⟩, ih⟩

/-- The scan is a list of blocks as the grammar has it. -/
theorem of_scan (text fallback : String) :
    BlocksFrom fallback text.toList 0 0 (scan text fallback) := by
  have dropped : BlocksFrom fallback text.toList 0 0
      (scanFrom fallback 0 0 (text.toList.drop 0)) := .scanFrom_drop 0 0
  rwa [List.drop_zero] at dropped

end BlocksFrom

theorem scan_eq_nil_iff {text fallback : String} :
    scan text fallback = [] ↔ ∀ start, ¬ BlockStart text.toList start := by
  have found := BlocksFrom.of_scan text fallback
  constructor
  · intro absent
    rw [absent] at found
    cases found with
    | done free => exact fun start => free start (Nat.zero_le start)
  · intro free
    cases listed : scan text fallback with
    | nil => rfl
    | cons block blocks =>
      rw [listed] at found
      obtain ⟨_, start, parts, behind, here, _⟩ := found.exists_of_mem block List.mem_cons_self
      exact absurd ⟨parts, behind, here⟩ (free start)

/-- The scan finds exactly the blocks of the grammar, in their order and at their places. -/
theorem scan_eq_iff_blocksFrom (text fallback : String) (blocks : List Block) :
    scan text fallback = blocks ↔ BlocksFrom fallback text.toList 0 0 blocks := by
  constructor
  · rintro rfl
    exact .of_scan text fallback
  · exact (BlocksFrom.of_scan text fallback).unique

end DiagramWeave
