import DiagramWeave.Block.Header
import DiagramWeave.Text.Word

/-!
# Finding the blocks of a document

A block starts with the opening delimiter, at least one space or tab, and a header on the same line. It
runs to the first closing delimiter behind that line which no word character follows. Blocks are taken
from left to right, each search starting where the block before it ended, so a delimiter inside a block
opens nothing.
-/
namespace DiagramWeave

/-- Opens a block. -/
def openMark : List Char := ['@', 's', 't', 'a', 'r', 't', 'u', 'm', 'l']

/-- Closes a block. -/
def closeMark : List Char := ['@', 'e', 'n', 'd', 'u', 'm', 'l']

/-- The text behind a closing delimiter at the front, when no word character follows it. -/
def afterClose? (text : List Char) : Option (List Char) :=
  match Text.after? closeMark text with
  | some (c :: rest) => if Text.isWord c then none else some (c :: rest)
  | other => other

theorem afterClose?_length {text rest : List Char} (read : afterClose? text = some rest) :
    rest.length + closeMark.length = text.length := by
  unfold afterClose? at read
  split at read
  · next found =>
    split at read
    · simp at read
    · cases read
      rw [Text.after?_eq_some.1 found, List.length_append]
      omega
  · rw [Text.after?_eq_some.1 read, List.length_append]
    omega

/-- The text before and behind the first closing delimiter. -/
def splitAtClose? (text : List Char) : Option (List Char × List Char) :=
  match afterClose? text with
  | some rest => some ([], rest)
  | none =>
    match text with
    | [] => none
    | c :: rest => (splitAtClose? rest).map fun parts => (c :: parts.1, parts.2)

theorem splitAtClose?_length {text before behind : List Char}
    (read : splitAtClose? text = some (before, behind)) :
    before.length + closeMark.length + behind.length = text.length := by
  induction text generalizing before with
  | nil =>
    unfold splitAtClose? at read
    split at read
    · next found =>
      cases read
      have := afterClose?_length found
      simp only [List.length_nil] at this ⊢
      omega
    · simp at read
  | cons c rest ih =>
    unfold splitAtClose? at read
    split at read
    · next found =>
      cases read
      have := afterClose?_length found
      simp only [List.length_nil] at this ⊢
      omega
    · simp only [Option.map_eq_some_iff] at read
      obtain ⟨parts, found, same⟩ := read
      cases same
      have := ih found
      simp only [List.length_cons] at this ⊢
      omega

/-- The pieces of a block at the front of a text. -/
structure BlockPieces where
  header : List Char
  body : List Char
  rest : List Char

/-- Reads the header line of a block: the header and the text behind the line end. -/
def headerLine? (text : List Char) : Option (List Char × List Char) :=
  match Text.after? openMark text with
  | some (pad :: line) =>
    match line.dropWhile Text.isPad with
    | c :: tail =>
      if Text.isPad pad && !Text.isBlank c then
        -- The header starts at the first character that is no pad, and that one must be visible.
        let visible := (c :: tail).takeWhile fun d => !Text.isLineEnd d
        (Text.afterBreak? ((c :: tail).dropWhile fun d => !Text.isLineEnd d)).map fun rest =>
          (Text.trimEnd Text.isPad visible, rest)
      else none
    | [] => none
  | _ => none

theorem headerLine?_length {text header rest : List Char}
    (read : headerLine? text = some (header, rest)) : rest.length < text.length := by
  unfold headerLine? at read
  split at read
  · next pad line opened =>
    split at read
    · next c tail dropped =>
      split at read
      · simp only [Option.map_eq_some_iff] at read
        obtain ⟨left, broken, same⟩ := read
        cases same
        have short := Text.afterBreak?_length broken
        have inner := (List.dropWhile_suffix (l := c :: tail) fun d => !Text.isLineEnd d).length_le
        have outer := (List.dropWhile_suffix (l := line) Text.isPad).length_le
        rw [dropped] at outer
        have whole := congrArg List.length (Text.after?_eq_some.1 opened)
        simp only [List.length_append, List.length_cons] at whole inner outer
        omega
      · simp at read
    · simp at read
  · simp at read

/-- Reads a block at the front of the text. -/
def blockAt? (text : List Char) : Option BlockPieces :=
  match headerLine? text with
  | some (header, behind) =>
    (splitAtClose? behind).map fun parts => ⟨header, parts.1, parts.2⟩
  | none => none

theorem blockAt?_length {text : List Char} {pieces : BlockPieces}
    (read : blockAt? text = some pieces) : pieces.rest.length < text.length := by
  unfold blockAt? at read
  split at read
  · next header behind line =>
    simp only [Option.map_eq_some_iff] at read
    obtain ⟨parts, closed, same⟩ := read
    cases same
    have first := headerLine?_length line
    have second := splitAtClose?_length closed
    simp only
    omega
  · simp at read

/-- The blocks of `text`, which starts `offset` characters into the document; the next block gets the
    number `index`. -/
def scanFrom (fallback : String) (index offset : Nat) (text : List Char) : List Block :=
  match read : blockAt? text with
  | some pieces =>
    let width := text.length - pieces.rest.length
    let (title, extension) := splitHeader pieces.header fallback
    let block : Block := {
      index := index
      source := String.ofList (text.take width)
      title := String.ofList title
      extension := extension
      payload := String.ofList (Text.trim Text.isBlank pieces.body)
      start := offset
      stop := offset + width
      locator := none }
    block :: scanFrom fallback (index + 1) (offset + width) pieces.rest
  | none =>
    match text with
    | [] => []
    | _ :: rest => scanFrom fallback index (offset + 1) rest
termination_by text.length
decreasing_by
  · exact blockAt?_length read
  · simp

/-- The blocks of a document in the order in which they stand. -/
def scan (text : String) (fallback : String) : List Block :=
  scanFrom fallback 0 0 text.toList

end DiagramWeave
