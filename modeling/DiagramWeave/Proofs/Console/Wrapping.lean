import DiagramWeave.Console.Layout
import DiagramWeave.Proofs.Text.Cuts
import DiagramWeave.Proofs.World.Paths
import Mathlib.Data.List.Forall2

/-!
# Text is wrapped without loss

Lines that fit into the width are shown as they are, but for their tabs. Other lines are broken into rows: words are kept
together where they fit, wider ones are folded, and only blanks at the end of a row are dropped or cut. The lines under way
hold all of the text that was laid out, and each of them fits but for the blanks at its end.
-/
namespace DiagramWeave.Console

variable {width filled : Nat} {c : Char} {text line front behind chunk : List Char}

/-- All characters are blank. -/
def Blank (text : List Char) : Prop :=
  ∀ c ∈ text, Text.isBlank c = true

/-! ### Cells -/

theorem foldl_cells (text : List Char) (count : Nat) :
    text.foldl (fun count c => count + cellsOf c) count = count + cells text := by
  induction text generalizing count with
  | nil => rfl
  | cons c rest ih =>
    have whole : cells (c :: rest) = cellsOf c + cells rest := by rw [cells, List.foldl_cons, ih, Nat.zero_add]
    rw [List.foldl_cons, ih, whole, Nat.add_assoc]

theorem cells_cons (c : Char) (text : List Char) : cells (c :: text) = cellsOf c + cells text := by
  rw [cells, List.foldl_cons, foldl_cells, Nat.zero_add]

theorem cells_append (front behind : List Char) : cells (front ++ behind) = cells front + cells behind := by
  induction front with
  | nil => exact (Nat.zero_add _).symm
  | cons c front ih => rw [List.cons_append, cells_cons, cells_cons, ih, Nat.add_assoc]

theorem cellsOf_le (c : Char) : cellsOf c ≤ 2 := by
  unfold cellsOf
  split_ifs <;> omega

theorem cells_trimEnd_le (text : List Char) : cells (Text.trimEnd Text.isBlank text) ≤ cells text := by
  obtain ⟨dropped, whole, _⟩ := exists_dropped_of_trimEnd Text.isBlank text
  have counted := congrArg cells whole
  rw [cells_append] at counted
  omega

/-- Only what is behind has blanks to lose, unless all of it is blank. -/
theorem cells_trimEnd_append_le (front behind : List Char) :
    cells (Text.trimEnd Text.isBlank (front ++ behind)) ≤ cells front + cells (Text.trimEnd Text.isBlank behind) := by
  obtain ⟨dropped, whole, blank⟩ := exists_dropped_of_trimEnd Text.isBlank behind
  have cut : Text.trimEnd Text.isBlank (front ++ behind) =
      Text.trimEnd Text.isBlank (front ++ Text.trimEnd Text.isBlank behind) := by
    conv_lhs => rw [whole, ← List.append_assoc]
    exact trimEnd_append blank
  rw [cut, ← cells_append]
  exact cells_trimEnd_le _

/-! ### Words and pieces -/

theorem flatten_beforeFirst (c : Char) (lines : List (List Char)) :
    (Text.beforeFirst c lines).flatten = c :: lines.flatten := by
  cases lines <;> rfl

theorem flatten_cutBehindBlanks (text : List Char) : (cutBehindBlanks text).flatten = text := by
  fun_induction cutBehindBlanks text with
  | case1 => rfl
  | case2 c => rfl
  | case3 c d rest _ ih => rw [List.flatten_cons, ih, List.singleton_append]
  | case4 c d rest _ ih => rw [flatten_beforeFirst, ih]

theorem flatten_chunks (line : List Char) : (chunks line).flatten = line := by
  have whole := flatten_cutBehindBlanks line
  unfold chunks
  split
  next first second rest cut =>
    rw [cut] at whole
    split
    · rw [List.flatten_cons, List.append_assoc]
      exact whole
    · exact whole
  · exact whole

theorem flatten_chop (width filled : Nat) (text : List Char) : (chop width filled text).flatten = text := by
  induction text generalizing filled with
  | nil => rfl
  | cons c rest ih =>
    rw [chop]
    split
    · rw [flatten_beforeFirst, ih]
    · rw [List.flatten_cons, List.nil_append, flatten_beforeFirst, ih]

/-- The first piece fits beside what is filled, and the others fit alone. -/
theorem exists_chop_eq_cons (wide : 2 ≤ width) (small : filled ≤ width) (text : List Char) :
    ∃ first rest, chop width filled text = first :: rest ∧ filled + cells first ≤ width ∧
      ∀ piece ∈ rest, cells piece ≤ width := by
  induction text generalizing filled with
  | nil => exact ⟨[], [], rfl, small, by simp⟩
  | cons c text ih =>
    rw [chop]
    split
    next fits =>
      obtain ⟨first, rest, cut, beside, alone⟩ := ih fits
      rw [cut]
      refine ⟨c :: first, rest, rfl, ?_, alone⟩
      rw [cells_cons, ← Nat.add_assoc]
      exact beside
    next full =>
      -- Even the widest character fits on a line of its own.
      obtain ⟨first, rest, cut, beside, alone⟩ := ih ((cellsOf_le c).trans wide)
      rw [cut]
      refine ⟨[], (c :: first) :: rest, rfl, small, List.forall_mem_cons.2 ⟨?_, alone⟩⟩
      rw [cells_cons]
      exact beside

theorem cells_le_of_mem_chop (wide : 2 ≤ width) (text : List Char) :
    ∀ piece ∈ chop width 0 text, cells piece ≤ width := by
  obtain ⟨first, rest, cut, beside, alone⟩ := exists_chop_eq_cons wide (Nat.zero_le width) text
  rw [cut]
  exact List.forall_mem_cons.2 ⟨by omega, alone⟩

/-! ### Lines under way -/

namespace Filling

variable {filling : Filling} {overflow : Overflow}

/-- The lines hold the text, and each fits into the width but for the blanks at its end. -/
structure Holds (width : Nat) (filling : Filling) (text : List Char) : Prop where
  whole : filling.lines.flatten = text
  counted : filling.filled = cells filling.line
  narrow : ∀ line ∈ filling.lines, cells (Text.trimEnd Text.isBlank line) ≤ width

theorem holds_empty (width : Nat) : Holds width empty [] where
  whole := rfl
  counted := rfl
  narrow := List.forall_mem_singleton.2 (Nat.zero_le width)

theorem lines_eq (filling : Filling) : filling.lines = filling.full.reverse ++ [filling.line] :=
  List.reverse_cons

theorem lines_startLine (filling : Filling) (text : List Char) :
    (filling.startLine text).lines = (if filling.line.isEmpty then filling.full.reverse else filling.lines) ++ [text] := by
  rw [lines_eq, startLine]
  split <;> simp [lines]

theorem Holds.startLine (holds : Holds width filling text) (fits : cells (Text.trimEnd Text.isBlank chunk) ≤ width) :
    Holds width (filling.startLine chunk) (text ++ chunk) := by
  have lines := lines_startLine filling chunk
  have whole := holds.whole
  constructor
  case whole =>
    rw [lines, List.flatten_append, List.flatten_singleton]
    split
    next empty =>
      rw [lines_eq, List.flatten_append, List.flatten_singleton, List.isEmpty_iff.1 empty, List.append_nil] at whole
      rw [whole]
    · rw [whole]
  case counted => rfl
  case narrow =>
    rw [lines]
    refine List.forall_mem_append.2 ⟨?_, List.forall_mem_singleton.2 fits⟩
    split
    · intro line member
      exact holds.narrow line (by rw [lines_eq]; exact List.mem_append_left _ member)
    · exact holds.narrow

theorem Holds.foldl_startLine {pieces : List (List Char)} (holds : Holds width filling text)
    (fit : ∀ piece ∈ pieces, cells piece ≤ width) :
    Holds width (pieces.foldl Filling.startLine filling) (text ++ pieces.flatten) := by
  induction pieces generalizing filling text with
  | nil =>
    rw [List.flatten_nil, List.append_nil]
    exact holds
  | cons piece pieces ih =>
    obtain ⟨first, others⟩ := List.forall_mem_cons.1 fit
    rw [List.flatten_cons, ← List.append_assoc]
    exact ih (holds.startLine ((cells_trimEnd_le piece).trans first)) others

/-- Behind the filled line there is room for the chunk. -/
theorem Holds.extend (holds : Holds width filling text)
    (room : filling.filled + cells (Text.trimEnd Text.isBlank chunk) ≤ width) :
    Holds width { filling with line := filling.line ++ chunk, filled := filling.filled + cells chunk } (text ++ chunk) := by
  have whole := holds.whole
  have narrow := holds.narrow
  rw [lines_eq] at whole narrow
  constructor
  case whole =>
    rw [lines_eq, ← whole]
    simp
  case counted => rw [cells_append, holds.counted]
  case narrow =>
    rw [lines_eq]
    refine List.forall_mem_append.2 ⟨(List.forall_mem_append.1 narrow).1, List.forall_mem_singleton.2 ?_⟩
    refine (cells_trimEnd_append_le _ _).trans ?_
    rw [← holds.counted]
    exact room

theorem Holds.add (wide : 2 ≤ width) (holds : Holds width filling text) (chunk : List Char) :
    Holds width (filling.add width .fold chunk) (text ++ chunk) := by
  rw [Filling.add]
  split
  next room => exact holds.extend room
  · split
    next fits => exact holds.startLine fits
    · have folded := holds.foldl_startLine (cells_le_of_mem_chop wide chunk)
      rw [flatten_chop] at folded
      exact folded

theorem Holds.foldl_add (wide : 2 ≤ width) (holds : Holds width filling text) (chunks : List (List Char)) :
    Holds width (chunks.foldl (Filling.add width .fold) filling) (text ++ chunks.flatten) := by
  induction chunks generalizing filling text with
  | nil =>
    rw [List.flatten_nil, List.append_nil]
    exact holds
  | cons chunk chunks ih =>
    rw [List.flatten_cons, ← List.append_assoc]
    exact ih (holds.add wide chunk)

/-- What fits on one line stays on it. -/
theorem foldl_add_of_fits {chunks : List (List Char)} (counted : filling.filled = cells filling.line)
    (fits : cells (filling.line ++ chunks.flatten) ≤ width) :
    (chunks.foldl (Filling.add width overflow) filling).lines =
      filling.full.reverse ++ [filling.line ++ chunks.flatten] := by
  induction chunks generalizing filling with
  | nil => rw [List.foldl_nil, lines_eq, List.flatten_nil, List.append_nil]
  | cons chunk chunks ih =>
    rw [List.flatten_cons, cells_append, cells_append] at fits
    have room : filling.filled + cells (Text.trimEnd Text.isBlank chunk) ≤ width := by
      have trimmed := cells_trimEnd_le chunk
      omega
    have added : filling.add width overflow chunk =
        { filling with line := filling.line ++ chunk, filled := filling.filled + cells chunk } := if_pos room
    rw [List.foldl_cons, added, ih]
    · rw [List.flatten_cons, List.append_assoc]
    · rw [cells_append, counted]
    · rw [cells_append, cells_append]
      omega

end Filling

/-! ### Ends of rows -/

theorem cells_cutAt_le (width : Nat) (text : List Char) : cells (cutAt width text) ≤ width := by
  induction text generalizing width with
  | nil => exact Nat.zero_le width
  | cons c rest ih =>
    rw [cutAt]
    split
    next fits =>
      have later := ih (width - cellsOf c)
      rw [cells_cons]
      omega
    · split
      next some => exact some
      · exact Nat.zero_le width

theorem cutAt_append (fits : cells front ≤ width) (behind : List Char) :
    cutAt width (front ++ behind) = front ++ cutAt (width - cells front) behind := by
  induction front generalizing width with
  | nil => rfl
  | cons c front ih =>
    rw [cells_cons] at fits
    rw [List.cons_append, cutAt, if_pos (by omega), ih (by omega), cells_cons, Nat.sub_sub]
    rfl

theorem blank_cutAt (blank : Blank text) (width : Nat) : Blank (cutAt width text) := by
  induction text generalizing width with
  | nil => exact List.forall_mem_nil _
  | cons c rest ih =>
    obtain ⟨first, others⟩ := List.forall_mem_cons.1 blank
    rw [cutAt]
    split
    · exact List.forall_mem_cons.2 ⟨first, ih others _⟩
    · split
      · exact List.forall_mem_singleton.2 (by decide)
      · exact List.forall_mem_nil _

/-- Only blanks at its end are dropped from a line. -/
theorem exists_dropExcess_eq (width : Nat) (line : List Char) :
    ∃ pad, dropExcess width line = Text.trimEnd Text.isBlank line ++ pad ∧ Blank pad := by
  obtain ⟨dropped, whole, blank⟩ := exists_dropped_of_trimEnd Text.isBlank line
  have count : (line.reverse.takeWhile Text.isBlank).length = dropped.length := by
    have lengths := congrArg List.length (List.takeWhile_append_dropWhile (p := Text.isBlank) (l := line.reverse))
    have sum := congrArg List.length whole
    rw [Text.trimEnd] at sum
    simp only [List.length_append, List.length_reverse] at lengths sum
    omega
  refine ⟨dropped.take (line.length - min dropped.length (line.length - width) -
    (Text.trimEnd Text.isBlank line).length), ?_, fun c member => blank c (List.mem_of_mem_take member)⟩
  have long : (Text.trimEnd Text.isBlank line).length ≤ line.length - min dropped.length (line.length - width) := by
    have sum := congrArg List.length whole
    rw [List.length_append] at sum
    omega
  rw [dropExcess, count]
  calc line.take (line.length - min dropped.length (line.length - width))
      = (Text.trimEnd Text.isBlank line ++ dropped).take (line.length - min dropped.length (line.length - width)) := by
        rw [← whole]
    _ = _ := by rw [List.take_append, List.take_of_length_le long]

/-- A row has what its line has, but for blanks at the end, and it fits. -/
theorem exists_cutOff_eq (narrow : cells (Text.trimEnd Text.isBlank line) ≤ width) :
    ∃ pad, cutOff width .fold (dropExcess width line) = Text.trimEnd Text.isBlank line ++ pad ∧ Blank pad ∧
      cells (cutOff width .fold (dropExcess width line)) ≤ width := by
  obtain ⟨pad, kept, blank⟩ := exists_dropExcess_eq width line
  rw [kept, cutOff]
  split
  next fits => exact ⟨pad, rfl, blank, fits⟩
  · exact ⟨_, cutAt_append narrow pad, blank_cutAt blank _, cells_cutAt_le _ _⟩

/-! ### Wrapped text -/

/-- The rows make up the line, but that blanks may be missing or standing in at the end of a row. -/
inductive Wraps : List Char → List (List Char) → Prop
  | last {front gap pad : List Char} : Blank gap → Blank pad → Wraps (front ++ gap) [front ++ pad]
  | next {front gap pad rest : List Char} {rows : List (List Char)} : Blank gap → Blank pad → Wraps rest rows →
      Wraps (front ++ gap ++ rest) ((front ++ pad) :: rows)

/-- The line has no more cells, and no more characters, than there is room for. -/
def Fits (width : Nat) (line : List Char) : Prop :=
  cells line ≤ width ∧ line.length ≤ width

/-- The rows are those of a line on a terminal of the width: a line that fits is a row. -/
structure WrappedLine (width : Nat) (line : List Char) (rows : List (List Char)) : Prop where
  agrees : Wraps line rows
  narrow : ∀ row ∈ rows, cells row ≤ width
  single : Fits width line → rows = [line]

/-- The rows are those of the lines of a text, one line behind the other. -/
def Wrapped (width : Nat) (text : List Char) (rows : List (List Char)) : Prop :=
  ∃ groups, List.Forall₂ (WrappedLine width) (Text.splitOn '\n' text) groups ∧ rows = groups.flatten

/-- The rows of a line. -/
def rowsOf (width : Nat) (line : List Char) : List (List Char) :=
  ((chunks line).foldl (Filling.add width .fold) Filling.empty).lines.map fun line =>
    cutOff width .fold (dropExcess width line)

theorem layOut_eq (width : Nat) (text : List Char) :
    layOut width .fold text = (Text.splitOn '\n' text).flatMap fun line => rowsOf width (expandTabs 0 line) := rfl

theorem wraps_map {row : List Char → List Char} {first : List Char} {lines : List (List Char)}
    (rows : ∀ line ∈ first :: lines, ∃ pad, row line = Text.trimEnd Text.isBlank line ++ pad ∧ Blank pad) :
    Wraps (first :: lines).flatten ((first :: lines).map row) := by
  induction lines generalizing first with
  | nil =>
    obtain ⟨pad, same, blank⟩ := rows first List.mem_cons_self
    obtain ⟨gap, whole, blankGap⟩ := exists_dropped_of_trimEnd Text.isBlank first
    rw [List.map_singleton, same, List.flatten_singleton]
    conv => arg 1; rw [whole]
    exact .last blankGap blank
  | cons second lines ih =>
    obtain ⟨⟨pad, same, blank⟩, others⟩ := List.forall_mem_cons.1 rows
    obtain ⟨gap, whole, blankGap⟩ := exists_dropped_of_trimEnd Text.isBlank first
    rw [List.map_cons, same, List.flatten_cons]
    conv => arg 1; rw [whole]
    exact .next blankGap blank (ih others)

theorem dropExcess_of_fits (fits : Fits width line) : dropExcess width line = line := by
  have room : line.length - width = 0 := Nat.sub_eq_zero_of_le fits.2
  rw [dropExcess, room, Nat.min_zero, Nat.sub_zero, List.take_length]

theorem rowsOf_of_fits (fits : Fits width line) : rowsOf width line = [line] := by
  have whole : cells (Filling.empty.line ++ (chunks line).flatten) ≤ width := by
    rw [flatten_chunks]
    exact fits.1
  have lines : ((chunks line).foldl (Filling.add width .fold) Filling.empty).lines = [line] := by
    rw [Filling.foldl_add_of_fits rfl whole, flatten_chunks]
    rfl
  rw [rowsOf, lines, List.map_singleton, dropExcess_of_fits fits, cutOff, if_pos fits.1]

theorem wrappedLine_rowsOf (wide : 2 ≤ width) (line : List Char) : WrappedLine width line (rowsOf width line) := by
  have holds := (Filling.holds_empty width).foldl_add wide (chunks line)
  rw [List.nil_append, flatten_chunks] at holds
  constructor
  case agrees =>
    obtain ⟨first, rest, lines⟩ := List.exists_cons_of_ne_nil
      (show ((chunks line).foldl (Filling.add width .fold) Filling.empty).lines ≠ [] by simp [Filling.lines_eq])
    have whole := holds.whole
    have narrow := holds.narrow
    rw [lines] at whole narrow
    rw [rowsOf, lines, ← whole]
    refine wraps_map fun filled inside => ?_
    obtain ⟨pad, same, blank, _⟩ := exists_cutOff_eq (narrow filled inside)
    exact ⟨pad, same, blank⟩
  case narrow =>
    intro row member
    obtain ⟨filled, inside, rfl⟩ := List.mem_map.1 member
    obtain ⟨_, _, _, fits⟩ := exists_cutOff_eq (holds.narrow filled inside)
    exact fits
  case single => exact rowsOf_of_fits

theorem expandTabs_of_free (free : '\t' ∉ text) (column : Nat) : expandTabs column text = text := by
  induction text generalizing column with
  | nil => rfl
  | cons c rest ih =>
    obtain ⟨other, later⟩ := not_or.1 (mt List.mem_cons.2 free)
    rw [expandTabs, if_neg (Ne.symm other), ih later]

theorem mem_of_mem_splitOn {mark : Char} {part : List Char} (member : part ∈ Text.splitOn mark text) (inside : c ∈ part) :
    c ∈ text := by
  have apart : c ≠ mark := fun same => Text.not_mem_of_mem_splitOn member (same ▸ inside)
  exact (Text.mem_splitOn apart text).1 ⟨part, member, inside⟩

/-- A text without tabs is wrapped. -/
theorem wrapped_layOut (wide : 2 ≤ width) (free : '\t' ∉ text) : Wrapped width text (layOut width .fold text) := by
  refine ⟨(Text.splitOn '\n' text).map (rowsOf width), ?_, ?_⟩
  · rw [List.forall₂_map_right_iff]
    exact List.forall₂_same.2 fun line _ => wrappedLine_rowsOf wide line
  · rw [layOut_eq, List.flatMap]
    refine congrArg List.flatten (List.map_congr_left fun line member => ?_)
    rw [expandTabs_of_free fun tab => free (mem_of_mem_splitOn member tab)]

/-! ### Wide terminals -/

theorem exists_fits (lines : List (List Char)) : ∃ width, 2 ≤ width ∧ ∀ line ∈ lines, Fits width line := by
  induction lines with
  | nil => exact ⟨2, Nat.le_refl 2, List.forall_mem_nil _⟩
  | cons line lines ih =>
    obtain ⟨width, wide, fit⟩ := ih
    refine ⟨width + cells line + line.length, by omega, List.forall_mem_cons.2 ⟨⟨by omega, by omega⟩, ?_⟩⟩
    intro other member
    obtain ⟨narrow, short⟩ := fit other member
    exact ⟨by omega, by omega⟩

/-- The text with spaces for its tabs, from a column on. -/
def spread (column : Nat) : List Char → List Char
  | [] => []
  | c :: rest =>
    if c = '\n' then c :: spread 0 rest
    else if c = '\t' then
      List.replicate (tabWidth - column % tabWidth) ' ' ++ spread (column + (tabWidth - column % tabWidth)) rest
    else c :: spread (column + cellsOf c) rest

theorem toList_withEnds (lines : List (List Char)) : (withEnds lines).toList = lines.flatMap fun line => line ++ ['\n'] :=
  String.toList_ofList

theorem exists_splitOn_eq_cons (mark : Char) (text : List Char) :
    ∃ part parts, Text.splitOn mark text = part :: parts := by
  rw [Text.splitOn_eq]
  exact List.exists_cons_of_ne_nil (List.splitOnP_ne_nil _ _)

theorem flatMap_end (mark : Char) (part : List Char) (parts : List (List Char)) :
    (part :: parts).flatMap (fun line => line ++ [mark]) = [mark].intercalate (part :: parts) ++ [mark] := by
  induction parts generalizing part with
  | nil => simp
  | cons second parts ih =>
    rw [List.flatMap_cons, ih second, List.intercalate_cons_cons]
    simp only [List.append_assoc]

theorem toList_withEnds_splitOn (text : List Char) : (withEnds (Text.splitOn '\n' text)).toList = text ++ ['\n'] := by
  obtain ⟨part, parts, split⟩ := exists_splitOn_eq_cons '\n' text
  rw [toList_withEnds, split, flatMap_end, ← split, Text.splitOn_eq, List.intercalate_splitOn]

/-- The first line goes on from a column, and the others begin anew. -/
theorem exists_spread_eq (column : Nat) (text : List Char) :
    ∃ part parts, Text.splitOn '\n' text = part :: parts ∧ spread column text ++ ['\n'] =
      expandTabs column part ++ '\n' :: (parts.map (expandTabs 0)).flatMap fun line => line ++ ['\n'] := by
  induction text generalizing column with
  | nil => exact ⟨[], [], rfl, rfl⟩
  | cons c rest ih =>
    rw [Text.splitOn, spread]
    by_cases feed : c = '\n'
    · obtain ⟨part, parts, split, same⟩ := ih 0
      rw [if_pos feed, if_pos feed, split]
      refine ⟨[], part :: parts, rfl, ?_⟩
      rw [feed, List.cons_append, same]
      simp [expandTabs]
    · rw [if_neg feed, if_neg feed]
      by_cases tab : c = '\t'
      · obtain ⟨part, parts, split, same⟩ := ih (column + (tabWidth - column % tabWidth))
        rw [if_pos tab, split]
        refine ⟨c :: part, parts, rfl, ?_⟩
        rw [List.append_assoc, same, expandTabs, if_pos tab, List.append_assoc]
      · obtain ⟨part, parts, split, same⟩ := ih (column + cellsOf c)
        rw [if_neg tab, split]
        refine ⟨c :: part, parts, rfl, ?_⟩
        rw [List.cons_append, same, expandTabs, if_neg tab, List.cons_append]

theorem toList_withEnds_expanded (text : List Char) :
    (withEnds ((Text.splitOn '\n' text).map (expandTabs 0))).toList = spread 0 text ++ ['\n'] := by
  obtain ⟨part, parts, split, same⟩ := exists_spread_eq 0 text
  rw [toList_withEnds, split, same, List.map_cons, List.flatMap_cons, List.append_assoc, List.singleton_append]

theorem layOut_of_fits (fit : ∀ line ∈ Text.splitOn '\n' text, Fits width (expandTabs 0 line)) :
    layOut width .fold text = (Text.splitOn '\n' text).map (expandTabs 0) := by
  rw [layOut_eq, List.map_eq_flatMap, List.flatMap, List.flatMap]
  exact congrArg List.flatten (List.map_congr_left fun line member => rowsOf_of_fits (fit line member))

theorem flatten_of_fits {lines : List (List Char)} {groups : List (List (List Char))}
    (wrapped : List.Forall₂ (WrappedLine width) lines groups) (fit : ∀ line ∈ lines, Fits width line) :
    groups.flatten = lines := by
  induction wrapped with
  | nil => rfl
  | cons first _ ih =>
    obtain ⟨here, others⟩ := List.forall_mem_cons.1 fit
    rw [List.flatten_cons, first.single here, ih others, List.singleton_append]

/-- On a terminal that is wide enough for the lines of both, a text is shown as the lines of another only when it comes to the
    other with its tabs expanded. -/
theorem spread_eq_of_wrapped {shown told : List Char} (wrapped : ∀ width, 2 ≤ width →
    ∃ rows, withEnds (layOut width .fold shown) = withEnds rows ∧ Wrapped width told rows) : spread 0 shown = told := by
  obtain ⟨width, wide, fit⟩ := exists_fits ((Text.splitOn '\n' shown).map (expandTabs 0) ++ Text.splitOn '\n' told)
  obtain ⟨fitShown, fitTold⟩ := List.forall_mem_append.1 fit
  obtain ⟨rows, same, groups, lines, rfl⟩ := wrapped width wide
  have rowsShown := layOut_of_fits fun line member => fitShown _ (List.mem_map_of_mem member)
  have rowsTold := flatten_of_fits lines fitTold
  have texts := congrArg String.toList same
  rw [rowsShown, rowsTold, toList_withEnds_expanded, toList_withEnds_splitOn] at texts
  exact List.append_cancel_right texts

end DiagramWeave.Console
