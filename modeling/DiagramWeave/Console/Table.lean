import DiagramWeave.Console.Layout

/-!
# Tables

A table has a title, a heading for each column and rows of cells, in a frame of box characters. A column is
as wide as its widest cell, heading included, with a space on either side. Texts stand at the left or at
the right of their column, and the title is centred over the frame.
-/
namespace DiagramWeave.Console

/-- Where text stands. -/
inductive Side where
  | left
  | right
  | centre
  deriving DecidableEq, Repr

structure Column where
  heading : String
  side : Side

/-- The widest line of a text in cells. -/
def textWidth (text : List Char) : Nat :=
  ((Text.lines text).map cells).foldl max 0

/-- The line, filled up to a width. -/
def align (side : Side) (width : Nat) (line : List Char) : List Char :=
  let spaces (count : Nat) : List Char := List.replicate count ' '
  match side with
  | .left => line ++ spaces (width - cells line)
  | .right =>
    let line := Text.trimEnd Text.isBlank line
    spaces (width - cells line) ++ line
  | .centre =>
    let line := Text.trimEnd Text.isBlank line
    let before := (width - cells line) / 2
    spaces before ++ line ++ spaces (width - cells line - before)

/-- The lines of a cell. -/
def cellLines (side : Side) (width : Nat) (text : List Char) : List (List Char) :=
  (layOut width .ellipsis text).map fun line => ' ' :: align side width line ++ [' ']

/-- The characters that hold the parts of a line: before the first, between two, and behind the last. -/
structure Rail where
  first : String
  between : String
  last : String

/-- A line made of parts. -/
def Rail.join (rail : Rail) (parts : List (List Char)) : List Char :=
  rail.first.toList ++ rail.between.toList.intercalate parts ++ rail.last.toList

/-- A line across all columns. -/
def Rail.across (rail : Rail) (mark : Char) (widths : List Nat) : List Char :=
  rail.join (widths.map fun width => List.replicate (width + 2) mark)

/-- The lines of a row, as many as its tallest cell has. Shorter cells are filled up with blank lines,
    above them in the head and below them elsewhere. -/
def rowLines (rail : Rail) (isHead : Bool) (columns : List (Column × Nat)) (texts : List (List Char)) :
    List (List Char) :=
  let cells := (columns.zip texts).map fun ((column, width), text) => cellLines column.side width text
  let height := (cells.map List.length).foldl max 1
  let filled := (columns.zip cells).map fun ((_, width), lines) =>
    let blank := List.replicate (height - lines.length) (List.replicate (width + 2) ' ')
    if isHead then blank ++ lines else lines ++ blank
  (List.range height).map fun index => rail.join (filled.map fun lines => lines.getD index [])

/-- A table. -/
def table (title : List Char) (columns : List Column) (rows : List (List (List Char))) : String :=
  let widths := columns.mapIdx fun index column =>
    (rows.map fun row => textWidth (row.getD index [])).foldl max (textWidth column.heading.toList)
  let measured := columns.zip widths
  let top := Rail.across ⟨"┏", "┳", "┓"⟩ '━' widths
  let middle := Rail.across ⟨"┡", "╇", "┩"⟩ '━' widths
  let bottom := Rail.across ⟨"└", "┴", "┘"⟩ '─' widths
  let head := rowLines ⟨"┃", "┃", "┃"⟩ true measured (columns.map fun column => column.heading.toList)
  let body := rows.flatMap (rowLines ⟨"│", "│", "│"⟩ false measured)
  let width := cells top
  withEnds ((layOut width .fold title).map (align .centre width) ++ [top] ++ head ++ [middle] ++ body ++ [bottom])

end DiagramWeave.Console
