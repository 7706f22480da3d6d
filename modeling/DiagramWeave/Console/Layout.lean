import DiagramWeave.Console.Cells
import DiagramWeave.Console.Markup
import DiagramWeave.Text.Lines

/-!
# Lines of a width

Text is laid out in lines of a given number of cells. A line takes as many words as fit, each with the
blanks behind it; blanks beyond the width are dropped. A word that is wider than a line starts a line of
its own and is either folded over further lines or cut off behind an ellipsis. Tabs lead to the next
multiple of eight.
-/
namespace DiagramWeave.Console

/-- What becomes of a word that is wider than a line. -/
inductive Overflow where
  | fold
  | ellipsis
  deriving DecidableEq, Repr

/-- The distance of tab stops. -/
def tabWidth : Nat := 8

/-- The line with spaces for its tabs, from a column on. -/
def expandTabs (column : Nat) : List Char → List Char
  | [] => []
  | c :: rest =>
    if c = '\t' then
      let width := tabWidth - column % tabWidth
      List.replicate width ' ' ++ expandTabs (column + width) rest
    else c :: expandTabs (column + cellsOf c) rest

/-- Cuts a text where a blank stands before another character. -/
def cutBehindBlanks : List Char → List (List Char)
  | [] => []
  | [c] => [[c]]
  | c :: d :: rest =>
    if Text.isBlank c && !Text.isBlank d then [c] :: cutBehindBlanks (d :: rest)
    else Text.beforeFirst c (cutBehindBlanks (d :: rest))

/-- The words of a line, each with the blanks behind it, the first also with those before it. -/
def chunks (line : List Char) : List (List Char) :=
  match cutBehindBlanks line with
  | first :: second :: rest =>
    if Text.allBlank first then (first ++ second) :: rest else first :: second :: rest
  | short => short

/-- Cuts a text into pieces of a width. The first piece has some cells filled already. -/
def chop (width filled : Nat) : List Char → List (List Char)
  | [] => [[]]
  | c :: rest =>
    if filled + cellsOf c ≤ width then Text.beforeFirst c (chop width (filled + cellsOf c) rest)
    else [] :: Text.beforeFirst c (chop width (cellsOf c) rest)

/-- Lines under way: those that are full, the last one first, and the line that is being filled. -/
structure Filling where
  full : List (List Char)
  line : List Char
  filled : Nat

namespace Filling

/-- Nothing is laid out. -/
def empty : Filling := ⟨[], [], 0⟩

/-- All lines. -/
def lines (filling : Filling) : List (List Char) :=
  (filling.line :: filling.full).reverse

/-- Puts text on a line of its own. -/
def startLine (filling : Filling) (text : List Char) : Filling :=
  let full := if filling.line.isEmpty then filling.full else filling.line :: filling.full
  ⟨full, text, cells text⟩

/-- Lays out the next chunk. -/
def add (width : Nat) (overflow : Overflow) (filling : Filling) (chunk : List Char) : Filling :=
  -- Blanks behind a word may hang over the edge, so only the word has to fit.
  let word := cells (Text.trimEnd Text.isBlank chunk)
  if filling.filled + word ≤ width then
    { filling with line := filling.line ++ chunk, filled := filling.filled + cells chunk }
  else if word ≤ width then filling.startLine chunk
  else
    match overflow with
    | .fold => (chop width 0 chunk).foldl startLine filling
    | .ellipsis => filling.startLine chunk

end Filling

/-- The line without blanks beyond the width. -/
def dropExcess (width : Nat) (line : List Char) : List Char :=
  let blanks := (line.reverse.takeWhile Text.isBlank).length
  line.take (line.length - min blanks (line.length - width))

/-- The line cut off at the width. -/
def cutOff (width : Nat) (overflow : Overflow) (line : List Char) : List Char :=
  if cells line ≤ width then line
  else
    match overflow with
    | .fold => cutAt width line
    | .ellipsis => cutAt (width - 1) line ++ ['…']

/-- A text in lines of a width. -/
def layOut (width : Nat) (overflow : Overflow) (text : List Char) : List (List Char) :=
  (Text.splitOn '\n' text).flatMap fun line =>
    let filling := (chunks (expandTabs 0 line)).foldl (Filling.add width overflow) Filling.empty
    filling.lines.map fun line => cutOff width overflow (dropExcess width line)

/-- Lines with their ends. -/
def withEnds (lines : List (List Char)) : String :=
  String.ofList (lines.flatMap fun line => line ++ ['\n'])

/-- What a terminal of a width shows for markup. -/
def print (width : Nat) (markup : String) : Except MarkupFault String :=
  (shown markup).map fun text => withEnds (layOut width .fold text)

end DiagramWeave.Console
