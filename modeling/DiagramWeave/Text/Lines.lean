import DiagramWeave.Text.Blank

/-!
# Lines and words

Lines end at line feeds and carriage returns, the two together counting as one, and at the other
separators of lines: vertical tab, form feed, the separators U+001C to U+001E, U+0085, U+2028 and U+2029.
A line end closes its line, so nothing stands behind the last one. Words stand between blanks.
-/
namespace DiagramWeave.Text

/-- The character ends a line. -/
def endsLine (c : Char) : Bool :=
  ('\n' ≤ c && c ≤ '\r') || ('\x1c' ≤ c && c ≤ '\x1e') || c == '\x85' || c == '\u2028' || c == '\u2029'

/-- Puts a character in front of the first line. -/
def beforeFirst (c : Char) : List (List Char) → List (List Char)
  | line :: lines => (c :: line) :: lines
  | [] => [[c]]

/-- The lines of a text, without their ends. -/
def lines : List Char → List (List Char)
  | '\r' :: '\n' :: rest => [] :: lines rest
  | c :: rest => if endsLine c then [] :: lines rest else beforeFirst c (lines rest)
  | [] => []

/-- The words of a text. -/
def words (text : List Char) : List (List Char) :=
  match text with
  | [] => []
  | c :: rest =>
    if isBlank c then words rest
    else
      match rest with
      | [] => [[c]]
      | d :: _ => if isBlank d then [c] :: words rest else beforeFirst c (words rest)

end DiagramWeave.Text
