import DiagramWeave.Text.Ranges

/-!
# Blank characters and trimming

Two classes are used. `isBlank` is white space in the wide sense: spaces of every width, tabs, line and
paragraph separators, and the four information separators U+001C to U+001F. `isPad` is the space and the
tab only, the characters that may pad a header line. Trimming removes a class from the ends of a text and
never from its middle.
-/
namespace DiagramWeave.Text

/-- White space of every kind, the information separators included. -/
def blankRanges : List (Nat × Nat) := [
  (0x9, 0xd), (0x1c, 0x20), (0x85, 0x85), (0xa0, 0xa0), (0x1680, 0x1680), (0x2000, 0x200a),
  (0x2028, 0x2029), (0x202f, 0x202f), (0x205f, 0x205f), (0x3000, 0x3000)]

/-- White space, line ends and information separators. -/
def isBlank (c : Char) : Bool :=
  inRanges blankRanges c

/-- White space as Unicode's property has it: the information separators do not belong to it. -/
def isWhiteSpace (c : Char) : Bool :=
  isBlank c && !(0x1c ≤ c.toNat && c.toNat ≤ 0x1f)

/-- The space and the tab. -/
def isPad (c : Char) : Bool :=
  c == ' ' || c == '\t'

/-- Carriage return and line feed. -/
def isLineEnd (c : Char) : Bool :=
  c == '\r' || c == '\n'

/-- Drops the class from the end. -/
def trimEnd (drop : Char → Bool) (text : List Char) : List Char :=
  (text.reverse.dropWhile drop).reverse

/-- Drops the class from both ends. -/
def trim (drop : Char → Bool) (text : List Char) : List Char :=
  trimEnd drop (text.dropWhile drop)

/-- Every character is blank; so is the empty text. -/
def allBlank (text : List Char) : Bool :=
  text.all isBlank

end DiagramWeave.Text
