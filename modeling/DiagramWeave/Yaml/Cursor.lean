import DiagramWeave.Text.Digit

/-!
# A place in a YAML text

A cursor is what is left of the text and where it starts: how many characters were passed, and the line
and column. Byte order marks take no column. Texts have single line feeds for line ends by the time they
get here; the next-line character and the two Unicode separators end lines as well.
-/
namespace DiagramWeave.Yaml

/-- Ends a line. -/
def isBreak (c : Char) : Bool :=
  c == '\n' || c.toNat == 0x85 || c.toNat == 0x2028 || c.toNat == 0x2029

/-- A space or a tab. -/
def isSpace (c : Char) : Bool :=
  c == ' ' || c == '\t'

/-- A line end or the end of the text. -/
def endsLine : Option Char → Bool
  | none => true
  | some c => isBreak c

/-- A space, a line end or the end of the text. -/
def endsWord : Option Char → Bool
  | none => true
  | some c => c == ' ' || isBreak c

/-- A space, a tab, a line end or the end of the text. -/
def endsToken : Option Char → Bool
  | none => true
  | some c => isSpace c || isBreak c

/-- A character of a name: a letter, a digit, a dash or an underscore. -/
def isNameCharacter (c : Char) : Bool :=
  isLatinLetter c || isDecimalDigit c || c == '-' || c == '_'

/-- What a line end contributes to a scalar: the Unicode separators stay, others become a line feed. -/
def breakCharacter (c : Char) : Char :=
  if c.toNat == 0x2028 || c.toNat == 0x2029 then c else '\n'

structure Cursor where
  rest : List Char
  index : Nat
  line : Nat
  column : Nat

namespace Cursor

/-- The start of a text. -/
def start (text : List Char) : Cursor :=
  ⟨text, 0, 0, 0⟩

/-- The next character. -/
def peek (cursor : Cursor) : Option Char :=
  cursor.rest.head?

/-- The character `distance` characters behind the next. -/
def peekAt (cursor : Cursor) (distance : Nat) : Option Char :=
  cursor.rest[distance]?

/-- The cursor behind the next character. -/
def next (cursor : Cursor) : Cursor :=
  match cursor.rest with
  | [] => cursor
  | c :: rest =>
    if isBreak c then ⟨rest, cursor.index + 1, cursor.line + 1, 0⟩
    else if c.toNat == 0xfeff then ⟨rest, cursor.index + 1, cursor.line, cursor.column⟩
    else ⟨rest, cursor.index + 1, cursor.line, cursor.column + 1⟩

/-- The cursor some characters on. -/
def skip (cursor : Cursor) : Nat → Cursor
  | 0 => cursor
  | count + 1 => cursor.next.skip count

/-- The longest row of characters of a class, and the cursor behind it. -/
def takeWhile (cursor : Cursor) (keep : Char → Bool) : List Char × Cursor :=
  let taken := cursor.rest.takeWhile keep
  (taken, cursor.skip taken.length)

/-- The cursor behind a row of characters of a class. -/
def dropWhile (cursor : Cursor) (keep : Char → Bool) : Cursor :=
  (cursor.takeWhile keep).2

/-- The next character is in the class. -/
def sees (cursor : Cursor) (keep : Char → Bool) : Bool :=
  cursor.peek.any keep

/-- What the line end here contributes, and the cursor behind it. -/
def break? (cursor : Cursor) : Option (Char × Cursor) :=
  match cursor.peek with
  | some c => if isBreak c then some (breakCharacter c, cursor.next) else none
  | none => none

/-- Three dashes or three points followed by a blank: the mark between documents, wherever it stands. -/
def atDocumentMark (cursor : Cursor) : Bool :=
  (cursor.rest.take 3 == ['-', '-', '-'] || cursor.rest.take 3 == ['.', '.', '.']) &&
    endsToken (cursor.peekAt 3)

/-- The cursor behind a comment, if one starts here; the line end is left. -/
def skipComment (cursor : Cursor) : Cursor :=
  if cursor.peek == some '#' then cursor.dropWhile fun c => !isBreak c else cursor

end Cursor

end DiagramWeave.Yaml
