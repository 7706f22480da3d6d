import DiagramWeave.Yaml.Cursor
import DiagramWeave.Yaml.Token

/-!
# Plain scalars

A scalar without quotes runs until a comment, a colon before a blank, or in a flow collection a character
with a meaning there. It may go on over lines that are indented deeper than the block around it; the line
ends are folded as inside quotes.
-/
namespace DiagramWeave.Yaml

/-- Characters with a meaning in flow collections. -/
def isFlowMark (c : Char) : Bool :=
  c == ',' || c == '?' || c == '[' || c == ']' || c == '\x7b' || c == '\x7d'

/-- A colon before this character ends a plain scalar. -/
def endsKey (inFlow : Bool) (after : Option Char) : Bool :=
  endsToken after || (inFlow && after.any fun c => isFlowMark c && c != '?')

/-- The characters of a plain scalar up to a blank or its end. -/
def plainRun (inFlow : Bool) : List Char → List Char
  | [] => []
  | c :: rest =>
    if isSpace c || isBreak c || (c == ':' && endsKey inFlow rest.head?) || (inFlow && isFlowMark c) then
      []
    else c :: plainRun inFlow rest

/-- Blanks and line ends inside a plain scalar: what they contribute, last character first, and whether a
    line end was among them. -/
structure PlainGap where
  read : List Char
  cursor : Cursor
  broken : Bool

/-- Spaces and empty lines behind a line end, in `steps` characters at most; nothing when a mark between
    documents follows. -/
def plainBreaks? (read : List Char) (cursor : Cursor) : Nat → Option (List Char × Cursor)
  | 0 => some (read, cursor)
  | steps + 1 =>
    if cursor.peek == some ' ' then plainBreaks? read cursor.next steps
    else match cursor.break? with
      | some (c, cursor) =>
        if cursor.atDocumentMark then none else plainBreaks? (c :: read) cursor steps
      | none => some (read, cursor)

/-- The gap at a cursor. -/
def plainGap (cursor : Cursor) : PlainGap :=
  let (blanks, cursor) := cursor.takeWhile (· == ' ')
  match cursor.break? with
  | none => ⟨blanks, cursor, false⟩
  | some (c, cursor) =>
    if cursor.atDocumentMark then ⟨[], cursor, true⟩
    else match plainBreaks? [] cursor (cursor.rest.length + 1) with
      | none => ⟨[], cursor, true⟩
      | some (breaks, cursor) =>
        let first := if c != '\n' then [c] else if breaks.isEmpty then [' '] else []
        ⟨breaks ++ first, cursor, true⟩

/-- A plain scalar as read. -/
structure PlainRead where
  content : List Char
  cursor : Cursor
  /-- The line of the scalar's last character is over. -/
  broken : Bool

/-- The rest of a plain scalar in a block indented by `indent`, in `steps` runs at most. `gap` stands
    between what was read and the next run. -/
def plainFrom (inFlow : Bool) (indent : Int) (read gap : List Char) (cursor : Cursor) (broken : Bool) :
    Nat → PlainRead
  | 0 => ⟨read.reverse, cursor, broken⟩
  | steps + 1 =>
    let run := plainRun inFlow cursor.rest
    if cursor.peek == some '#' || run.isEmpty then ⟨read.reverse, cursor, broken⟩
    else
      let read := run.reverse ++ gap ++ read
      let next := plainGap (cursor.skip run.length)
      if next.read.isEmpty || next.cursor.peek == some '#' ||
          (!inFlow && (next.cursor.column : Int) ≤ indent) then
        ⟨read.reverse, next.cursor, next.broken⟩
      else plainFrom inFlow indent read next.read next.cursor next.broken steps

/-- The plain scalar that starts here. -/
def plainScalar (inFlow : Bool) (indent : Int) (cursor : Cursor) : PlainRead :=
  plainFrom inFlow indent [] [] cursor false (cursor.rest.length + 1)

end DiagramWeave.Yaml
