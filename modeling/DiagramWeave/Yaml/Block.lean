import DiagramWeave.Yaml.Quoted

/-!
# Block scalars

The lines of a block scalar are those indented as deep as its first line, or as deep as its heading says.
In the literal form they stay as they are; in the folded form a line end between two lines that both start
with a visible character becomes a space. The heading also says whether line ends at the end are kept.
-/
namespace DiagramWeave.Yaml

/-- What becomes of the line ends at the end of a block scalar. -/
inductive Chomping where
  | clip
  | keep
  | strip
  deriving DecidableEq, Repr

/-- The sign for a chomping. -/
def chompingOf? (c : Option Char) : Option Chomping :=
  match c with
  | some '+' => some .keep
  | some '-' => some .strip
  | _ => none

/-- The digit for an indentation; zero is none. -/
def indentOf? (c : Option Char) : Except Fault (Option Nat) :=
  match c with
  | some c =>
    if isDecimalDigit c then
      if c == '0' then .error .malformed else .ok (some (c.toNat - '0'.toNat))
    else .ok none
  | none => .ok none

/-- Chomping and indentation in the heading of a block scalar, in either order. -/
def blockIndicators (cursor : Cursor) : Except Fault (Chomping × Option Nat × Cursor) :=
  match chompingOf? cursor.peek with
  | some chomping => do
    let cursor := cursor.next
    match ← indentOf? cursor.peek with
    | some indent => return (chomping, some indent, cursor.next)
    | none => return (chomping, none, cursor)
  | none => do
    match ← indentOf? cursor.peek with
    | some indent =>
      let cursor := cursor.next
      match chompingOf? cursor.peek with
      | some chomping => return (chomping, some indent, cursor.next)
      | none => return (.clip, some indent, cursor)
    | none => return (.clip, none, cursor)

/-- The cursor on the next line, when nothing but spaces and a comment is left on this one. -/
def restOfLine (cursor : Cursor) : Except Fault Cursor :=
  let cursor := (cursor.dropWhile (· == ' ')).skipComment
  if endsLine cursor.peek then .ok ((cursor.break?.map Prod.snd).getD cursor) else .error .malformed

/-- Empty lines before the first line, and the deepest column their spaces reach. -/
def leadingLines (read : List Char) (deepest : Nat) (cursor : Cursor) : Nat → List Char × Nat × Cursor
  | 0 => (read, deepest, cursor)
  | steps + 1 =>
    if cursor.peek == some ' ' then leadingLines read (max deepest cursor.next.column) cursor.next steps
    else match cursor.break? with
      | some (c, cursor) => leadingLines (c :: read) deepest cursor steps
      | none => (read, deepest, cursor)

/-- The cursor behind spaces, but not beyond the column `indent`. -/
def skipIndent (indent : Nat) (cursor : Cursor) : Nat → Cursor
  | 0 => cursor
  | steps + 1 =>
    if cursor.column < indent && cursor.peek == some ' ' then skipIndent indent cursor.next steps
    else cursor

/-- Empty lines, and the indentation of the line behind them. -/
def blockBreaks (indent : Nat) (read : List Char) (cursor : Cursor) : Nat → List Char × Cursor
  | 0 => (read, cursor)
  | steps + 1 =>
    let cursor := skipIndent indent cursor indent
    match cursor.break? with
    | some (c, cursor) => blockBreaks indent (c :: read) cursor steps
    | none => (read, cursor)

/-- The lines from the cursor on. `breaks` are the empty lines before; `read` is what was read. The answer
    holds the line end of the last line and the empty lines behind it apart. -/
def blockLines (folded : Bool) (indent : Nat) (breaks read : List Char) (cursor : Cursor) :
    Nat → List Char × Option Char × List Char × Cursor
  | 0 => (read, none, breaks, cursor)
  | steps + 1 =>
    let visible := !cursor.sees isSpace
    let (line, cursor) := cursor.takeWhile fun c => !isBreak c
    let read := line.reverse ++ breaks ++ read
    match cursor.break? with
    | none => (read, none, [], cursor)
    | some (c, cursor) =>
      let (breaks, cursor) := blockBreaks indent [] cursor (cursor.rest.length + 1)
      if cursor.column = indent && cursor.peek.isSome then
        let join :=
          if folded && c == '\n' && visible && !cursor.sees isSpace then
            if breaks.isEmpty then [' '] else []
          else [c]
        blockLines folded indent breaks (join ++ read) cursor steps
      else (read, some c, breaks, cursor)

/-- The block scalar whose indicator stands here, in a block indented by `indent`. -/
def blockScalar (folded : Bool) (indent : Int) (cursor : Cursor) : Except Fault (List Char × Cursor) := do
  let (chomping, increment, cursor) ← blockIndicators cursor.next
  if !endsWord cursor.peek then throw .malformed
  let cursor ← restOfLine cursor
  let least := max 1 (indent + 1).toNat
  let length := cursor.rest.length + 1
  let (indent, breaks, cursor) :=
    match increment with
    | some increment =>
      let indent := least + increment - 1
      let (breaks, cursor) := blockBreaks indent [] cursor length
      (indent, breaks, cursor)
    | none =>
      let (breaks, deepest, cursor) := leadingLines [] 0 cursor length
      (max least deepest, breaks, cursor)
  let (read, ending, breaks, cursor) :=
    if cursor.column = indent && cursor.peek.isSome then
      blockLines folded indent breaks [] cursor length
    else ([], none, breaks, cursor)
  let read := match chomping with
    | .strip => read
    | .clip => ending.toList ++ read
    | .keep => breaks ++ ending.toList ++ read
  return (read.reverse, cursor)

end DiagramWeave.Yaml
