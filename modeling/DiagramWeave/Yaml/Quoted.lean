import DiagramWeave.Yaml.Cursor
import DiagramWeave.Yaml.Token

/-!
# Quoted scalars

Inside quotes a row of blanks stays as it is unless it holds a line end: then it is folded, one line end
to a space and further ones to as many line feeds less one. Double quotes know escapes, among them the
escaped line end, which vanishes; single quotes know only their own doubling.

The texts of values consist of Unicode characters. A reader that has texts of code points would go on with
half of a surrogate pair, as in `"\ud800"`; here such an escape makes the file malformed.
-/
namespace DiagramWeave.Yaml

/-- What was read, last character first, and the cursor behind it. -/
abbrev ScalarRead := List Char × Cursor

/-- The character that a letter behind a backslash stands for. -/
def escapeOf? : Char → Option Char
  | '0' => some '\x00'
  | 'a' => some '\x07'
  | 'b' => some '\x08'
  | 't' => some '\t'
  | '\t' => some '\t'
  | 'n' => some '\n'
  | 'v' => some '\x0b'
  | 'f' => some '\x0c'
  | 'r' => some '\r'
  | 'e' => some '\x1b'
  | ' ' => some ' '
  | '"' => some '"'
  | '\\' => some '\\'
  | '/' => some '/'
  | 'N' => some (Char.ofNat 0x85)
  | '_' => some (Char.ofNat 0xa0)
  | 'L' => some (Char.ofNat 0x2028)
  | 'P' => some (Char.ofNat 0x2029)
  | _ => none

/-- How many hexadecimal digits follow a letter behind a backslash. -/
def escapeDigits? : Char → Option Nat
  | 'x' => some 2
  | 'u' => some 4
  | 'U' => some 8
  | _ => none

/-- The number of hexadecimal digits. -/
def hexNumber? (digits : List Char) : Option Nat :=
  digits.foldl (fun number c => do return 16 * (← number) + (← hexValue? c)) (some 0)

/-- The character of a code. Half of a surrogate pair is a code without a character, and no text can hold it. -/
def characterOf (code : Nat) : Except Fault Char :=
  if 0x10ffff < code then .error .beyondUnicode
  else if 0xd800 ≤ code ∧ code < 0xe000 then .error .malformed
  else .ok (Char.ofNat code)

/-- Empty lines and the blanks that lead the next line, in `steps` lines at most. A mark between documents
    must not start a line. -/
def foldedBreaks (read : List Char) (cursor : Cursor) : Nat → Except Fault ScalarRead
  | 0 => .ok (read, cursor)
  | steps + 1 =>
    if cursor.atDocumentMark then .error .malformed
    else
      let cursor := cursor.dropWhile isSpace
      match cursor.break? with
      | some (c, cursor) => foldedBreaks (c :: read) cursor steps
      | none => .ok (read, cursor)

/-- Blanks inside quotes. -/
def quotedBlanks (read : List Char) (cursor : Cursor) : Except Fault ScalarRead :=
  let (blanks, cursor) := cursor.takeWhile isSpace
  match cursor.peek, cursor.break? with
  | none, _ => .error .malformed
  | some _, none => .ok (blanks.reverse ++ read, cursor)
  | some _, some (c, cursor) => do
    let (breaks, cursor) ← foldedBreaks [] cursor (cursor.rest.length + 1)
    let first := if c != '\n' then [c] else if breaks.isEmpty then [' '] else []
    return (breaks ++ first ++ read, cursor)

/-- What a backslash in double quotes introduces. -/
def escaped (read : List Char) (cursor : Cursor) : Except Fault ScalarRead :=
  match cursor.peek with
  | none => .error .malformed
  | some c =>
    match escapeOf? c, escapeDigits? c with
    | some meant, _ => .ok (meant :: read, cursor.next)
    | none, some count =>
      let digits := cursor.next.rest.take count
      if digits.length < count then .error .malformed
      else match hexNumber? digits with
        | some code => do
          let meant ← characterOf code
          return (meant :: read, cursor.next.skip count)
        | none => .error .malformed
    | none, none =>
      match cursor.break? with
      | some (_, cursor) => foldedBreaks read cursor (cursor.rest.length + 1)
      | none => .error .malformed

/-- The rest of a quoted scalar, in `steps` pieces at most. -/
def quotedFrom (double : Bool) (read : List Char) (cursor : Cursor) : Nat → Except Fault ScalarRead
  | 0 => .error .malformed
  | steps + 1 =>
    match cursor.peek with
    | none => .error .malformed
    | some c =>
      if isSpace c || isBreak c then do
        let (read, cursor) ← quotedBlanks read cursor
        quotedFrom double read cursor steps
      else if double && c == '\\' then do
        let (read, cursor) ← escaped read cursor.next
        quotedFrom double read cursor steps
      else if double && c == '"' then .ok (read, cursor.next)
      else if !double && c == '\'' then
        if cursor.peekAt 1 == some '\'' then quotedFrom double ('\'' :: read) (cursor.skip 2) steps
        else .ok (read, cursor.next)
      else quotedFrom double (c :: read) cursor.next steps

/-- The quoted scalar whose quote stands here. -/
def quotedScalar (double : Bool) (cursor : Cursor) : Except Fault (List Char × Cursor) :=
  (quotedFrom double [] cursor.next (cursor.rest.length + 1)).map fun (read, cursor) =>
    (read.reverse, cursor)

end DiagramWeave.Yaml
