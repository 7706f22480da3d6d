import DiagramWeave.Decimal.Read
import DiagramWeave.Yaml.Block
import DiagramWeave.Yaml.Plain

/-!
# Cutting YAML into tokens

Block structure is read off the columns: a deeper column opens a collection, a shallower one closes all
that are deeper. That something was a key is known only at the colon behind it, so for each depth of flow
collections the scanner remembers the last place where a key may have started, and puts the key's token
in there afterwards. Such a key stays on one line and within 1024 characters.
-/
namespace DiagramWeave.Yaml

/-- A place where a key may have started. -/
structure PossibleKey where
  /-- How many tokens stand before it. -/
  place : Nat
  /-- Nothing but a key can stand there. -/
  required : Bool
  index : Nat
  line : Nat
  column : Nat

structure Scanner where
  cursor : Cursor
  tokens : Array Token
  /-- How many flow collections are open. -/
  depth : Nat
  /-- The column of the innermost block collection, −1 outside all. -/
  indent : Int
  /-- The columns of the block collections around it, the innermost first. -/
  outer : List Int
  keyAllowed : Bool
  /-- Possible keys by depth. -/
  keys : List (Nat × PossibleKey)

namespace Scanner

/-- The state before a text. -/
def start (text : List Char) : Scanner :=
  ⟨Cursor.start text, #[], 0, -1, [], true, []⟩

/-- Adds a token. -/
def emit (scanner : Scanner) (token : Token) : Scanner :=
  { scanner with tokens := scanner.tokens.push token }

/-- Adds a token of `width` characters. -/
def emitWide (scanner : Scanner) (width : Nat) (token : Token) : Scanner :=
  { scanner with tokens := scanner.tokens.push token, cursor := scanner.cursor.skip width }

/-- The scanner stands inside a flow collection. -/
def inFlow (scanner : Scanner) : Bool :=
  scanner.depth != 0

/-- Drops blanks, comments and line ends, in `steps` lines at most. Behind a line end a key may start. -/
def toNextToken (scanner : Scanner) : Nat → Scanner
  | 0 => scanner
  | steps + 1 =>
    let cursor := (scanner.cursor.dropWhile (· == ' ')).skipComment
    match cursor.break? with
    | some (_, cursor) =>
      toNextToken { scanner with
        cursor := cursor
        keyAllowed := scanner.keyAllowed || !scanner.inFlow } steps
    | none => { scanner with cursor := cursor }

/-- Forgets possible keys that have grown too long; a required one is a fault. -/
def dropStaleKeys (scanner : Scanner) : Except Fault Scanner :=
  let stale (key : PossibleKey) : Bool :=
    key.line != scanner.cursor.line || 1024 < scanner.cursor.index - key.index
  if scanner.keys.any fun entry => stale entry.2 && entry.2.required then .error .malformed
  else .ok { scanner with keys := scanner.keys.filter fun entry => !stale entry.2 }

/-- Forgets the possible key at this depth; a required one is a fault. -/
def dropKey (scanner : Scanner) : Except Fault Scanner :=
  if scanner.keys.any fun entry => entry.1 == scanner.depth && entry.2.required then .error .malformed
  else .ok { scanner with keys := scanner.keys.filter fun entry => entry.1 != scanner.depth }

/-- Remembers that a key may start here, where one may. -/
def saveKey (scanner : Scanner) : Except Fault Scanner :=
  if scanner.keyAllowed then do
    let scanner ← scanner.dropKey
    let cursor := scanner.cursor
    let required := !scanner.inFlow && scanner.indent == (cursor.column : Int)
    let key : PossibleKey :=
      ⟨scanner.tokens.size, required, cursor.index, cursor.line, cursor.column⟩
    return { scanner with keys := (scanner.depth, key) :: scanner.keys }
  else .ok scanner

/-- Closes the block collections deeper than a column. -/
def closeBlocks (column : Int) (scanner : Scanner) : List Int → Scanner
  | [] => scanner
  | around :: outer =>
    if column < scanner.indent then
      closeBlocks column { scanner.emit .blockEnd with indent := around, outer := outer } outer
    else scanner

/-- Closes the block collections deeper than a column, unless a flow collection is open. -/
def unwind (scanner : Scanner) (column : Int) : Scanner :=
  if scanner.inFlow then scanner else scanner.closeBlocks column scanner.outer

/-- Opens a block collection at a column, if it is deeper than those open; `token` goes to `place`. -/
def openBlock (scanner : Scanner) (column place : Nat) (token : Token) : Scanner :=
  if scanner.indent < (column : Int) then
    { scanner with
      indent := column
      outer := scanner.indent :: scanner.outer
      tokens := scanner.tokens.insertIdxIfInBounds place token }
  else scanner

/-- Opens a block collection here. -/
def openBlockHere (scanner : Scanner) (token : Token) : Scanner :=
  scanner.openBlock scanner.cursor.column scanner.tokens.size token

/-- Ends all blocks for what stands between documents. -/
def leaveDocument (scanner : Scanner) : Except Fault Scanner := do
  let scanner ← (scanner.unwind (-1)).dropKey
  return { scanner with keyAllowed := false }

/-! ## Directives and tags -/

/-- A name without blanks, and the cursor behind it. -/
def name (cursor : Cursor) : Except Fault (List Char × Cursor) :=
  let (name, cursor) := cursor.takeWhile isNameCharacter
  if name.isEmpty then .error .malformed else .ok (name, cursor)

/-- A decimal number, and the cursor behind it. -/
def number (cursor : Cursor) : Except Fault (Nat × Cursor) :=
  let (digits, cursor) := cursor.takeWhile isDecimalDigit
  if digits.isEmpty then .error .malformed else .ok (Decimal.readDigits digits, cursor)

/-- A tag handle: one exclamation mark, two, or two with a name between them. -/
def tagHandle (cursor : Cursor) : Except Fault (List Char × Cursor) :=
  if cursor.peek != some '!' then .error .malformed
  else if cursor.peekAt 1 == some ' ' then .ok (['!'], cursor.next)
  else
    let (name, cursor) := cursor.next.takeWhile isNameCharacter
    if cursor.peek == some '!' then .ok ('!' :: name ++ ['!'], cursor.next) else .error .malformed

/-- A character that a tag may hold as it is. -/
def isTagCharacter (c : Char) : Bool :=
  isLatinLetter c || isDecimalDigit c || "-;/?:@&=+$,_.!~*'()[]".toList.contains c

/-- The bytes of percent escapes, and the cursor behind them. -/
def percentBytes (bytes : ByteArray) (cursor : Cursor) : Nat → Except Fault (ByteArray × Cursor)
  | 0 => .ok (bytes, cursor)
  | steps + 1 =>
    if cursor.peek != some '%' then .ok (bytes, cursor)
    else
      match cursor.rest with
      | _ :: first :: second :: _ =>
        match hexNumber? [first, second] with
        | some byte => percentBytes (bytes.push (UInt8.ofNat byte)) (cursor.skip 3) steps
        | none => .error .malformed
      | _ => .error .malformed

/-- The characters of a tag; percent escapes are UTF-8 bytes. -/
def tagTextFrom (read : List Char) (cursor : Cursor) : Nat → Except Fault (List Char × Cursor)
  | 0 => .ok (read, cursor)
  | steps + 1 =>
    match cursor.peek with
    | some '%' => do
      let (bytes, cursor) ← percentBytes ByteArray.empty cursor (cursor.rest.length + 1)
      match String.fromUTF8? bytes with
      | some text => tagTextFrom (text.toList.reverse ++ read) cursor steps
      | none => .error .malformed
    | some c => if isTagCharacter c then tagTextFrom (c :: read) cursor.next steps else .ok (read, cursor)
    | none => .ok (read, cursor)

/-- The text of a tag, which is not empty. -/
def tagText (cursor : Cursor) : Except Fault (List Char × Cursor) := do
  let (read, next) ← tagTextFrom [] cursor (cursor.rest.length + 1)
  if next.index == cursor.index then throw .malformed
  return (read.reverse, next)

/-- A version directive behind its name. -/
def versionDirective (cursor : Cursor) : Except Fault (Token × Cursor) := do
  let (major, cursor) ← number (cursor.dropWhile (· == ' '))
  if cursor.peek != some '.' then throw .malformed
  let (_, cursor) ← number cursor.next
  if endsWord cursor.peek then return (.version major, cursor) else throw .malformed

/-- A tag directive behind its name. -/
def tagDirective (cursor : Cursor) : Except Fault (Token × Cursor) := do
  let (handle, cursor) ← tagHandle (cursor.dropWhile (· == ' '))
  if cursor.peek != some ' ' then throw .malformed
  let (expansion, cursor) ← tagText (cursor.dropWhile (· == ' '))
  if endsWord cursor.peek then return (.tagHandle handle expansion, cursor) else throw .malformed

/-- The directive whose percent sign stands here. -/
def directive (cursor : Cursor) : Except Fault (Token × Cursor) := do
  let (name, cursor) ← name cursor.next
  if !endsWord cursor.peek then throw .malformed
  let (token, cursor) ←
    if name = ['Y', 'A', 'M', 'L'] then versionDirective cursor
    else if name = ['T', 'A', 'G'] then tagDirective cursor
    else pure (.unknownDirective, cursor.dropWhile fun c => !isBreak c)
  let cursor ← restOfLine cursor
  return (token, cursor)

/-- A second exclamation mark stands in the word that starts here. -/
def hasHandle (cursor : Cursor) : Bool :=
  (cursor.next.rest.takeWhile fun c => c != ' ' && !isBreak c).contains '!'

/-- The tag whose exclamation mark stands here. -/
def tag (cursor : Cursor) : Except Fault (Token × Cursor) := do
  let (raw, cursor) ←
    if cursor.peekAt 1 == some '<' then do
      let (text, cursor) ← tagText (cursor.skip 2)
      if cursor.peek != some '>' then throw .malformed
      pure (RawTag.mk none text, cursor.next)
    else if endsToken (cursor.peekAt 1) then pure (RawTag.mk none ['!'], cursor.next)
    else do
      let (handle, cursor) ← if hasHandle cursor then tagHandle cursor else pure (['!'], cursor.next)
      let (text, cursor) ← tagText cursor
      pure (RawTag.mk (some handle) text, cursor)
  if endsWord cursor.peek then return (.tag raw, cursor) else throw .malformed

/-- The name of an anchor or alias whose sign stands here. -/
def anchorName (cursor : Cursor) : Except Fault (List Char × Cursor) := do
  let (name, cursor) ← name cursor.next
  let ends := endsToken cursor.peek || cursor.sees fun c => "?:,]\x7d%@`".toList.contains c
  if ends then return (name, cursor) else throw .malformed

/-! ## Tokens -/

/-- Opens a flow collection. -/
def openFlow (scanner : Scanner) (token : Token) : Except Fault Scanner := do
  let scanner ← scanner.saveKey
  return { scanner.emitWide 1 token with depth := scanner.depth + 1, keyAllowed := true }

/-- Closes a flow collection, if one is open. -/
def closeFlow (scanner : Scanner) (token : Token) : Except Fault Scanner := do
  let scanner ← scanner.dropKey
  if scanner.depth = 0 then throw .malformed
  return { scanner.emitWide 1 token with depth := scanner.depth - 1, keyAllowed := false }

/-- Separates the entries of a flow collection. -/
def flowEntry (scanner : Scanner) : Except Fault Scanner := do
  let scanner ← { scanner with keyAllowed := true }.dropKey
  return scanner.emitWide 1 .flowEntry

/-- Starts an entry of a block sequence. -/
def blockEntry (scanner : Scanner) : Except Fault Scanner := do
  if !scanner.inFlow && !scanner.keyAllowed then throw .malformed
  let scanner := if scanner.inFlow then scanner else scanner.openBlockHere .blockSequenceStart
  let scanner ← { scanner with keyAllowed := true }.dropKey
  return scanner.emitWide 1 .blockEntry

/-- Starts a key by its indicator. -/
def explicitKey (scanner : Scanner) : Except Fault Scanner := do
  if !scanner.inFlow && !scanner.keyAllowed then throw .malformed
  let scanner := if scanner.inFlow then scanner else scanner.openBlockHere .blockMappingStart
  let scanner ← { scanner with keyAllowed := !scanner.inFlow }.dropKey
  return scanner.emitWide 1 .key

/-- Starts a value. What may have been a key before it now is one. -/
def value (scanner : Scanner) : Except Fault Scanner := do
  match scanner.keys.find? fun entry => entry.1 == scanner.depth with
  | some (_, key) =>
    -- The token of the key, and of the mapping it opens, belong before what was read since.
    let scanner := { scanner with
      keys := scanner.keys.filter fun entry => entry.1 != scanner.depth
      tokens := scanner.tokens.insertIdxIfInBounds key.place .key
      keyAllowed := false }
    let scanner :=
      if scanner.inFlow then scanner else scanner.openBlock key.column key.place .blockMappingStart
    return scanner.emitWide 1 .value
  | none =>
    if !scanner.inFlow && !scanner.keyAllowed then throw .malformed
    let scanner := if scanner.inFlow then scanner else scanner.openBlockHere .blockMappingStart
    let scanner ← { scanner with keyAllowed := !scanner.inFlow }.dropKey
    return scanner.emitWide 1 .value

/-- Reads a token that may start a key. -/
def keyStart (scanner : Scanner) (read : Cursor → Except Fault (Token × Cursor)) :
    Except Fault Scanner := do
  let scanner ← scanner.saveKey
  let (token, cursor) ← read scanner.cursor
  return { scanner.emit token with cursor := cursor, keyAllowed := false }

/-- Reads a plain scalar. -/
def plain (scanner : Scanner) : Except Fault Scanner := do
  let scanner ← scanner.saveKey
  let read := plainScalar scanner.inFlow scanner.indent scanner.cursor
  return { scanner.emit (.scalar read.content true) with cursor := read.cursor, keyAllowed := read.broken }

/-- Reads a block scalar. -/
def block (scanner : Scanner) (folded : Bool) : Except Fault Scanner := do
  let scanner ← { scanner with keyAllowed := true }.dropKey
  let (content, cursor) ← blockScalar folded scanner.indent scanner.cursor
  return { scanner.emit (.scalar content false) with cursor := cursor }

/-- A character that cannot start a plain scalar. -/
def isIndicator (c : Char) : Bool :=
  "-?:,[]\x7b\x7d#&*!|>'\"%@`".toList.contains c

/-- A plain scalar may start with this character, followed by the other. -/
def startsPlain (inFlow : Bool) (c : Char) (after : Option Char) : Bool :=
  (!endsToken (some c) && !isIndicator c) ||
    (!endsToken after && (c == '-' || (!inFlow && (c == '?' || c == ':'))))

/-- Reads the token that starts with `c`. -/
def token (scanner : Scanner) (c : Char) : Except Fault Scanner :=
  let cursor := scanner.cursor
  let lineStart := cursor.column == 0
  let single := endsToken (cursor.peekAt 1)
  if c == '%' && lineStart then do
    let scanner ← scanner.leaveDocument
    let (token, cursor) ← directive scanner.cursor
    return { scanner.emit token with cursor := cursor }
  else if lineStart && cursor.atDocumentMark then do
    let scanner ← scanner.leaveDocument
    return scanner.emitWide 3 (if c == '-' then .documentStart else .documentEnd)
  else if c == '[' then scanner.openFlow .flowSequenceStart
  else if c == '\x7b' then scanner.openFlow .flowMappingStart
  else if c == ']' then scanner.closeFlow .flowSequenceEnd
  else if c == '\x7d' then scanner.closeFlow .flowMappingEnd
  else if c == ',' then scanner.flowEntry
  else if c == '-' && single then scanner.blockEntry
  else if c == '?' && (scanner.inFlow || single) then scanner.explicitKey
  else if c == ':' && (scanner.inFlow || single) then scanner.value
  else if c == '*' then
    scanner.keyStart fun cursor => (anchorName cursor).map fun (name, cursor) => (.alias name, cursor)
  else if c == '&' then
    scanner.keyStart fun cursor => (anchorName cursor).map fun (name, cursor) => (.anchor name, cursor)
  else if c == '!' then scanner.keyStart tag
  else if c == '|' && !scanner.inFlow then scanner.block false
  else if c == '>' && !scanner.inFlow then scanner.block true
  else if c == '\'' || c == '"' then
    scanner.keyStart fun cursor =>
      (quotedScalar (c == '"') cursor).map fun (content, cursor) => (.scalar content false, cursor)
  else if startsPlain scanner.inFlow c (cursor.peekAt 1) then scanner.plain
  else .error .malformed

/-- Reads one token, or the end of the text, where the answer is that nothing is left. -/
def step (scanner : Scanner) : Except Fault (Scanner × Bool) := do
  let scanner ← (scanner.toNextToken (scanner.cursor.rest.length + 1)).dropStaleKeys
  let scanner := scanner.unwind scanner.cursor.column
  match scanner.cursor.peek with
  | none => do
    let scanner ← (scanner.unwind (-1)).dropKey
    return (scanner, false)
  | some c => do
    let scanner ← scanner.token c
    return (scanner, true)

/-- The tokens of the rest of the text, in `steps` tokens at most. -/
def run (scanner : Scanner) : Nat → Array Token
  | 0 => scanner.tokens
  | steps + 1 =>
    match scanner.step with
    | .ok (next, true) => run next steps
    | .ok (next, false) => next.tokens
    | .error fault => scanner.tokens.push (.fault fault)

end Scanner

/-- The tokens of a text. A byte order mark at its start does not count. Where the text cannot be cut, the
    last token says why. -/
def tokens (text : List Char) : List Token :=
  let scanner := Scanner.start text
  let cursor := if text.head?.any (·.toNat == 0xfeff) then scanner.cursor.next else scanner.cursor
  ({ scanner with cursor := cursor }.run (text.length + 2)).toList

end DiagramWeave.Yaml
