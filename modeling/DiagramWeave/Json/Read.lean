import DiagramWeave.Decimal.Read
import DiagramWeave.Value

/-!
# Reading JSON

A reader for the JSON grammar. A number with a point or an exponent is a float, any other an integer of
any size. Unless it is `strict`, it also knows the words that stand for floats without a decimal form, which
the grammar does not have. Each reader takes the front of the text and hands on the rest; the number of steps
is bounded by the length of the text, as every nested value takes at least one character.
-/
namespace DiagramWeave.Json

/-- White space between tokens. -/
def isSpace (c : Char) : Bool :=
  c == ' ' || c == '\t' || c == '\n' || c == '\r'

/-- A UTF-16 unit in four digits. -/
def unit? : List Char → Option (Nat × List Char)
  | a :: b :: c :: d :: rest => do
    let a ← hexValue? a
    let b ← hexValue? b
    let c ← hexValue? c
    let d ← hexValue? d
    some (4096 * a + 256 * b + 16 * c + d, rest)
  | _ => none

/-- The character behind a backslash. -/
def escaped? : List Char → Option (Char × List Char)
  | '"' :: rest => some ('"', rest)
  | '\\' :: rest => some ('\\', rest)
  | '/' :: rest => some ('/', rest)
  | 'b' :: rest => some ('\x08', rest)
  | 'f' :: rest => some ('\x0c', rest)
  | 'n' :: rest => some ('\n', rest)
  | 'r' :: rest => some ('\r', rest)
  | 't' :: rest => some ('\t', rest)
  | 'u' :: text => do
    let (unit, rest) ← unit? text
    -- The first half of a pair stands for a character only together with the second.
    if 0xd800 ≤ unit ∧ unit < 0xdc00 then
      match rest with
      | '\\' :: 'u' :: tail => do
        let (low, rest) ← unit? tail
        if 0xdc00 ≤ low ∧ low < 0xe000 then
          some (Char.ofNat (0x10000 + 1024 * (unit - 0xd800) + (low - 0xdc00)), rest)
        else none
      | _ => none
    else if 0xdc00 ≤ unit ∧ unit < 0xe000 then none
    else some (Char.ofNat unit, rest)
  | _ => none

/-- The characters up to the closing quote, and the text behind it. `read` holds what was read, last
    character first. -/
def string? (read : List Char) : Nat → List Char → Option (List Char × List Char)
  | 0, _ => none
  | _ + 1, [] => none
  | _ + 1, '"' :: rest => some (read.reverse, rest)
  | steps + 1, '\\' :: text =>
    match escaped? text with
    | some (c, rest) => string? (c :: read) steps rest
    | none => none
  | steps + 1, c :: rest => if c.toNat < 0x20 then none else string? (c :: read) steps rest

/-- A character of a number. -/
def isNumberCharacter (c : Char) : Bool :=
  isDecimalDigit c || c == '-' || c == '+' || c == '.' || c == 'e' || c == 'E'

/-- The whole part of a number has a digit, and no zero in front of others. -/
def isWholePart : List Char → Bool
  | [] => false
  | '0' :: rest => rest.isEmpty
  | _ => true

/-- A digit stands behind the point if there is one. -/
def isTail : List Char → Bool
  | ['.'] => false
  | '.' :: c :: _ => isDecimalDigit c
  | _ => true

/-- Splits a number into its sign and the rest. There is no plus sign. -/
def splitMinus : List Char → Bool × List Char
  | '-' :: rest => (true, rest)
  | text => (false, text)

/-- The value of the characters of a number. -/
def number? (text : List Char) : Option Value :=
  let (negative, body) := splitMinus text
  let whole := body.takeWhile isDecimalDigit
  let tail := body.dropWhile isDecimalDigit
  if !(isWholePart whole && isTail tail) then none
  else if tail.isEmpty then
    let magnitude := Decimal.readDigits whole
    some (.int (if negative then -(magnitude : Int) else magnitude))
  else (Decimal.parts? body).map fun (digits, scale) =>
    .float (Decimal.signed negative (Decimal.nearest digits scale))

/-- The values that are written as words. -/
def plainWords : List (String × Value) := [("null", .null), ("true", .flag true), ("false", .flag false)]

/-- The floats that are written as words. -/
def floatWords : List (String × Value) := [
  ("NaN", .float (0.0 / 0.0)), ("Infinity", .float (1.0 / 0.0)), ("-Infinity", .float (-(1.0 / 0.0)))]

/-- The words that the reader knows. -/
def words (strict : Bool) : List (String × Value) :=
  if strict then plainWords else plainWords ++ floatWords

/-- A word at the front of the text. -/
def word? (strict : Bool) (text : List Char) : Option (Value × List Char) :=
  (words strict).findSome? fun (word, value) => (word.toList.isPrefixOf? text).map fun rest => (value, rest)

/-- A word or a number at the front of the text. -/
def wordOrNumber? (strict : Bool) (text : List Char) : Option (Value × List Char) :=
  match word? strict text with
  | some found => some found
  | none => (number? (text.takeWhile isNumberCharacter)).map fun value =>
      (value, text.dropWhile isNumberCharacter)

mutual

/-- A value at the front of the text. -/
def value? (strict : Bool) : Nat → List Char → Option (Value × List Char)
  | 0, _ => none
  | steps + 1, text =>
    match text.dropWhile isSpace with
    | '"' :: rest => (string? [] (rest.length + 1) rest).map fun (content, rest) =>
        (.text (String.ofList content), rest)
    | '[' :: rest =>
      match rest.dropWhile isSpace with
      | ']' :: rest => some (.list [], rest)
      | rest => (items? strict steps rest).map fun (items, rest) => (.list items, rest)
    | '\x7b' :: rest =>
      match rest.dropWhile isSpace with
      | '\x7d' :: rest => some (.mapping [], rest)
      | rest => (entries? strict steps rest).map fun (entries, rest) => (.mapping entries, rest)
    | text => wordOrNumber? strict text

/-- The items of a list up to its closing bracket. -/
def items? (strict : Bool) : Nat → List Char → Option (List Value × List Char)
  | 0, _ => none
  | steps + 1, text =>
    match value? strict steps text with
    | some (item, rest) =>
      match rest.dropWhile isSpace with
      | ']' :: rest => some ([item], rest)
      | ',' :: rest => (items? strict steps rest).map fun (items, rest) => (item :: items, rest)
      | _ => none
    | none => none

/-- The entries of an object up to its closing brace. -/
def entries? (strict : Bool) : Nat → List Char → Option (List (Value × Value) × List Char)
  | 0, _ => none
  | steps + 1, text =>
    match text.dropWhile isSpace with
    | '"' :: rest =>
      match string? [] (rest.length + 1) rest with
      | some (name, rest) =>
        match rest.dropWhile isSpace with
        | ':' :: rest =>
          match value? strict steps rest with
          | some (value, rest) =>
            let entry := (Value.text (String.ofList name), value)
            match rest.dropWhile isSpace with
            | '\x7d' :: rest => some ([entry], rest)
            | ',' :: rest => (entries? strict steps rest).map fun (entries, rest) => (entry :: entries, rest)
            | _ => none
          | none => none
        | _ => none
      | none => none
    | _ => none

end

/-- The value of a text. -/
def readText? (strict : Bool) (text : List Char) : Option Value :=
  match value? strict (text.length + 1) text with
  | some (value, rest) => if rest.all isSpace then some value else none
  | none => none

/-- The value of a JSON text in which floats may be words, too. -/
def read? (text : List Char) : Option Value :=
  readText? false text

/-- The value of a text of the grammar. -/
def readStrict? (text : List Char) : Option Value :=
  readText? true text

end DiagramWeave.Json
