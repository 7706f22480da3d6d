import DiagramWeave.Config.Basic
import DiagramWeave.Decimal.Integer
import DiagramWeave.Text.SmallLetters

/-!
# Values as options

An option takes a value of its own kind and whatever stands for such a value beyond doubt: numerals for
numbers, truth values as zero and one, whole floats as integers, bytes that are UTF-8 as text. Everything
else is refused with the reason.
-/
namespace DiagramWeave.Coerce

/-! ## Text and paths -/

/-- The text of a value. -/
def text : Value → Except OptionFault String
  | .text content => .ok content
  | .bytes content =>
    match String.fromUTF8? content with
    | some decoded => .ok decoded
    | none => .error .notUnicode
  | _ => .error .notText

/-- The path of a value. -/
def path : Value → Except OptionFault FilePath
  | .text content => .ok (FilePath.ofText content)
  | _ => .error .notPath

/-! ## Numerals -/

/-- The number of a numeral: blanks around it do not count; underscores may stand inside it when there are
    no such blanks. -/
def numeral? (text : List Char) : Option Float :=
  match Decimal.read? (Text.trim Text.isWhiteSpace text) with
  | some number => some number
  | none => (Decimal.joinDigits? text).bind Decimal.read?

/-- The integer as a float, unless it is beyond all floats. -/
def floatOfInt? (number : Int) : Option Float :=
  let magnitude := Decimal.nearest number.natAbs 0
  if magnitude.isInf then none else some (Decimal.signed (number < 0) magnitude)

/-- The number of a value. -/
def number : Value → Except OptionFault Float
  | .float x => .ok x
  | .int n => (floatOfInt? n).elim (.error .notNumber) .ok
  | .flag value => .ok (if value then 1.0 else 0.0)
  | .text content => (numeral? content.toList).elim (.error .noNumeral) .ok
  | .bytes content =>
    ((String.fromUTF8? content).bind fun decoded => numeral? decoded.toList).elim (.error .noNumeral) .ok
  | _ => .error .notNumber

/-! ## Integers -/

/-- Behind a leading zero: further zeros are dropped, and the last stays when no other digit follows.
    A single underscore may stand between digits. -/
def dropZeros? : List Char → Option (List Char)
  | [] => some ['0']
  | '0' :: rest => dropZeros? rest
  | '.' :: rest => some ('0' :: '.' :: rest)
  | '_' :: '0' :: rest => dropZeros? rest
  | '_' :: c :: rest => if isDecimalDigit c then some (c :: rest) else none
  | c :: rest => if isDecimalDigit c then some (c :: rest) else none

/-- An integer numeral without leading zeros. -/
def withoutZeros? : List Char → Option (List Char)
  | '0' :: rest => dropZeros? rest
  | c :: rest => if isDecimalDigit c || c == '-' then some (c :: rest) else none
  | [] => none

/-- A numeral without a fraction of nothing but zeros. -/
def withoutFraction (text : List Char) : List Char :=
  match Text.splitFirst? '.' text with
  | some (whole, zeros) => if !zeros.isEmpty && zeros.all (· == '0') then whole else text
  | none => text

/-- Digits behind an optional minus sign; no zero leads other digits. -/
def plainInteger? (text : List Char) : Option Int :=
  let (negative, digits) := match text with
    | '-' :: rest => (true, rest)
    | _ => (false, text)
  if digits.isEmpty || !digits.all isDecimalDigit || (digits.head? == some '0' && digits.length != 1) then
    none
  else
    let magnitude : Int := Decimal.readDigits digits
    some (if negative then -magnitude else magnitude)

/-- The longest numeral that is read as an integer. -/
def numeralLimit : Nat := 4300

/-- The integer of a numeral. -/
def integerNumeral (text : List Char) : Except OptionFault Int :=
  let trimmed := Text.trim Text.isWhiteSpace text
  let unsigned? := match trimmed with
    | '+' :: '-' :: _ => none
    | '+' :: rest => some rest
    | _ => some trimmed
  match unsigned?.bind withoutZeros? with
  | none => .error .noIntegerNumeral
  | some digits =>
    let whole := withoutFraction digits
    let joined := (Decimal.joinDigits? whole).getD whole
    if numeralLimit < joined.length then .error .tooLong
    else (plainInteger? joined).elim (.error .noIntegerNumeral) .ok

/-- Whole floats stand for integers of sixty-four bits. -/
def integerOfFloat (x : Float) : Except OptionFault Int :=
  if x.isNaN || x.isInf then .error .notFinite
  else
    let binary := Decimal.Binary.ofFloat x
    match binary.whole? with
    | none => .error .fractional
    | some magnitude =>
      if Decimal.twoTo 63 ≤ magnitude then .error .tooLong
      else .ok (if Decimal.isNegative x then -(magnitude : Int) else magnitude)

/-- The integer of a value. -/
def integer : Value → Except OptionFault Int
  | .int n => .ok n
  | .flag value => .ok (if value then 1 else 0)
  | .float x => integerOfFloat x
  | .text content => integerNumeral content.toList
  | .bytes content =>
    match String.fromUTF8? content with
    | some decoded => integerNumeral decoded.toList
    | none => .error .noIntegerNumeral
  | _ => .error .notInteger

end DiagramWeave.Coerce
