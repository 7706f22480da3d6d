import DiagramWeave.Decimal.Binary
import DiagramWeave.Text.Pieces
import DiagramWeave.Text.Digit

/-!
# Reading decimals

A decimal is read to the nearest float. Exponents far beyond the range of floats are cut short first, so
that a short text never asks for a huge power of ten.
-/
namespace DiagramWeave.Decimal

/-- The value of a decimal digit. -/
def digitValue (c : Char) : Nat :=
  c.toNat - '0'.toNat

/-- The number that a row of decimal digits stands for. -/
def readDigits (digits : List Char) : Nat :=
  digits.foldl (fun number c => 10 * number + digitValue c) 0

/-- The float nearest to `digits · 10 ^ scale`. -/
def nearest (digits : Nat) (scale : Int) : Float :=
  let size := (Nat.toDigits 10 digits).length
  if digits = 0 then 0.0
  else if 400 < scale + size then 1.0 / 0.0
  else if scale + size < -400 then 0.0
  else if 0 ≤ scale then Float.ofScientific (digits * tenTo scale.toNat) false 0
  else Float.ofScientific digits true (-scale).toNat

/-- A float of the given sign. -/
def signed (negative : Bool) (x : Float) : Float :=
  if negative then -x else x

/-- Two decimal places, a half going to the even neighbour; the exact binary value is rounded. -/
def roundToHundredths (x : Float) : Float :=
  if x.isNaN || x.isInf then x
  else
    let binary := Binary.ofFloat x
    let hundredths := binary.mantissa * 100
    let whole :=
      if 0 ≤ binary.power then hundredths * twoTo binary.power.toNat
      else
        let den := twoTo (-binary.power).toNat
        let floor := hundredths / den
        let twice := 2 * (hundredths % den)
        if twice < den then floor
        else if den < twice then floor + 1
        else if floor % 2 == 0 then floor else floor + 1
    signed (isNegative x) (nearest whole (-2))

/-- Splits a number into its sign and the rest; a plus sign is dropped. -/
def splitSign : List Char → Bool × List Char
  | '-' :: rest => (true, rest)
  | '+' :: rest => (false, rest)
  | text => (false, text)

/-- The digits behind a point, if there is one, and what follows them. -/
def splitFraction : List Char → List Char × List Char
  | '.' :: rest => (rest.takeWhile isDecimalDigit, rest.dropWhile isDecimalDigit)
  | text => ([], text)

/-- The power of ten at the end of a decimal. There must be a digit in it. -/
def exponent? : List Char → Option Int
  | [] => some 0
  | c :: rest =>
    if c = 'e' ∨ c = 'E' then
      let (negative, digits) := splitSign rest
      if digits.isEmpty || !digits.all isDecimalDigit then none
      else
        let size : Int := if digits.length ≤ 18 then readDigits digits else tenTo 18
        some (if negative then -size else size)
    else none

/-- The digits of a decimal with an optional point and exponent, and its power of ten. There must be a
    digit before or behind the point. -/
def parts? (text : List Char) : Option (Nat × Int) :=
  let whole := text.takeWhile isDecimalDigit
  let (fraction, tail) := splitFraction (text.dropWhile isDecimalDigit)
  if whole.isEmpty && fraction.isEmpty then none
  else (exponent? tail).map fun exponent =>
    (readDigits (whole ++ fraction), -(fraction.length : Int) + exponent)

/-- The float of a decimal with an optional sign; infinity and not-a-number are named in letters of
    either case. -/
def read? (text : List Char) : Option Float :=
  let (negative, rest) := splitSign text
  let word := rest.map Char.toLower
  if word = ['i', 'n', 'f'] ∨ word = ['i', 'n', 'f', 'i', 'n', 'i', 't', 'y'] then
    some (signed negative (1.0 / 0.0))
  else if word = ['n', 'a', 'n'] then some (0.0 / 0.0)
  else (parts? rest).map fun (digits, scale) => signed negative (nearest digits scale)

end DiagramWeave.Decimal
