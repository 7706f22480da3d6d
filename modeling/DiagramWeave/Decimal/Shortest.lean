import DiagramWeave.Decimal.Binary

/-!
# The shortest decimal that reads back

A float is written with the fewest digits that read back as the same float, and with the nearest of the
decimals that are equally short. The search goes from coarse grids of decimals to fine ones; on each grid
only the two neighbours of the value can be nearest.
-/
namespace DiagramWeave.Decimal

/-- A positive fraction. -/
structure Ratio where
  num : Nat
  den : Nat

/-- `number · 2 ^ power`. -/
def Ratio.ofPower (number : Nat) (power : Int) : Ratio :=
  if 0 ≤ power then ⟨number * twoTo power.toNat, 1⟩ else ⟨number, twoTo (-power).toNat⟩

/-- The value in units of `10 ^ scale`. -/
def Ratio.inUnits (ratio : Ratio) (scale : Int) : Ratio :=
  if 0 ≤ scale then ⟨ratio.num, ratio.den * tenTo scale.toNat⟩
  else ⟨ratio.num * tenTo (-scale).toNat, ratio.den⟩

/-- How many decimal digits a number has. -/
def digitCount (n : Nat) : Nat :=
  (Nat.toDigits 10 n).length

/-- The power of ten of the leading digit. -/
def Ratio.leading (ratio : Ratio) : Int :=
  let guess : Int := digitCount ratio.num - digitCount ratio.den
  let unit := ratio.inUnits guess
  if unit.num < unit.den then guess - 1 else guess

/-- The decimal `digits · 10 ^ scale` lies in the interval of the values that round to the float. -/
def readsBack (binary : Binary) (digits : Nat) (scale : Int) : Bool :=
  -- Quarters of the last place: below a power of two the next float is only half as far away.
  let low := if binary.narrow then 4 * binary.mantissa - 1 else 4 * binary.mantissa - 2
  let high := 4 * binary.mantissa + 2
  let lower := (Ratio.ofPower low (binary.power - 2)).inUnits scale
  let upper := (Ratio.ofPower high (binary.power - 2)).inUnits scale
  if binary.even then lower.num ≤ digits * lower.den && digits * upper.den ≤ upper.num
  else lower.num < digits * lower.den && digits * upper.den < upper.num

/-- The nearest decimal of the grid `10 ^ scale` that reads back, if one does. -/
def onGrid? (binary : Binary) (scale : Int) : Option Nat :=
  let value := (Ratio.ofPower binary.mantissa binary.power).inUnits scale
  let below := value.num / value.den
  let above := below + 1
  let belowReads := below != 0 && readsBack binary below scale
  let aboveReads := readsBack binary above scale
  let twice := 2 * value.num
  let middle := (below + above) * value.den
  -- Of two neighbours that read back the nearer is taken, and of two equally near the even one.
  if belowReads && aboveReads then
    if twice < middle then some below
    else if middle < twice then some above
    else if below % 2 == 0 then some below else some above
  else if belowReads then some below
  else if aboveReads then some above
  else none

/-- The digits and the power of ten of their unit, on the first grid that has a decimal to offer. Grids
    run from `scale` downwards. -/
def searchGrids (binary : Binary) (scale : Int) : Nat → Nat × Int
  | 0 => (0, 0)
  | grids + 1 =>
    match onGrid? binary scale with
    | some digits => (digits, scale)
    | none => searchGrids binary (scale - 1) grids

/-- Moves trailing zeros of the digits into the power of ten. -/
def dropZeros (digits : Nat) (scale : Int) : Nat → Nat × Int
  | 0 => (digits, scale)
  | steps + 1 =>
    if digits != 0 && digits % 10 == 0 then dropZeros (digits / 10) (scale + 1) steps else (digits, scale)

/-- The shortest decimal of a positive finite float: digits without trailing zeros, and the power of ten
    of the last of them. Seventeen digits always suffice. -/
def shortest (x : Float) : Nat × Int :=
  let binary := Binary.ofFloat x
  let value := Ratio.ofPower binary.mantissa binary.power
  let (digits, scale) := searchGrids binary value.leading 20
  dropZeros digits scale 20

/-- Positional between one ten-thousandth and ten quadrillions, with a digit on both sides of the point;
    otherwise one digit before the point and a signed exponent of at least two digits. -/
def layOut (digits : Nat) (scale : Int) : String :=
  let shown := Nat.toDigits 10 digits
  let point : Int := shown.length + scale
  if -4 < point && point ≤ 16 then
    if point ≤ 0 then "0." ++ String.ofList (List.replicate (-point).toNat '0' ++ shown)
    else if 0 ≤ scale then String.ofList (shown ++ List.replicate scale.toNat '0') ++ ".0"
    else String.ofList (shown.take point.toNat) ++ "." ++ String.ofList (shown.drop point.toNat)
  else
    let exponent := point - 1
    let places := Nat.toDigits 10 exponent.natAbs
    let padded := if places.length < 2 then '0' :: places else places
    let tail := match shown.drop 1 with
      | [] => ""
      | rest => "." ++ String.ofList rest
    String.ofList (shown.take 1) ++ tail ++ "e" ++ (if exponent < 0 then "-" else "+") ++
      String.ofList padded

/-- The text of a float that is no number or without bound. -/
structure SpecialNames where
  notANumber : String
  infinity : String

/-- The text of a float. -/
def render (names : SpecialNames) (x : Float) : String :=
  if x.isNaN then names.notANumber
  else
    let sign := if isNegative x then "-" else ""
    if x.isInf then sign ++ names.infinity
    else if x.toBits.toNat % twoTo 63 = 0 then sign ++ "0.0"
    else
      let (digits, scale) := shortest x
      sign ++ layOut digits scale

/-- How messages and configurations write floats. -/
def plainNames : SpecialNames := ⟨"nan", "inf"⟩

end DiagramWeave.Decimal
