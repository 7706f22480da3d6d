/-!
# The exact value of a binary float

A finite float is a whole number times a power of two. The number and the power are read off its bits, so
that all further work on it is exact.
-/
namespace DiagramWeave.Decimal

/-- A power of two. -/
def twoTo (exponent : Nat) : Nat :=
  Nat.pow 2 exponent

/-- A power of ten. -/
def tenTo (exponent : Nat) : Nat :=
  Nat.pow 10 exponent

/-- `mantissa · 2 ^ power`. `even` tells whether the ends of the rounding interval belong to it, `narrow`
    whether the gap below is half the gap above, as it is at a power of two. -/
structure Binary where
  mantissa : Nat
  power : Int
  narrow : Bool

/-- The mantissa is even, so a tie rounds to it. -/
def Binary.even (binary : Binary) : Bool :=
  binary.mantissa % 2 == 0

/-- The magnitude of a finite float. -/
def Binary.ofFloat (x : Float) : Binary :=
  let bits : Nat := x.toBits.toNat
  let field : Nat := bits / twoTo 52 % twoTo 11
  let fraction : Nat := bits % twoTo 52
  if field = 0 then ⟨fraction, -1074, false⟩
  else ⟨twoTo 52 + fraction, (field : Int) - 1075, fraction == 0 && field != 1⟩

/-- The magnitude as a whole number, if it is one. -/
def Binary.whole? (binary : Binary) : Option Nat :=
  if 0 ≤ binary.power then some (binary.mantissa * twoTo binary.power.toNat)
  else
    let unit := twoTo (-binary.power).toNat
    if binary.mantissa % unit = 0 then some (binary.mantissa / unit) else none

/-- The sign bit is set. -/
def isNegative (x : Float) : Bool :=
  x.toBits.toNat / twoTo 63 == 1

end DiagramWeave.Decimal
