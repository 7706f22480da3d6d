import DiagramWeave.Deflate.Code

/-!
# Describing code lengths

The lengths of a code are sent as items of their own: a length, a repetition of the length before, or a
row of zeros. The items in turn have a code, whose lengths are sent first, in an order that leaves the rare
ones to the end, where they are cut off.
-/
namespace DiagramWeave.Deflate

inductive LengthItem where
  | length (value : Nat)
  /-- The length before, three to six times more. -/
  | again (count : Nat)
  /-- Three to 138 zeros. -/
  | zeros (count : Nat)
  deriving DecidableEq, Repr

namespace LengthItem

/-- The number of an item in the alphabet of items. -/
def number : LengthItem → Nat
  | length value => value
  | again _ => 16
  | zeros count => if count ≤ 10 then 17 else 18

/-- The bits that follow the word of an item. -/
def extraBits : LengthItem → Bits
  | length _ => []
  | again count => numberBits 2 (count - 3)
  | zeros count => if count ≤ 10 then numberBits 3 (count - 3) else numberBits 7 (count - 11)

end LengthItem

/-- Equal neighbours taken together, with their number. -/
def runs : List Nat → List (Nat × Nat)
  | [] => []
  | value :: values =>
    match runs values with
    | (next, count) :: rest =>
      if value = next then (next, count + 1) :: rest else (value, 1) :: (next, count) :: rest
    | [] => [(value, 1)]

/-- A row of zeros. -/
def zeroItems (count : Nat) : List LengthItem :=
  if count < 3 then List.replicate count (.length 0)
  else .zeros (min 138 count) :: zeroItems (count - min 138 count)
termination_by count

/-- A length repeated `count` times behind itself. -/
def repeatItems (value count : Nat) : List LengthItem :=
  if count < 3 then List.replicate count (.length value)
  else .again (min 6 count) :: repeatItems value (count - min 6 count)
termination_by count

/-- The items of a run of `count` equal lengths. -/
def runItems (value count : Nat) : List LengthItem :=
  if value = 0 then zeroItems count else .length value :: repeatItems value (count - 1)

/-- The items of a list of lengths. -/
def lengthItems (lengths : List Nat) : List LengthItem :=
  (runs lengths).flatMap fun run => runItems run.1 run.2

/-- The order in which the lengths of the code of items are sent. -/
def itemOrder : List Nat :=
  [16, 17, 18, 0, 8, 7, 9, 6, 10, 5, 11, 4, 12, 3, 13, 2, 14, 1, 15]

/-- The lengths of the code of items as they are sent: cut behind the last that is not zero, but four at
    least. -/
def sentLengths (lengths : List Nat) : List Nat :=
  let ordered := itemOrder.map fun number => lengths.getD number 0
  let kept := (ordered.reverse.dropWhile (· == 0)).length
  ordered.take (max 4 kept)

end DiagramWeave.Deflate
