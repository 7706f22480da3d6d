/-!
# Lengths and distances in slots

A length or a distance is sent as the number of a slot and, in a fixed count of extra bits, its offset in
that slot. The slots of a table lie side by side in ascending order.
-/
namespace DiagramWeave.Deflate

/-- The values from `base` on, told apart by `extra` bits. -/
structure Slot where
  base : Nat
  extra : Nat
  deriving Repr

/-- The slots of copy lengths. The greatest length has a slot of its own. -/
def lengthSlots : List Slot := [
  ⟨3, 0⟩, ⟨4, 0⟩, ⟨5, 0⟩, ⟨6, 0⟩, ⟨7, 0⟩, ⟨8, 0⟩, ⟨9, 0⟩, ⟨10, 0⟩, ⟨11, 1⟩, ⟨13, 1⟩, ⟨15, 1⟩,
  ⟨17, 1⟩, ⟨19, 2⟩, ⟨23, 2⟩, ⟨27, 2⟩, ⟨31, 2⟩, ⟨35, 3⟩, ⟨43, 3⟩, ⟨51, 3⟩, ⟨59, 3⟩, ⟨67, 4⟩, ⟨83, 4⟩,
  ⟨99, 4⟩, ⟨115, 4⟩, ⟨131, 5⟩, ⟨163, 5⟩, ⟨195, 5⟩, ⟨227, 5⟩, ⟨258, 0⟩]

/-- The slots of copy distances. -/
def distanceSlots : List Slot := [
  ⟨1, 0⟩, ⟨2, 0⟩, ⟨3, 0⟩, ⟨4, 0⟩, ⟨5, 1⟩, ⟨7, 1⟩, ⟨9, 2⟩, ⟨13, 2⟩, ⟨17, 3⟩, ⟨25, 3⟩, ⟨33, 4⟩, ⟨49, 4⟩,
  ⟨65, 5⟩, ⟨97, 5⟩, ⟨129, 6⟩, ⟨193, 6⟩, ⟨257, 7⟩, ⟨385, 7⟩, ⟨513, 8⟩, ⟨769, 8⟩, ⟨1025, 9⟩, ⟨1537, 9⟩,
  ⟨2049, 10⟩, ⟨3073, 10⟩, ⟨4097, 11⟩, ⟨6145, 11⟩, ⟨8193, 12⟩, ⟨12289, 12⟩, ⟨16385, 13⟩, ⟨24577, 13⟩]

/-- The number of the last slot that starts at or below the value, counted from `number` on. -/
def slotFrom (value number : Nat) : List Slot → Nat
  | _ :: next :: rest => if next.base ≤ value then slotFrom value (number + 1) (next :: rest) else number
  | _ => number

/-- The slot number of a copy length. -/
def lengthSlot (length : Nat) : Nat :=
  slotFrom length 0 lengthSlots

/-- The slot number of a copy distance. -/
def distanceSlot (distance : Nat) : Nat :=
  slotFrom distance 0 distanceSlots

/-- The slot of a number; slots beyond the table are empty. -/
def slotAt (slots : List Slot) (number : Nat) : Slot :=
  slots.getD number ⟨0, 0⟩

end DiagramWeave.Deflate
