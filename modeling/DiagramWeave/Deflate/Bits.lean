/-!
# Bit streams

A stream is a list of bits. Bytes hold their bits from the least significant one up, and numbers in the
stream do the same. Code words alone are written from their first bit on, which is why they are kept as
lists of bits.
-/
namespace DiagramWeave.Deflate

/-- A stream of bits in the order in which they are read. -/
abbrev Bits := List Bool

/-- A number in `width` bits, the least significant first. -/
def numberBits : Nat → Nat → Bits
  | 0, _ => []
  | width + 1, number => (number % 2 == 1) :: numberBits width (number / 2)

/-- The number that a row of bits stands for, the least significant first. -/
def bitsNumber : Bits → Nat
  | [] => 0
  | bit :: rest => (if bit then 1 else 0) + 2 * bitsNumber rest

/-- The bits of bytes in order. -/
def byteBits (bytes : List UInt8) : Bits :=
  bytes.flatMap fun byte => numberBits 8 byte.toNat

/-- Appends the bytes of a stream; the last byte is filled up with zeros. -/
def packInto (out : ByteArray) : Bits → ByteArray
  | a :: b :: c :: d :: e :: f :: g :: h :: rest =>
    packInto (out.push (UInt8.ofNat (bitsNumber [a, b, c, d, e, f, g, h]))) rest
  | [] => out
  | rest => out.push (UInt8.ofNat (bitsNumber rest))

/-- The bytes of a stream. -/
def pack (bits : Bits) : ByteArray :=
  packInto ByteArray.empty bits

/-- The zeros that lead to the next byte when `written` bits stand before. -/
def padding (written : Nat) : Bits :=
  List.replicate ((8 - written % 8) % 8) false

end DiagramWeave.Deflate
