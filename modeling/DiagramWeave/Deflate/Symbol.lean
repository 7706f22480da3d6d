/-!
# Symbols of a compressed text

Compression turns bytes into symbols: a literal byte, or a copy of bytes that already stand in the
output. `expand` is what the symbols mean, and every compressor and decompressor here is held to it.
-/
namespace DiagramWeave.Deflate

inductive Symbol where
  | literal (byte : UInt8)
  /-- The `length` bytes that start `distance` bytes back; the copy may run into bytes it wrote itself. -/
  | copy (length distance : Nat)
  deriving DecidableEq, Repr, Inhabited

namespace Symbol

/-- How many bytes the symbol stands for. -/
def width : Symbol → Nat
  | literal _ => 1
  | copy length _ => length

/-- The bounds of a copy: three to 258 bytes, at most 32768 bytes back. -/
def Bounded : Symbol → Prop
  | literal _ => True
  | copy length distance => 3 ≤ length ∧ length ≤ 258 ∧ 1 ≤ distance ∧ distance ≤ 32768

instance (symbol : Symbol) : Decidable symbol.Bounded := by
  cases symbol <;> unfold Bounded <;> infer_instance

/-- Appends `count` bytes, each equal to the one `distance` bytes before it. -/
def repeatBytes (out : List UInt8) (distance : Nat) : Nat → List UInt8
  | 0 => out
  | count + 1 => repeatBytes (out.getD (distance - 1) 0 :: out) distance count

/-- The output after a symbol. The output is held with its last byte first. -/
def apply (out : List UInt8) : Symbol → List UInt8
  | literal byte => byte :: out
  | copy length distance => repeatBytes out distance length

/-- The bytes that symbols stand for. -/
def expand (symbols : List Symbol) : List UInt8 :=
  (symbols.foldl apply []).reverse

end Symbol

end DiagramWeave.Deflate
