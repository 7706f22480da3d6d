import DiagramWeave.Proofs.Deflate.Lossless
import DiagramWeave.Proofs.Token.Letters

/-!
# Tokens lose nothing

Whoever knows the alphabet and the format of the compressed bytes reads from the token of a text its UTF-8 bytes. The zeros
that fill the last group of letters stand behind the stream and do not touch it.
-/
namespace DiagramWeave

open Inflate (inflate?)

/-- What a token stands for: the bytes its stream gives, and the bytes behind the stream. -/
def readToken? (token : String) : Option (List UInt8 × List UInt8) :=
  (decode64? token.toList).bind inflate?

theorem readToken?_encode (text : String) :
    readToken? (encode text) =
      some (text.toUTF8.toList, List.replicate (fillCount (Deflate.compress text.toUTF8).toList.length) 0) := by
  rw [readToken?, encode, String.toList_ofList, decode64?_encode64, Option.bind_some]
  exact Deflate.inflate?_compress text.toUTF8 _

/-- A token that was not made here is read the same way. -/
example : readToken? "SrJGjLDm0W00" = some ("A -> B".toUTF8.toList, [0]) := by
  decide +kernel

theorem toUTF8_toList_injective {left right : String} (same : left.toUTF8.toList = right.toUTF8.toList) :
    left = right := by
  have bytes : left.toUTF8 = right.toUTF8 := by
    rw [Deflate.toList_eq, Deflate.toList_eq] at same
    exact ByteArray.ext (Array.toList_inj.1 same)
  exact String.toByteArray_inj.1 bytes

/-- The token of a text gives its UTF-8 bytes back, with at most two zeros left over; so texts with one token are one text. -/
theorem encode_lossless :
    (∀ text : String, ∃ count ≤ 2,
      readToken? (encode text) = some (text.toUTF8.toList, List.replicate count 0)) ∧
    Function.Injective encode := by
  constructor
  · intro text
    exact ⟨_, fillCount_le _, readToken?_encode text⟩
  · intro left right same
    have read := readToken?_encode left
    rw [same, readToken?_encode right] at read
    injection read with pair
    injection pair with bytes zeros
    exact toUTF8_toList_injective bytes.symm

end DiagramWeave
