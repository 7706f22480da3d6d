import DiagramWeave.Proofs.Deflate.Blocks
import DiagramWeave.Proofs.Deflate.Matching

/-!
# Compression loses nothing

The reader makes of the compressed bytes the bytes that were compressed. The blocks are read one after the other, each from
the output of those before; the zeros that fill the last byte are left over, and so is whatever stands behind it.
-/
namespace DiagramWeave.Deflate

open Inflate (inflateFrom? inflate? bitsOfBytes)

/-! ### Blocks in a row -/

theorem flatten_splitBlocks (symbols : List Symbol) : (splitBlocks symbols).flatten = symbols := by
  induction symbols using splitBlocks.induct with
  | case1 symbols more ih =>
    rw [splitBlocks, dif_pos more, List.flatten_cons, ih, List.take_append_drop]
  | case2 symbols few full =>
    rw [splitBlocks, dif_neg few, if_pos full]
    simp
  | case3 symbols few short =>
    rw [splitBlocks, dif_neg few, if_neg short, List.flatten_singleton]

theorem splitBlocks_ne_nil (symbols : List Symbol) : splitBlocks symbols ≠ [] := by
  rw [splitBlocks]
  split
  · exact List.cons_ne_nil _ _
  · split <;> exact List.cons_ne_nil _ _

/-- A block is read, and the reading goes on behind it unless it is the last. -/
theorem inflateFrom?_blockBits {out bytes : List UInt8} {symbols : List Symbol} {written : Nat}
    {last : Bool} {rest : Bits} (writes : Writes out symbols (bytes.reverse ++ out))
    (aligned : (written + (blockBits written last symbols bytes).length + rest.length) % 8 = 0) :
    inflateFrom? out (blockBits written last symbols bytes ++ rest) =
      if last then some (bytes.reverse ++ out, rest) else inflateFrom? (bytes.reverse ++ out) rest := by
  have width : (blockBits written last symbols bytes).length =
      3 + (chooseForm written symbols bytes).contents.length := by
    rw [blockBits, List.length_append, List.length_cons, length_numberBits]
  rw [width, ← Nat.add_assoc] at aligned
  obtain ⟨low, high, kind, read⟩ := readContents?_chooseForm writes aligned
  rw [blockBits, kind, List.append_assoc]
  simp only [List.cons_append, List.nil_append]
  rw [inflateFrom?, read]

theorem streamBits_cons (written : Nat) (bytes : List UInt8) (symbols : List Symbol)
    (blocks : List (List Symbol)) :
    let block := blockBits written blocks.isEmpty symbols (bytes.take (totalWidth symbols))
    streamBits written bytes (symbols :: blocks) =
      block ++ streamBits (written + block.length) (bytes.drop (totalWidth symbols)) blocks := by
  rw [streamBits]
  rfl

/-- The blocks of a stream are read up to the last one, and what stands behind it is left. -/
theorem inflateFrom?_streamBits {blocks : List (List Symbol)} (some : blocks ≠ [])
    {out bytes : List UInt8} {written : Nat} {rest : Bits}
    (writes : Writes out blocks.flatten (bytes.reverse ++ out))
    (aligned : (written + (streamBits written bytes blocks).length + rest.length) % 8 = 0) :
    inflateFrom? out (streamBits written bytes blocks ++ rest) = .some (bytes.reverse ++ out, rest) := by
  induction blocks generalizing out bytes written with
  | nil => exact absurd rfl some
  | cons symbols blocks ih =>
    obtain ⟨between, first, others⟩ := writes.split
    obtain ⟨added, rfl, width⟩ := first.exists_append
    obtain ⟨more, whole, left⟩ := others.exists_append
    -- The bytes of the block come first; the block writes them, and the others write the rest.
    have reversed : bytes.reverse = more ++ added := by
      rw [← List.append_assoc] at whole
      exact List.append_cancel_right whole
    obtain rfl : bytes = added.reverse ++ more.reverse := by
      rw [← List.reverse_append, ← reversed, List.reverse_reverse]
    have taken : (added.reverse ++ more.reverse).take (totalWidth symbols) = added.reverse := by
      rw [← width, ← List.length_reverse, List.take_left]
    have dropped : (added.reverse ++ more.reverse).drop (totalWidth symbols) = more.reverse := by
      rw [← width, ← List.length_reverse, List.drop_left]
    rw [streamBits_cons, taken, dropped, List.length_append] at aligned
    rw [← List.reverse_reverse added] at first
    rw [streamBits_cons, taken, dropped, List.append_assoc,
      inflateFrom?_blockBits first (by rw [List.length_append]; omega), reversed,
      List.reverse_reverse]
    cases blocks with
    | nil =>
      obtain rfl : more = [] := List.length_eq_zero_iff.1 left
      rfl
    | cons next blocks =>
      rw [reversed, List.append_assoc, ← List.reverse_reverse more] at others
      rw [List.isEmpty_cons] at aligned ⊢
      rw [if_neg Bool.false_ne_true, ih (List.cons_ne_nil _ _) others (by omega),
        List.reverse_reverse, List.append_assoc]

/-! ### The whole stream -/

theorem bitsOfBytes_append (front back : List UInt8) :
    bitsOfBytes (front ++ back) = bitsOfBytes front ++ bitsOfBytes back :=
  List.flatMap_append

/-- The compressed bytes stand for the bytes that were compressed, whatever follows them. -/
theorem inflate?_compress (data : ByteArray) (behind : List UInt8) :
    inflate? ((compress data).toList ++ behind) = some (data.toList, behind) := by
  let blocks := splitBlocks (symbols .greatest data).toList
  let bits := streamBits 0 data.toList blocks
  have fill : (padding bits.length).length = (8 - bits.length % 8) % 8 := List.length_replicate
  have stream : bitsOfBytes ((compress data).toList ++ behind) =
      bits ++ (padding bits.length ++ byteBits behind) := by
    rw [bitsOfBytes_append, compress, bitsOfBytes_pack, bitsOfBytes_eq, List.append_assoc]
  have writes : Writes [] blocks.flatten (data.toList.reverse ++ []) := by
    rw [flatten_splitBlocks, List.append_nil]
    exact writes_symbols .greatest data
  have left : (padding bits.length ++ byteBits behind).length / 8 = behind.length := by
    rw [List.length_append, fill, length_byteBits]
    omega
  have aligned : (0 + bits.length + (padding bits.length ++ byteBits behind).length) % 8 = 0 := by
    rw [List.length_append, fill, length_byteBits]
    omega
  rw [inflate?, stream, inflateFrom?_streamBits (splitBlocks_ne_nil _) writes aligned, Option.map_some]
  simp only [left, List.append_nil, List.reverse_reverse]
  rw [List.length_append, Nat.add_sub_cancel, List.drop_left]

end DiagramWeave.Deflate
