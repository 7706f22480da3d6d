import DiagramWeave.Deflate.Bits
import DiagramWeave.Proofs.Deflate.Inflate

/-!
# Numbers, bytes and bits

The reader undoes the three ways of writing: a number in a given width, a byte, and a stream packed into bytes. A packed
stream is read back with the zeros that fill its last byte.
-/
namespace DiagramWeave.Deflate

/-! ### Numbers -/

@[simp] theorem length_numberBits (width number : Nat) : (numberBits width number).length = width := by
  induction width generalizing number with
  | zero => rfl
  | succ width ih => rw [numberBits, List.length_cons, ih]

theorem bit_add_half (number : Nat) : (number % 2 == 1).toNat + 2 * (number / 2) = number := by
  rcases Nat.mod_two_eq_zero_or_one number with even | odd
  · have bit : (number % 2 == 1).toNat = 0 := by rw [even]; rfl
    omega
  · have bit : (number % 2 == 1).toNat = 1 := by rw [odd]; rfl
    omega

theorem readNumber?_numberBits {width number : Nat} (rest : Bits) (small : number < 2 ^ width) :
    Inflate.readNumber? width (numberBits width number ++ rest) = some (number, rest) := by
  induction width generalizing number with
  | zero =>
    obtain rfl : number = 0 := by simpa using small
    rfl
  | succ width ih =>
    have half : number / 2 < 2 ^ width := by
      rw [Nat.pow_succ] at small
      omega
    rw [numberBits, List.cons_append, Inflate.readNumber?, ih half, Option.map_some]
    simp only [bit_add_half]

theorem readNumbers?_flatMap {width : Nat} {numbers : List Nat} (rest : Bits)
    (small : ∀ number ∈ numbers, number < 2 ^ width) :
    Inflate.readNumbers? width numbers.length (numbers.flatMap (numberBits width) ++ rest) =
      some (numbers, rest) := by
  induction numbers with
  | nil => rfl
  | cons number numbers ih =>
    obtain ⟨first, others⟩ := List.forall_mem_cons.1 small
    rw [List.flatMap_cons, List.append_assoc, List.length_cons, Inflate.readNumbers?,
      readNumber?_numberBits _ first]
    simp only [ih others, Option.map_some]

theorem numberBits_bitsNumber (bits : Bits) : numberBits bits.length (bitsNumber bits) = bits := by
  induction bits with
  | nil => rfl
  | cons bit bits ih =>
    -- The bit is the remainder and the other bits are the half.
    rw [List.length_cons, numberBits, bitsNumber]
    cases bit with
    | false => simp [ih]
    | true =>
      have half : (1 + 2 * bitsNumber bits) / 2 = bitsNumber bits := by omega
      simp [half, ih]

theorem bitsNumber_lt (bits : Bits) : bitsNumber bits < 2 ^ bits.length := by
  induction bits with
  | nil => exact Nat.one_pos
  | cons bit bits ih =>
    rw [bitsNumber, List.length_cons, Nat.pow_succ]
    split <;> omega

theorem bitsNumber_zeros (count : Nat) : bitsNumber (List.replicate count false) = 0 := by
  induction count with
  | zero => rfl
  | succ count ih =>
    rw [List.replicate_succ, bitsNumber, ih]
    rfl

theorem bitsNumber_append_zeros (bits : Bits) (count : Nat) :
    bitsNumber (bits ++ List.replicate count false) = bitsNumber bits := by
  induction bits with
  | nil => exact bitsNumber_zeros count
  | cons bit bits ih => rw [List.cons_append, bitsNumber, ih, bitsNumber]

/-! ### Bytes -/

theorem bitsOfByte_eq (byte : UInt8) : Inflate.bitsOfByte byte = numberBits 8 byte.toNat := by
  have testBit (number i : Nat) : number.testBit i = (number / 2 ^ i % 2 == 1) := by
    rw [Nat.testBit_eq_decide_div_mod_eq]
    rfl
  simp only [Inflate.bitsOfByte, numberBits, List.range, List.range.loop, List.map_cons, List.map_nil,
    testBit, Nat.div_div_eq_div_mul, Nat.reducePow, Nat.reduceMul, Nat.div_one]

theorem bitsOfBytes_eq (bytes : List UInt8) : Inflate.bitsOfBytes bytes = byteBits bytes := by
  rw [Inflate.bitsOfBytes, byteBits]
  exact congrArg (bytes.flatMap ·) (funext bitsOfByte_eq)

theorem length_byteBits (bytes : List UInt8) : (byteBits bytes).length = 8 * bytes.length := by
  induction bytes with
  | nil => rfl
  | cons byte bytes ih =>
    rw [byteBits, List.flatMap_cons, List.length_append, length_numberBits, ← byteBits, ih,
      List.length_cons]
    omega

theorem byteBits_append (front back : List UInt8) :
    byteBits (front ++ back) = byteBits front ++ byteBits back :=
  List.flatMap_append

/-- Eight bits or fewer make a byte that holds them, filled up with zeros. -/
theorem numberBits_byte {bits : Bits} (short : bits.length ≤ 8) :
    numberBits 8 (UInt8.ofNat (bitsNumber bits)).toNat =
      bits ++ List.replicate (8 - bits.length) false := by
  have below : bitsNumber bits < 2 ^ 8 :=
    Nat.lt_of_lt_of_le (bitsNumber_lt bits) (Nat.pow_le_pow_right Nat.two_pos short)
  have filled := numberBits_bitsNumber (bits ++ List.replicate (8 - bits.length) false)
  rw [bitsNumber_append_zeros, List.length_append, List.length_replicate,
    Nat.add_sub_cancel' short] at filled
  rw [UInt8.toNat_ofNat', Nat.mod_eq_of_lt below, filled]

theorem readNumbers?_byteBits (bytes : List UInt8) (rest : Bits) :
    Inflate.readNumbers? 8 bytes.length (byteBits bytes ++ rest) =
      some (bytes.map UInt8.toNat, rest) := by
  have read : Inflate.readNumbers? 8 (bytes.map UInt8.toNat).length
      ((bytes.map UInt8.toNat).flatMap (numberBits 8) ++ rest) =
        some (bytes.map UInt8.toNat, rest) := by
    refine readNumbers?_flatMap rest fun number member => ?_
    obtain ⟨byte, _, rfl⟩ := List.mem_map.1 member
    exact byte.toNat_lt
  rwa [List.length_map, List.flatMap_map] at read

/-! ### Packing -/

theorem toList_loop (bytes : ByteArray) (position : Nat) (read : List UInt8) :
    ByteArray.toList.loop bytes position read = read.reverse ++ bytes.data.toList.drop position := by
  induction position, read using ByteArray.toList.loop.induct bytes with
  | case1 position read inside ih =>
    -- The byte read goes to the front of what was read, which is turned around at the end.
    have here : position < bytes.data.toList.length := inside
    rw [ByteArray.toList.loop, if_pos inside, ih, List.drop_eq_getElem_cons here]
    have byte : bytes.get! position = bytes.data.toList[position] :=
      getElem!_pos bytes.data position inside
    rw [byte, List.reverse_cons, List.append_assoc, List.singleton_append]
  | case2 position read outside =>
    have behind : bytes.data.toList.length ≤ position := Nat.not_lt.1 outside
    rw [ByteArray.toList.loop, if_neg outside, List.drop_eq_nil_of_le behind, List.append_nil]

theorem toList_eq (bytes : ByteArray) : bytes.toList = bytes.data.toList := by
  rw [ByteArray.toList, toList_loop]
  rfl

theorem byteBits_push (out : ByteArray) (byte : UInt8) :
    byteBits (out.push byte).data.toList = byteBits out.data.toList ++ numberBits 8 byte.toNat := by
  have pushed : (out.push byte).data.toList = out.data.toList ++ [byte] := Array.toList_push
  rw [pushed, byteBits_append]
  rfl

theorem byteBits_packInto (out : ByteArray) (bits : Bits) :
    byteBits (packInto out bits).data.toList =
      byteBits out.data.toList ++ (bits ++ padding bits.length) := by
  induction out, bits using packInto.induct with
  | case1 out a b c d e f g h rest ih =>
    have byte : numberBits 8 (UInt8.ofNat (bitsNumber [a, b, c, d, e, f, g, h])).toNat =
        [a, b, c, d, e, f, g, h] := numberBits_byte (Nat.le_refl 8)
    have fill : padding (rest.length + 8) = padding rest.length := by
      rw [padding, padding, Nat.add_mod_right]
    rw [packInto, ih, byteBits_push, byte, List.append_assoc]
    simp only [List.cons_append, List.nil_append, List.length_cons, ← fill]
  | case2 => simp [packInto, padding]
  | case3 out rest few some =>
    -- Fewer than eight bits are left, and they share the last byte with the zeros.
    have short : rest.length < 8 := by
      rcases rest with _ | ⟨a, _ | ⟨b, _ | ⟨c, _ | ⟨d, _ | ⟨e, _ | ⟨f, _ | ⟨g, _ | ⟨h, rest⟩⟩⟩⟩⟩⟩⟩⟩
      case cons.cons.cons.cons.cons.cons.cons.cons => exact (few a b c d e f g h rest rfl).elim
      all_goals simp
    have long : 0 < rest.length := List.length_pos_iff.2 some
    have fill : padding rest.length = List.replicate (8 - rest.length) false := by
      rw [padding, Nat.mod_eq_of_lt short, Nat.mod_eq_of_lt (by omega)]
    rw [packInto, byteBits_push, numberBits_byte (Nat.le_of_lt short), fill]
    · exact few
    · exact some

/-- The bytes of a stream are read as the stream and the zeros that fill its last byte. -/
theorem bitsOfBytes_pack (bits : Bits) :
    Inflate.bitsOfBytes (pack bits).toList = bits ++ padding bits.length := by
  rw [bitsOfBytes_eq, toList_eq, pack, byteBits_packInto]
  rfl

end DiagramWeave.Deflate
