import DiagramWeave.Locator

/-!
# Reading percent-encoding back

A percent sign and two digits stand for a byte, and so does every other character of ASCII. What the encoding of a
text stands for are the UTF-8 bytes of the text, so the encoding loses nothing.
-/
namespace DiagramWeave

/-- The bytes that a percent-encoded text stands for. A percent sign without its two digits is not read, and neither is
    a character beyond ASCII. -/
def percentDecode? : List Char → Option (List UInt8)
  | [] => some []
  | '%' :: high :: low :: rest => do
    let number := (← hexValue? high) * 16 + (← hexValue? low)
    return UInt8.ofNat number :: (← percentDecode? rest)
  | c :: rest =>
    if c = '%' ∨ 128 ≤ c.toNat then none else (percentDecode? rest).map (UInt8.ofNat c.toNat :: ·)

theorem hexValue?_hexDigit {value : Nat} (small : value < 16) : hexValue? (hexDigit value) = some value := by
  have every : ∀ value < 16, hexValue? (hexDigit value) = some value := by decide
  exact every value small

theorem percentDecode?_percentByte (byte : UInt8) (rest : List Char) :
    percentDecode? (percentByte byte ++ rest) = (percentDecode? rest).map (byte :: ·) := by
  have below := byte.toNat_lt
  have whole : byte.toNat / 16 * 16 + byte.toNat % 16 = byte.toNat := Nat.div_add_mod' _ _
  rw [percentByte]
  simp only [List.cons_append, List.nil_append]
  rw [percentDecode?, hexValue?_hexDigit (by omega), hexValue?_hexDigit (by omega)]
  simp only [Option.bind_eq_bind, Option.bind_some, whole, UInt8.ofNat_toNat]
  cases percentDecode? rest <;> rfl

theorem percentDecode?_percentBytes (bytes : List UInt8) (rest : List Char) :
    percentDecode? (bytes.flatMap percentByte ++ rest) = (percentDecode? rest).map (bytes ++ ·) := by
  induction bytes with
  | nil => simp
  | cons byte bytes ih =>
    rw [List.flatMap_cons, List.append_assoc, percentDecode?_percentByte, ih, Option.map_map]
    rfl

theorem plain_lt {c : Char} (plain : isPlainInPath c = true) : c ≠ '%' ∧ c.toNat < 128 := by
  constructor
  · rintro rfl
    exact absurd plain (by decide)
  · simp only [isPlainInPath, isLatinLetter, isDecimalDigit, Bool.or_eq_true, Bool.and_eq_true, decide_eq_true_eq,
      beq_iff_eq, Char.le_def, UInt32.le_iff_toNat_le] at plain
    change c.val.toNat < 128
    rcases plain with ((((((⟨_, high⟩ | ⟨_, high⟩) | ⟨_, high⟩) | rfl) | rfl) | rfl) | rfl) | rfl
    · exact Nat.lt_of_le_of_lt high (by decide)
    · exact Nat.lt_of_le_of_lt high (by decide)
    · exact Nat.lt_of_le_of_lt high (by decide)
    all_goals decide

theorem percentDecode?_percentCharacter (c : Char) (rest : List Char) :
    percentDecode? (percentCharacter c ++ rest) = (percentDecode? rest).map (String.utf8EncodeChar c ++ ·) := by
  by_cases plain : isPlainInPath c = true
  · obtain ⟨mark, below⟩ := plain_lt plain
    have short : c.utf8Size = 1 := by
      rw [Char.utf8Size_eq_one_iff, UInt32.le_iff_toNat_le]
      exact Nat.le_of_lt_succ below
    have byte : UInt8.ofNat c.toNat = c.val.toUInt8 := rfl
    rw [percentCharacter, if_pos plain, String.utf8EncodeChar_eq_singleton short, List.singleton_append, percentDecode?,
      if_neg (by simp [mark, below]), byte]
    · rfl
    · intro _ _ _ same
      exact absurd same mark
  · rw [percentCharacter, if_neg plain, percentDecode?_percentBytes]

/-- The encoding of a text stands for the UTF-8 bytes of the text. -/
theorem percentDecode?_percentEncode (text : List Char) :
    percentDecode? (percentEncode text) = some (text.flatMap String.utf8EncodeChar) := by
  induction text with
  | nil => rfl
  | cons c text ih =>
    rw [percentEncode, List.flatMap_cons, percentDecode?_percentCharacter, ← percentEncode, ih]
    rfl

theorem utf8_injective {text other : List Char}
    (same : text.flatMap String.utf8EncodeChar = other.flatMap String.utf8EncodeChar) : text = other := by
  have bytes : (String.ofList text).toByteArray = (String.ofList other).toByteArray := by
    rw [String.toByteArray_ofList, String.toByteArray_ofList, List.utf8Encode, List.utf8Encode, same]
  exact String.ofList_inj.1 (String.toByteArray_inj.1 bytes)

theorem percentEncode_injective : Function.Injective percentEncode := by
  intro text other same
  have read := percentDecode?_percentEncode text
  rw [same, percentDecode?_percentEncode] at read
  exact utf8_injective (Option.some.inj read).symm

/-- Besides percent signs an encoded text holds only what needs no encoding. -/
theorem mem_percentEncode {text : List Char} {c : Char} (member : c ∈ percentEncode text) :
    c = '%' ∨ isPlainInPath c = true := by
  have digit : ∀ value < 16, isPlainInPath (hexDigit value) = true := by decide
  obtain ⟨d, _, shown⟩ := List.mem_flatMap.1 member
  rw [percentCharacter] at shown
  split at shown
  next plain =>
    rw [List.mem_singleton.1 shown]
    exact .inr plain
  · obtain ⟨byte, _, shown⟩ := List.mem_flatMap.1 shown
    have below := byte.toNat_lt
    simp only [percentByte, List.mem_cons, List.not_mem_nil, or_false] at shown
    rcases shown with rfl | rfl | rfl
    · exact .inl rfl
    · exact .inr (digit _ (by omega))
    · exact .inr (digit _ (by omega))

theorem not_mem_percentEncode {mark : Char} (special : mark ≠ '%' ∧ isPlainInPath mark = false) (text : List Char) :
    mark ∉ percentEncode text := by
  intro member
  rcases mem_percentEncode member with same | plain
  · exact special.1 same
  · rw [special.2] at plain
    cases plain

/-! ### Texts -/

/-- The text whose UTF-8 bytes a percent-encoded text stands for. -/
def percentRead? (text : List Char) : Option String :=
  (percentDecode? text).bind fun bytes => String.fromUTF8? bytes.toByteArray

theorem percentRead?_percentEncode (text : String) : percentRead? (percentEncode text.toList) = some text := by
  have bytes : (text.toList.flatMap String.utf8EncodeChar).toByteArray = text.toByteArray := by
    rw [← String.ofList_toList (s := text), String.toByteArray_ofList, String.ofList_toList, List.utf8Encode]
  rw [percentRead?, percentDecode?_percentEncode, Option.bind_some, bytes]
  exact dif_pos text.isValidUTF8

end DiagramWeave
