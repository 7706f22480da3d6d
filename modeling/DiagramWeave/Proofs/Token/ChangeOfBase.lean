import DiagramWeave.Proofs.Token.Letters
import Mathlib.Logic.ExistsUnique

/-!
# Letters and bytes are two ways of writing a number

Three bytes and four letters are the digits of one number of twenty-four bits, to the base of 256 and to the base of
sixty-four; seen as bits, they are cut into eights and into sixes. So whole groups of letters come from bytes in threes,
and from no others, and bytes whose last group has to be filled come back with the zeros that fill it.
-/
namespace DiagramWeave

/-- The letters of a group show the bits of its bytes, six by six. -/
theorem tokenGroup_eq_bits (a b c : UInt8) :
    tokenGroup a b c = [tokenLetter (a.toNat >>> 2), tokenLetter ((a.toNat &&& 3) <<< 4 ||| b.toNat >>> 4),
      tokenLetter ((b.toNat &&& 15) <<< 2 ||| c.toNat >>> 6), tokenLetter (c.toNat &&& 63)] := by
  have lowA : a.toNat < 256 := a.toNat_lt
  have lowB : b.toNat < 256 := b.toNat_lt
  have lowC : c.toNat < 256 := c.toNat_lt
  let number := a.toNat * 65536 + b.toNat * 256 + c.toNat
  -- Bits that are moved out of the way of others are added to them.
  have join {high low : Nat} (width : Nat) (fits : low < 2 ^ width) :
      high <<< width ||| low = high * 2 ^ width + low := by
    rw [← Nat.shiftLeft_add_eq_or_of_lt fits, Nat.shiftLeft_eq]
  have first : a.toNat >>> 2 = number / 262144 := by
    rw [Nat.shiftRight_eq_div_pow]
    omega
  have second : (a.toNat &&& 3) <<< 4 ||| b.toNat >>> 4 = number / 4096 % 64 := by
    rw [Nat.shiftRight_eq_div_pow, join 4 (by omega), Nat.and_two_pow_sub_one_eq_mod a.toNat 2]
    omega
  have third : (b.toNat &&& 15) <<< 2 ||| c.toNat >>> 6 = number / 64 % 64 := by
    rw [Nat.shiftRight_eq_div_pow, join 2 (by omega), Nat.and_two_pow_sub_one_eq_mod b.toNat 4]
    omega
  have fourth : c.toNat &&& 63 = number % 64 := by
    rw [Nat.and_two_pow_sub_one_eq_mod c.toNat 6]
    omega
  rw [first, second, third, fourth]
  rfl

/-- A number of twenty-four bits is made of its bytes. -/
theorem number_bytesOfNumber {number : Nat} (small : number < 16777216) :
    (UInt8.ofNat (number / 65536)).toNat * 65536 + (UInt8.ofNat (number / 256)).toNat * 256 +
      (UInt8.ofNat number).toNat = number := by
  simp only [UInt8.toNat_ofNat']
  omega

/-- Four values are written as the letters that have them, when the bytes of their number are. -/
theorem exists_tokenGroup {first second third fourth : Nat} (first_lt : first < 64) (second_lt : second < 64)
    (third_lt : third < 64) (fourth_lt : fourth < 64) :
    ∃ a b c, tokenGroup a b c = [tokenLetter first, tokenLetter second, tokenLetter third, tokenLetter fourth] := by
  let number := first * 262144 + second * 4096 + third * 64 + fourth
  refine ⟨UInt8.ofNat (number / 65536), UInt8.ofNat (number / 256), UInt8.ofNat number, ?_⟩
  have highest : number / 262144 = first := by omega
  have higher : number / 4096 % 64 = second := by omega
  have lower : number / 64 % 64 = third := by omega
  have lowest : number % 64 = fourth := by omega
  rw [tokenGroup, number_bytesOfNumber (by omega)]
  simp only [highest, higher, lower, lowest]

/-- Whole groups of letters are those of bytes in threes. -/
theorem exists_encode64 {letters : List Char} (all : ∀ letter ∈ letters, letter ∈ alphabet)
    (fours : 4 ∣ letters.length) : ∃ bytes, 3 ∣ bytes.length ∧ encode64 bytes = letters := by
  -- The induction goes through the letters as their reader does, group by group.
  induction letters using decode64?.induct with
  | case1 => exact ⟨[], Nat.dvd_zero 3, rfl⟩
  | case2 w x y z rest ih =>
    obtain ⟨⟨first, first_lt, rfl⟩, ⟨second, second_lt, rfl⟩, ⟨third, third_lt, rfl⟩, ⟨fourth, fourth_lt, rfl⟩⟩ :
        (∃ value < 64, w = tokenLetter value) ∧ (∃ value < 64, x = tokenLetter value) ∧
          (∃ value < 64, y = tokenLetter value) ∧ ∃ value < 64, z = tokenLetter value := by
      simp only [← mem_alphabet]
      exact ⟨all w (by simp), all x (by simp), all y (by simp), all z (by simp)⟩
    obtain ⟨bytes, threes, same⟩ := ih (fun letter member => all letter (by simp [member])) (by
      simp only [List.length_cons] at fours
      omega)
    obtain ⟨a, b, c, group⟩ := exists_tokenGroup first_lt second_lt third_lt fourth_lt
    refine ⟨a :: b :: c :: bytes, ?_, ?_⟩
    · simp only [List.length_cons]
      omega
    · rw [encode64, group, same]
      rfl
  | case3 letters empty short =>
    -- Fewer than four letters are left, and not none, so they are no whole group.
    rcases letters with _ | ⟨w, _ | ⟨x, _ | ⟨y, _ | ⟨z, rest⟩⟩⟩⟩
    · exact absurd rfl empty
    · simp at fours
    · simp at fours
    · simp at fours
    · exact absurd rfl (short w x y z rest)

/-- Among byte strings of one length the letters tell which one it is. -/
theorem eq_of_encode64 {left right : List UInt8} (long : left.length = right.length)
    (same : encode64 left = encode64 right) : left = right := by
  have read := decode64?_encode64 left
  rw [same, decode64?_encode64 right] at read
  exact (List.append_inj_left (Option.some.inj read) long.symm).symm

theorem three_dvd_add_fillCount (count : Nat) : 3 ∣ count + fillCount count := by
  rw [fillCount]
  omega

/-- Three bytes are cut into four pieces of six bits, each shown by a letter. Bytes take four letters of the alphabet for
    every three of them that are begun, and are read from these with the zeros that fill the last group. Letters in
    fours are those of one byte string in threes. So two byte strings of one length have different letters. -/
theorem encode64_changes_base :
    (∀ a b c : UInt8, encode64 [a, b, c] =
      [tokenLetter (a.toNat >>> 2), tokenLetter ((a.toNat &&& 3) <<< 4 ||| b.toNat >>> 4),
        tokenLetter ((b.toNat &&& 15) <<< 2 ||| c.toNat >>> 6), tokenLetter (c.toNat &&& 63)]) ∧
    (∀ bytes : List UInt8,
      (encode64 bytes).length = 4 * ((bytes.length + 2) / 3) ∧
      (∀ letter ∈ encode64 bytes, letter ∈ alphabet) ∧
      ∃ fill ≤ 2, 3 ∣ bytes.length + fill ∧ decode64? (encode64 bytes) = some (bytes ++ List.replicate fill 0)) ∧
    (∀ letters : List Char, (∀ letter ∈ letters, letter ∈ alphabet) → 4 ∣ letters.length →
      ∃! bytes, 3 ∣ bytes.length ∧ encode64 bytes = letters) ∧
    ∀ left right : List UInt8, left.length = right.length → encode64 left = encode64 right → left = right := by
  refine ⟨?_, ?_, ?_, fun _ _ => eq_of_encode64⟩
  · intro a b c
    rw [encode64, encode64, List.append_nil, tokenGroup_eq_bits]
  · intro bytes
    exact ⟨length_encode64 bytes, fun _ => mem_encode64, fillCount bytes.length, fillCount_le _,
      three_dvd_add_fillCount _, decode64?_encode64 bytes⟩
  · intro letters all fours
    obtain ⟨bytes, threes, same⟩ := exists_encode64 all fours
    refine ⟨bytes, ⟨threes, same⟩, ?_⟩
    rintro other ⟨threes', same'⟩
    -- As many letters come from as many bytes, when these come in threes.
    have count := length_encode64 other
    rw [same', ← same, length_encode64] at count
    exact eq_of_encode64 (by omega) (same'.trans same.symm)

/-- The letters of the empty diagram stand for one byte string only. -/
theorem encode64_changes_base_empty :
    (∀ letter ∈ "0m00".toList, letter ∈ alphabet) ∧ 4 ∣ "0m00".toList.length ∧
      ∃! bytes, 3 ∣ bytes.length ∧ encode64 bytes = "0m00".toList := by
  have written : encode64 [3, 0] = "0m00".toList := by decide
  have all : ∀ letter ∈ "0m00".toList, letter ∈ alphabet := written ▸ fun _ => mem_encode64
  have fours : 4 ∣ "0m00".toList.length := by decide
  exact ⟨all, fours, encode64_changes_base.2.2.1 _ all fours⟩

-- One byte and the same byte with a zero behind it have one token, as their lengths differ.
example : encode64 [3] = encode64 [3, 0] := by decide

end DiagramWeave
