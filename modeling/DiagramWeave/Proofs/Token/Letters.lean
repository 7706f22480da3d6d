import DiagramWeave.Token

/-!
# Reading letters back

The letters of a token stand for values below sixty-four, by their place in the alphabet. Four letters in a row make a
number of twenty-four bits, and the number three bytes. A token is made of whole groups and of letters of the alphabet.
-/
namespace DiagramWeave

/-- The letters in the order of their values. -/
def alphabet : List Char :=
  "0123456789ABCDEFGHIJKLMNOPQRSTUVWXYZabcdefghijklmnopqrstuvwxyz-_".toList

def letterValue? (letter : Char) : Option Nat := alphabet.idxOf? letter

/-- The three bytes of a number of twenty-four bits, the highest first. -/
def bytesOfNumber (number : Nat) : List UInt8 :=
  [UInt8.ofNat (number / 65536), UInt8.ofNat (number / 256), UInt8.ofNat number]

/-- Letters in bytes. What is no letter of the alphabet is not read, and neither is a group of less than four. -/
def decode64? : List Char → Option (List UInt8)
  | [] => some []
  | a :: b :: c :: d :: rest => do
    let number :=
      (← letterValue? a) * 262144 + (← letterValue? b) * 4096 + (← letterValue? c) * 64 + (← letterValue? d)
    let bytes ← decode64? rest
    some (bytesOfNumber number ++ bytes)
  | _ => none

/-! ### One group -/

theorem letterValue?_tokenLetter {value : Nat} (small : value < 64) :
    letterValue? (tokenLetter value) = some value := by
  have every : ∀ value < 64, letterValue? (tokenLetter value) = some value := by decide +kernel
  exact every value small

theorem ofNat_eq {byte : UInt8} {number : Nat} (same : number % 256 = byte.toNat) : UInt8.ofNat number = byte := by
  apply UInt8.toNat_inj.1
  rw [UInt8.toNat_ofNat']
  exact same

theorem bytesOfNumber_number (a b c : UInt8) :
    bytesOfNumber (a.toNat * 65536 + b.toNat * 256 + c.toNat) = [a, b, c] := by
  have lowA : a.toNat < 256 := a.toNat_lt
  have lowB : b.toNat < 256 := b.toNat_lt
  have lowC : c.toNat < 256 := c.toNat_lt
  have highest : UInt8.ofNat ((a.toNat * 65536 + b.toNat * 256 + c.toNat) / 65536) = a := ofNat_eq (by omega)
  have middle : UInt8.ofNat ((a.toNat * 65536 + b.toNat * 256 + c.toNat) / 256) = b := ofNat_eq (by omega)
  have lowest : UInt8.ofNat (a.toNat * 65536 + b.toNat * 256 + c.toNat) = c := ofNat_eq (by omega)
  rw [bytesOfNumber, highest, middle, lowest]

theorem decode64?_tokenGroup (a b c : UInt8) (rest : List Char) :
    decode64? (tokenGroup a b c ++ rest) = (decode64? rest).map ([a, b, c] ++ ·) := by
  have lowA : a.toNat < 256 := a.toNat_lt
  have lowB : b.toNat < 256 := b.toNat_lt
  have lowC : c.toNat < 256 := c.toNat_lt
  let number := a.toNat * 65536 + b.toNat * 256 + c.toNat
  have bound : number < 16777216 := by omega
  -- The number is put together again from its four digits to the base of sixty-four.
  have whole : number / 262144 * 262144 + number / 4096 % 64 * 4096 + number / 64 % 64 * 64 + number % 64 = number := by
    omega
  have letters : tokenGroup a b c = [tokenLetter (number / 262144), tokenLetter (number / 4096 % 64),
      tokenLetter (number / 64 % 64), tokenLetter (number % 64)] := rfl
  rw [letters]
  simp only [List.cons_append, List.nil_append]
  rw [decode64?, letterValue?_tokenLetter (by omega), letterValue?_tokenLetter (by omega),
    letterValue?_tokenLetter (by omega), letterValue?_tokenLetter (by omega)]
  simp only [Option.bind_eq_bind, Option.bind_some]
  rw [whole, bytesOfNumber_number]
  cases decode64? rest <;> rfl

theorem mem_alphabet {letter : Char} : letter ∈ alphabet ↔ ∃ value < 64, letter = tokenLetter value := by
  have row : alphabet = (List.range 64).map tokenLetter := by decide +kernel
  rw [row, List.mem_map]
  constructor
  · rintro ⟨value, member, rfl⟩
    exact ⟨value, List.mem_range.1 member, rfl⟩
  · rintro ⟨value, small, rfl⟩
    exact ⟨value, List.mem_range.2 small, rfl⟩

@[simp] theorem length_tokenGroup (a b c : UInt8) : (tokenGroup a b c).length = 4 := rfl

theorem mem_tokenGroup {a b c : UInt8} {letter : Char} (member : letter ∈ tokenGroup a b c) : letter ∈ alphabet := by
  have first := a.toNat_lt
  have second := b.toNat_lt
  have third := c.toNat_lt
  rw [mem_alphabet]
  simp only [tokenGroup, List.mem_cons, List.not_mem_nil, or_false] at member
  rcases member with rfl | rfl | rfl | rfl
  · exact ⟨_, by omega, rfl⟩
  · exact ⟨_, Nat.mod_lt _ (by decide), rfl⟩
  · exact ⟨_, Nat.mod_lt _ (by decide), rfl⟩
  · exact ⟨_, Nat.mod_lt _ (by decide), rfl⟩

/-! ### All groups -/

/-- Every three bytes that are begun take four letters. -/
theorem length_encode64 (bytes : List UInt8) : (encode64 bytes).length = 4 * ((bytes.length + 2) / 3) := by
  fun_induction encode64 bytes with
  | case1 => rfl
  | case2 a => simp
  | case3 a b => simp
  | case4 a b c rest ih =>
    rw [List.length_append, ih, length_tokenGroup]
    simp only [List.length_cons]
    omega

theorem mem_encode64 {bytes : List UInt8} {letter : Char} (member : letter ∈ encode64 bytes) : letter ∈ alphabet := by
  fun_induction encode64 bytes with
  | case1 => cases member
  | case2 a => exact mem_tokenGroup member
  | case3 a b => exact mem_tokenGroup member
  | case4 a b c rest ih =>
    rcases List.mem_append.1 member with member | member
    · exact mem_tokenGroup member
    · exact ih member

/-- How many zeros fill the last group of three. -/
def fillCount (count : Nat) : Nat := (3 - count % 3) % 3

theorem fillCount_le (count : Nat) : fillCount count ≤ 2 := by
  rw [fillCount]
  omega

theorem fillCount_add_three (count : Nat) : fillCount (count + 3) = fillCount count := by
  rw [fillCount, fillCount, Nat.add_mod_right]

/-- The letters of bytes are read as these bytes and the zeros that fill the last group. -/
theorem decode64?_encode64 (bytes : List UInt8) :
    decode64? (encode64 bytes) = some (bytes ++ List.replicate (fillCount bytes.length) 0) := by
  induction bytes using encode64.induct with
  | case1 => rfl
  | case2 a =>
    rw [encode64, ← List.append_nil (tokenGroup a 0 0), decode64?_tokenGroup]
    rfl
  | case3 a b =>
    rw [encode64, ← List.append_nil (tokenGroup a b 0), decode64?_tokenGroup]
    rfl
  | case4 a b c rest ih =>
    have count : (a :: b :: c :: rest).length = rest.length + 3 := rfl
    rw [encode64, decode64?_tokenGroup, ih, count, fillCount_add_three]
    rfl

end DiagramWeave
