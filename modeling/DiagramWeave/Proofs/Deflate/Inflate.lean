import DiagramWeave.Deflate.Symbol
import Mathlib.Algebra.Ring.Nat
import Mathlib.Data.Option.Basic

/-!
# Reading a compressed stream

A reader of raw compressed streams. It shares no table and no code with the compressor but the meaning of a symbol, so
that what it makes of a stream says something about the stream.

It is strict. A code must use up all words of its lengths, with the exceptions that the format makes for distances, the
end of a block must have a word, a copy must start in the output, and a stored block must agree with the complement of
its size. Every step consumes bits, which is why the reading ends.
-/
namespace DiagramWeave.Inflate

/-! ### Bits and numbers -/

/-- The bits of a byte, the least significant first. -/
def bitsOfByte (byte : UInt8) : List Bool :=
  (List.range 8).map byte.toNat.testBit

/-- The bits of bytes in order. -/
def bitsOfBytes (bytes : List UInt8) : List Bool :=
  bytes.flatMap bitsOfByte

/-- Reads a number of `width` bits, the least significant first. -/
def readNumber? : Nat → List Bool → Option (Nat × List Bool)
  | 0, bits => some (0, bits)
  | _ + 1, [] => none
  | width + 1, bit :: bits =>
    (readNumber? width bits).map fun (high, rest) => (bit.toNat + 2 * high, rest)

/-- Reads `count` numbers of `width` bits. -/
def readNumbers? (width : Nat) : Nat → List Bool → Option (List Nat × List Bool)
  | 0, bits => some ([], bits)
  | count + 1, bits =>
    match readNumber? width bits with
    | none => none
    | some (number, rest) =>
      (readNumbers? width count rest).map fun (numbers, rest) => (number :: numbers, rest)

theorem readNumber?_length {width number : Nat} {bits rest : List Bool}
    (read : readNumber? width bits = some (number, rest)) : rest.length + width = bits.length := by
  induction width generalizing bits number with
  | zero =>
    cases read
    rfl
  | succ width ih =>
    cases bits with
    | nil => cases read
    | cons bit bits =>
      obtain ⟨⟨high, left⟩, found, same⟩ := Option.map_eq_some_iff.1 read
      cases same
      have := ih found
      simp only [List.length_cons]
      omega

theorem readNumbers?_length {width count : Nat} {numbers : List Nat} {bits rest : List Bool}
    (read : readNumbers? width count bits = some (numbers, rest)) : rest.length ≤ bits.length := by
  induction count generalizing numbers bits with
  | zero =>
    cases read
    exact Nat.le_refl _
  | succ count ih =>
    rw [readNumbers?] at read
    split at read
    · cases read
    · next number left first =>
      obtain ⟨⟨numbers, behind⟩, others, same⟩ := Option.map_eq_some_iff.1 read
      cases same
      have := readNumber?_length first
      have := ih others
      omega

/-! ### Codes -/

/-- The longest word of a code. -/
def longest : Nat := 15

/-- The symbols whose words have this length, in ascending order. -/
def owners (lengths : List Nat) (length : Nat) : List Nat :=
  (List.range lengths.length).filter fun symbol => lengths.getD symbol 0 == length

/-- Reads a word from its bit number `length` on. The bits before make up `number`, and `first` is the
    least word of this length: words of one length are consecutive, and a longer word is no extension of a
    shorter one. -/
def readSymbolFrom? (lengths : List Nat) (length number first : Nat) :
    Nat → List Bool → Option (Nat × List Bool)
  | 0, _ => none
  | _ + 1, [] => none
  | steps + 1, bit :: rest =>
    let number := 2 * number + bit.toNat
    let behind := first + (owners lengths length).length
    if number < behind then (owners lengths length)[number - first]?.map fun symbol => (symbol, rest)
    else readSymbolFrom? lengths (length + 1) number (2 * behind) steps rest

/-- Reads a word of the code with these lengths. -/
def readSymbol? (lengths : List Nat) (bits : List Bool) : Option (Nat × List Bool) :=
  readSymbolFrom? lengths 1 0 0 longest bits

/-- How many words of the greatest length begin with a word of this length. No word has length zero. -/
def share (length : Nat) : Nat :=
  if length = 0 then 0 else 2 ^ (longest - length)

/-- How many words of the greatest length begin with a word of the code. -/
def usage (lengths : List Nat) : Nat :=
  (lengths.map share).sum

/-- The code is neither overfull nor does it leave a word unused. -/
def isComplete (lengths : List Nat) : Bool :=
  lengths.all (· ≤ longest) && usage lengths == 2 ^ longest

/-- A code of distances may also have no word at all, or a single one of one bit. -/
def allowsDistances (lengths : List Nat) : Bool :=
  isComplete lengths || lengths.all (· == 0) || lengths.filter (· != 0) == [1]

theorem readSymbolFrom?_length {lengths : List Nat} {length number first steps symbol : Nat}
    {bits rest : List Bool}
    (read : readSymbolFrom? lengths length number first steps bits = some (symbol, rest)) :
    rest.length < bits.length := by
  induction steps generalizing length number first bits with
  | zero => cases read
  | succ steps ih =>
    cases bits with
    | nil => cases read
    | cons bit bits =>
      rw [readSymbolFrom?] at read
      split at read
      · obtain ⟨_, _, same⟩ := Option.map_eq_some_iff.1 read
        cases same
        exact Nat.lt_succ_self _
      · exact Nat.lt_succ_of_lt (ih read)

theorem readSymbol?_length {lengths : List Nat} {symbol : Nat} {bits rest : List Bool}
    (read : readSymbol? lengths bits = some (symbol, rest)) : rest.length < bits.length :=
  readSymbolFrom?_length read

/-! ### The symbols of a block -/

/-- The least copy length of each number from 257 on, and the count of its extra bits. -/
def copyLengths : List (Nat × Nat) :=
  [(3, 0), (4, 0), (5, 0), (6, 0), (7, 0), (8, 0), (9, 0), (10, 0),
    (11, 1), (13, 1), (15, 1), (17, 1), (19, 2), (23, 2), (27, 2), (31, 2),
    (35, 3), (43, 3), (51, 3), (59, 3), (67, 4), (83, 4), (99, 4), (115, 4),
    (131, 5), (163, 5), (195, 5), (227, 5), (258, 0)]

/-- The least distance of each number, and the count of its extra bits. -/
def copyDistances : List (Nat × Nat) :=
  [(1, 0), (2, 0), (3, 0), (4, 0), (5, 1), (7, 1), (9, 2), (13, 2),
    (17, 3), (25, 3), (33, 4), (49, 4), (65, 5), (97, 5), (129, 6), (193, 6),
    (257, 7), (385, 7), (513, 8), (769, 8), (1025, 9), (1537, 9), (2049, 10), (3073, 10),
    (4097, 11), (6145, 11), (8193, 12), (12289, 12), (16385, 13), (24577, 13)]

/-- Reads the offset of a value whose row in the table is known. Numbers beyond the table are invalid. -/
def readValue? (table : List (Nat × Nat)) (number : Nat) (bits : List Bool) :
    Option (Nat × List Bool) :=
  match table[number]? with
  | none => none
  | some (base, extra) => (readNumber? extra bits).map fun (offset, rest) => (base + offset, rest)

/-- Reads a copy behind the number of its length. -/
def readCopy? (distances : List Nat) (number : Nat) (bits : List Bool) :
    Option (Deflate.Symbol × List Bool) := do
  let (length, bits) ← readValue? copyLengths number bits
  let (second, bits) ← readSymbol? distances bits
  let (distance, bits) ← readValue? copyDistances second bits
  return (.copy length distance, bits)

/-- Reads a symbol, or the end of the block as `none`. -/
def readElement? (literals distances : List Nat) (bits : List Bool) :
    Option (Option Deflate.Symbol × List Bool) :=
  match readSymbol? literals bits with
  | none => none
  | some (number, rest) =>
    if number < 256 then some (some (.literal (UInt8.ofNat number)), rest)
    else if number = 256 then some (none, rest)
    else (readCopy? distances (number - 257) rest).map fun (symbol, rest) => (some symbol, rest)

theorem readValue?_length {table : List (Nat × Nat)} {number value : Nat} {bits rest : List Bool}
    (read : readValue? table number bits = some (value, rest)) : rest.length ≤ bits.length := by
  unfold readValue? at read
  split at read
  · cases read
  · obtain ⟨⟨offset, left⟩, found, same⟩ := Option.map_eq_some_iff.1 read
    cases same
    have := readNumber?_length found
    omega

theorem readCopy?_length {distances : List Nat} {number : Nat} {bits rest : List Bool}
    {symbol : Deflate.Symbol} (read : readCopy? distances number bits = some (symbol, rest)) :
    rest.length ≤ bits.length := by
  simp only [readCopy?, Option.bind_eq_bind, Option.bind_eq_some_iff, Prod.exists, Option.pure_def,
    Option.some.injEq, Prod.mk.injEq] at read
  obtain ⟨_, _, length, _, _, second, _, _, distance, _, rfl⟩ := read
  have := readValue?_length length
  have := readSymbol?_length second
  have := readValue?_length distance
  omega

theorem readElement?_length {literals distances : List Nat} {bits rest : List Bool}
    {element : Option Deflate.Symbol}
    (read : readElement? literals distances bits = some (element, rest)) :
    rest.length < bits.length := by
  unfold readElement? at read
  split at read
  · cases read
  · next number left found =>
    have shorter := readSymbol?_length found
    split at read
    · cases read
      exact shorter
    · split at read
      · cases read
        exact shorter
      · obtain ⟨⟨symbol, behind⟩, copied, same⟩ := Option.map_eq_some_iff.1 read
        cases same
        have := readCopy?_length copied
        omega

/-- A copy must start in the output that is there. -/
def reaches (out : List UInt8) : Deflate.Symbol → Bool
  | .literal _ => true
  | .copy _ distance => distance ≤ out.length

/-- Reads symbols up to the end of the block. The output is held with its last byte first. -/
def readBody? (literals distances : List Nat) (out : List UInt8) (bits : List Bool) :
    Option (List UInt8 × List Bool) :=
  match _read : readElement? literals distances bits with
  | none => none
  | some (none, rest) => some (out, rest)
  | some (some symbol, rest) =>
    if reaches out symbol then readBody? literals distances (symbol.apply out) rest else none
termination_by bits.length
decreasing_by exact readElement?_length _read

theorem readBody?_length {literals distances : List Nat} {out written : List UInt8}
    {bits rest : List Bool} (read : readBody? literals distances out bits = some (written, rest)) :
    rest.length ≤ bits.length := by
  induction out, bits using readBody?.induct literals distances with
  | case1 out bits none =>
    rw [readBody?, none] at read
    cases read
  | case2 out bits left ends =>
    rw [readBody?, ends] at read
    cases read
    exact Nat.le_of_lt (readElement?_length ends)
  | case3 out bits symbol left found reached ih =>
    rw [readBody?, found] at read
    simp only [reached, if_true] at read
    exact Nat.le_trans (ih read) (Nat.le_of_lt (readElement?_length found))
  | case4 out bits symbol left found lost =>
    rw [readBody?, found] at read
    simp [lost] at read

/-! ### The description of codes -/

/-- The items of a description in the order in which the lengths of their words are sent. -/
def itemSequence : List Nat :=
  [16, 17, 18, 0, 8, 7, 9, 6, 10, 5, 11, 4, 12, 3, 13, 2, 14, 1, 15]

/-- The word lengths of the items, of which the first ones in the sequence were sent. -/
def placeItems (sent : List Nat) : List Nat :=
  (List.range 19).map fun item => sent.getD (itemSequence.idxOf item) 0

/-- Reads how often a word length is repeated, beyond `least` times. -/
def readRepeat? (width least value : Nat) (bits : List Bool) : Option (List Nat × List Bool) :=
  (readNumber? width bits).map fun (more, rest) => (List.replicate (least + more) value, rest)

/-- Reads an item: the word lengths that it adds to those before. -/
def readRow? (items before : List Nat) (bits : List Bool) : Option (List Nat × List Bool) :=
  match readSymbol? items bits with
  | none => none
  | some (number, rest) =>
    if number < 16 then some ([number], rest)
    else if number = 16 then before.getLast?.bind fun last => readRepeat? 2 3 last rest
    else if number = 17 then readRepeat? 3 3 0 rest
    else readRepeat? 7 11 0 rest

theorem readRepeat?_length {width least value : Nat} {row : List Nat} {bits rest : List Bool}
    (read : readRepeat? width least value bits = some (row, rest)) : rest.length ≤ bits.length := by
  obtain ⟨⟨more, left⟩, counted, same⟩ := Option.map_eq_some_iff.1 read
  cases same
  have := readNumber?_length counted
  omega

theorem readRow?_length {items before row : List Nat} {bits rest : List Bool}
    (read : readRow? items before bits = some (row, rest)) : rest.length < bits.length := by
  unfold readRow? at read
  split at read
  · cases read
  · next number left found =>
    have shorter := readSymbol?_length found
    split at read
    · cases read
      exact shorter
    · split at read
      · obtain ⟨last, _, again⟩ := Option.bind_eq_some_iff.1 read
        exact Nat.lt_of_le_of_lt (readRepeat?_length again) shorter
      · split at read <;> exact Nat.lt_of_le_of_lt (readRepeat?_length read) shorter

/-- Reads `total` word lengths. No item may exceed them. -/
def readLengths? (items : List Nat) (total : Nat) (before : List Nat) (bits : List Bool) :
    Option (List Nat × List Bool) :=
  if before.length < total then
    match _read : readRow? items before bits with
    | none => none
    | some (row, rest) => readLengths? items total (before ++ row) rest
  else if before.length = total then some (before, bits)
  else none
termination_by bits.length
decreasing_by exact readRow?_length _read

theorem readLengths?_length {items before lengths : List Nat} {total : Nat} {bits rest : List Bool}
    (read : readLengths? items total before bits = some (lengths, rest)) :
    rest.length ≤ bits.length := by
  induction before, bits using readLengths?.induct items total with
  | case1 before bits fewer none =>
    rw [readLengths?, if_pos fewer, none] at read
    cases read
  | case2 before bits fewer row left found ih =>
    rw [readLengths?, if_pos fewer, found] at read
    exact Nat.le_trans (ih read) (Nat.le_of_lt (readRow?_length found))
  | case3 before bits enough all =>
    rw [readLengths?, if_neg enough, if_pos all] at read
    cases read
    exact Nat.le_refl _
  | case4 before bits enough tooMany =>
    rw [readLengths?, if_neg enough, if_neg tooMany] at read
    cases read

/-- Reads the word lengths of literals and of distances. -/
def readCodes? (bits : List Bool) : Option ((List Nat × List Nat) × List Bool) := do
  let (literalCount, bits) ← readNumber? 5 bits
  let (distanceCount, bits) ← readNumber? 5 bits
  let (itemCount, bits) ← readNumber? 4 bits
  let literalCount := literalCount + 257
  let distanceCount := distanceCount + 1
  guard (literalCount ≤ 286 ∧ distanceCount ≤ 30)
  let (sent, bits) ← readNumbers? 3 (itemCount + 4) bits
  guard (isComplete (placeItems sent))
  let (lengths, bits) ← readLengths? (placeItems sent) (literalCount + distanceCount) [] bits
  let literals := lengths.take literalCount
  let distances := lengths.drop literalCount
  guard (isComplete literals ∧ literals.getD 256 0 ≠ 0 ∧ allowsDistances distances)
  return ((literals, distances), bits)

theorem readCodes?_length {lengths : List Nat × List Nat} {bits rest : List Bool}
    (read : readCodes? bits = some (lengths, rest)) : rest.length ≤ bits.length := by
  simp only [readCodes?, Option.bind_eq_bind, Option.bind_eq_some_iff, Prod.exists, Option.pure_def,
    Option.some.injEq, Prod.mk.injEq] at read
  obtain ⟨_, _, first, _, _, second, _, _, third, _, _, _, _, sent, _, _, _, _, lengths, _, _, _, rfl⟩ :=
    read
  have := readNumber?_length first
  have := readNumber?_length second
  have := readNumber?_length third
  have := readNumbers?_length sent
  have := readLengths?_length lengths
  omega

/-! ### Blocks -/

/-- The word lengths of the fixed code of literals. -/
def fixedLiterals : List Nat :=
  (List.range 288).map fun number =>
    if number < 144 then 8 else if number < 256 then 9 else if number < 280 then 7 else 8

/-- The word lengths of the fixed code of distances. -/
def fixedDistances : List Nat :=
  List.replicate 32 5

/-- Reads bytes that are stored as they are. The stream ends with a byte, so the bits that are left say how
    far the next byte is. -/
def readStored? (out : List UInt8) (bits : List Bool) : Option (List UInt8 × List Bool) := do
  let (size, bits) ← readNumber? 16 (bits.drop (bits.length % 8))
  let (complement, bits) ← readNumber? 16 bits
  guard (size + complement = 65535)
  let (bytes, bits) ← readNumbers? 8 size bits
  return ((bytes.map UInt8.ofNat).reverse ++ out, bits)

theorem readStored?_length {out written : List UInt8} {bits rest : List Bool}
    (read : readStored? out bits = some (written, rest)) : rest.length ≤ bits.length := by
  simp only [readStored?, Option.bind_eq_bind, Option.bind_eq_some_iff, Prod.exists, Option.pure_def,
    Option.some.injEq, Prod.mk.injEq] at read
  obtain ⟨_, _, size, _, _, complement, _, _, _, _, bytes, _, rfl⟩ := read
  have := readNumber?_length size
  have := readNumber?_length complement
  have := readNumbers?_length bytes
  rw [List.length_drop] at *
  omega

/-- Reads the contents of a block of the kind that the two bits name. -/
def readContents? (out : List UInt8) : Bool → Bool → List Bool → Option (List UInt8 × List Bool)
  | false, false, bits => readStored? out bits
  | true, false, bits => readBody? fixedLiterals fixedDistances out bits
  | false, true, bits => do
    let ((literals, distances), bits) ← readCodes? bits
    readBody? literals distances out bits
  | true, true, _ => none

theorem readContents?_length {out written : List UInt8} {low high : Bool} {bits rest : List Bool}
    (read : readContents? out low high bits = some (written, rest)) : rest.length ≤ bits.length := by
  cases low <;> cases high
  · exact readStored?_length read
  · simp only [readContents?, Option.bind_eq_bind, Option.bind_eq_some_iff, Prod.exists] at read
    obtain ⟨_, _, _, codes, body⟩ := read
    exact Nat.le_trans (readBody?_length body) (readCodes?_length codes)
  · exact readBody?_length read
  · cases read

/-- Reads blocks up to the one that says it is the last. -/
def inflateFrom? (out : List UInt8) : List Bool → Option (List UInt8 × List Bool)
  | last :: low :: high :: bits =>
    match _read : readContents? out low high bits with
    | none => none
    | some (out, rest) => if last then some (out, rest) else inflateFrom? out rest
  | _ => none
termination_by bits => bits.length
decreasing_by
  have := readContents?_length _read
  simp only [List.length_cons]
  omega

/-- The bytes that a stream stands for, and the whole bytes behind its end. -/
def inflate? (stream : List UInt8) : Option (List UInt8 × List UInt8) :=
  (inflateFrom? [] (bitsOfBytes stream)).map fun (out, rest) =>
    (out.reverse, stream.drop (stream.length - rest.length / 8))

end DiagramWeave.Inflate
