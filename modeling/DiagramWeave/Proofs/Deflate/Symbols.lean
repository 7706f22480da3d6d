import DiagramWeave.Deflate.Compress
import DiagramWeave.Proofs.Deflate.Canonical

/-!
# Reading the symbols of a block

The symbols of a block are read back one by one, and the reader writes what they stand for, provided that its codes read the words
of their numbers and that every copy starts in the output written so far.
-/
namespace DiagramWeave.Deflate

open Inflate (readValue? readCopy? readElement? readBody? reaches)

/-! ### What symbols write -/

/-- From the output `out` the symbols lead to the output `final`, and each of them is allowed where it stands:
    its numbers are in bounds, and a copy starts in the output. Outputs are held with their last byte first. -/
inductive Writes : List UInt8 → List Symbol → List UInt8 → Prop
  | done {out : List UInt8} : Writes out [] out
  | next {out final : List UInt8} {symbol : Symbol} {symbols : List Symbol} :
      symbol.Bounded → reaches out symbol = true → Writes (symbol.apply out) symbols final →
      Writes out (symbol :: symbols) final

namespace Writes

variable {out between final : List UInt8} {symbols others : List Symbol}

theorem append (first : Writes out symbols between) (second : Writes between others final) :
    Writes out (symbols ++ others) final := by
  induction first with
  | done => exact second
  | next bounded reached _ ih => exact .next bounded reached (ih second)

theorem bounded (writes : Writes out symbols final) : ∀ symbol ∈ symbols, symbol.Bounded := by
  induction writes with
  | done => simp
  | next bounded _ _ ih => exact List.forall_mem_cons.2 ⟨bounded, ih⟩

theorem split (whole : Writes out (symbols ++ others) final) :
    ∃ between, Writes out symbols between ∧ Writes between others final := by
  induction symbols generalizing out with
  | nil => exact ⟨out, .done, whole⟩
  | cons symbol symbols ih =>
    cases whole with
    | next bounded reached rest =>
      obtain ⟨between, first, second⟩ := ih rest
      exact ⟨between, .next bounded reached first, second⟩

end Writes

theorem repeatBytes_eq_append (out : List UInt8) (distance count : Nat) :
    ∃ added, Symbol.repeatBytes out distance count = added ++ out ∧ added.length = count := by
  induction count generalizing out with
  | zero => exact ⟨[], rfl, rfl⟩
  | succ count ih =>
    obtain ⟨added, same, length⟩ := ih (out.getD (distance - 1) 0 :: out)
    refine ⟨added ++ [out.getD (distance - 1) 0], ?_, by simp [length]⟩
    rw [Symbol.repeatBytes, same, List.append_assoc, List.singleton_append]

theorem apply_eq_append (out : List UInt8) (symbol : Symbol) :
    ∃ added, symbol.apply out = added ++ out ∧ added.length = symbol.width := by
  cases symbol with
  | literal byte => exact ⟨[byte], rfl, rfl⟩
  | copy length distance => exact repeatBytes_eq_append out distance length

/-- How many bytes the symbols stand for. -/
def totalWidth (symbols : List Symbol) : Nat :=
  symbols.foldl (fun width symbol => width + symbol.width) 0

theorem totalWidth_cons (symbol : Symbol) (symbols : List Symbol) :
    totalWidth (symbol :: symbols) = symbol.width + totalWidth symbols := by
  have moved (start : Nat) : symbols.foldl (fun width symbol => width + symbol.width) start =
      start + totalWidth symbols := by
    rw [totalWidth]
    induction symbols generalizing start with
    | nil => rfl
    | cons other symbols ih =>
      rw [List.foldl_cons, ih, List.foldl_cons, ih (0 + other.width)]
      omega
  rw [totalWidth, List.foldl_cons, moved, Nat.zero_add]

theorem Writes.exists_append {out final : List UInt8} {symbols : List Symbol}
    (writes : Writes out symbols final) :
    ∃ added, final = added ++ out ∧ added.length = totalWidth symbols := by
  induction writes with
  | done => exact ⟨[], rfl, rfl⟩
  | @next out final symbol symbols _ _ _ ih =>
    obtain ⟨first, same, width⟩ := apply_eq_append out symbol
    obtain ⟨added, rfl, rest⟩ := ih
    refine ⟨added ++ first, ?_, ?_⟩
    · rw [same, List.append_assoc]
    · rw [List.length_append, totalWidth_cons, width, rest, Nat.add_comm]

/-! ### Slots -/

/-- The slots lie side by side, without a gap up to `top`. -/
def Covers (top : Nat) : List Slot → Prop
  | [] => True
  | [slot] => top < slot.base + 2 ^ slot.extra
  | slot :: next :: slots => next.base ≤ slot.base + 2 ^ slot.extra ∧ Covers top (next :: slots)

theorem covers_lengthSlots : Covers 258 lengthSlots := by
  simp [Covers, lengthSlots]

theorem covers_distanceSlots : Covers 32768 distanceSlots := by
  simp [Covers, distanceSlots]

/-- The slot of a value holds it. -/
theorem slotFrom_spec {top value : Nat} {slot : Slot} {slots : List Slot}
    (covers : Covers top (slot :: slots)) (above : slot.base ≤ value) (below : value ≤ top)
    (number : Nat) :
    ∃ place found, slotFrom value number (slot :: slots) = number + place ∧
      (slot :: slots)[place]? = some found ∧ found.base ≤ value ∧
      value - found.base < 2 ^ found.extra := by
  induction slots generalizing slot number with
  | nil =>
    have inside : top < slot.base + 2 ^ slot.extra := covers
    exact ⟨0, slot, rfl, rfl, above, by omega⟩
  | cons next slots ih =>
    obtain ⟨beside, covers⟩ := covers
    rw [slotFrom]
    split
    · next behind =>
      obtain ⟨place, found, same, listed, held⟩ := ih covers behind (number + 1)
      exact ⟨place + 1, found, by rw [same]; omega, listed, held⟩
    · -- The next slot starts where this one ends at the latest, and the value lies below it.
      exact ⟨0, slot, rfl, rfl, above, by omega⟩

/-- A value is read back from its slot and its offset. -/
theorem readValue?_slotOffset {top value : Nat} {first : Slot} {slots : List Slot}
    (covers : Covers top (first :: slots)) (above : first.base ≤ value) (below : value ≤ top)
    (rest : Bits) :
    readValue? ((first :: slots).map fun slot => (slot.base, slot.extra))
        (slotFrom value 0 (first :: slots))
        (slotOffset (first :: slots) (slotFrom value 0 (first :: slots)) value ++ rest) =
      some (value, rest) := by
  obtain ⟨place, found, same, listed, base, fits⟩ := slotFrom_spec covers above below 0
  rw [Nat.zero_add] at same
  have slot : slotAt (first :: slots) place = found := by
    rw [slotAt, List.getD_eq_getElem?_getD, listed, Option.getD_some]
  rw [same, slotOffset, slot, readValue?, List.getElem?_map, listed]
  simp only [Option.map_some, readNumber?_numberBits rest fits, Nat.add_sub_cancel' base]

theorem slotFrom_lt {top value : Nat} {first : Slot} {slots : List Slot}
    (covers : Covers top (first :: slots)) (above : first.base ≤ value) (below : value ≤ top) :
    slotFrom value 0 (first :: slots) < (first :: slots).length := by
  obtain ⟨place, found, same, listed, _⟩ := slotFrom_spec covers above below 0
  rw [same, Nat.zero_add]
  exact (List.getElem?_eq_some_iff.1 listed).1

theorem literalNumber_lt {symbol : Symbol} (bounded : symbol.Bounded) : symbol.literalNumber < 286 := by
  cases symbol with
  | literal byte => exact Nat.lt_trans byte.toNat_lt (by decide)
  | copy length distance =>
    have : lengthSlot length < 29 := slotFrom_lt covers_lengthSlots bounded.1 bounded.2.1
    rw [Symbol.literalNumber]
    omega

theorem distanceSlot_lt {length distance : Nat} (bounded : (Symbol.copy length distance).Bounded) :
    distanceSlot distance < 30 :=
  slotFrom_lt covers_distanceSlots bounded.2.2.1 bounded.2.2.2

/-! ### Reading symbols -/

/-- The reader of these lengths reads all numbers of a symbol in these codes. -/
structure ReadsSymbol (literals distances : List Nat) (codes : Codes) (symbol : Symbol) : Prop where
  literal : Reads literals codes.literals symbol.literalNumber
  distance : ∀ number, symbol.distanceNumber? = some number → Reads distances codes.distances number

theorem readElement?_symbolBits {literals distances : List Nat} {codes : Codes} {symbol : Symbol}
    (bounded : symbol.Bounded) (reads : ReadsSymbol literals distances codes symbol) (rest : Bits) :
    readElement? literals distances (codes.symbolBits symbol ++ rest) = some (some symbol, rest) := by
  cases symbol with
  | literal byte =>
    have word : Reads literals codes.literals byte.toNat := reads.literal
    rw [Codes.symbolBits, readElement?, word]
    simp only [byte.toNat_lt, if_true, UInt8.ofNat_toNat]
  | copy length distance =>
    obtain ⟨three, most, one, far⟩ := bounded
    have word : Reads literals codes.literals (257 + lengthSlot length) := reads.literal
    have second := reads.distance (distanceSlot distance) rfl
      (slotOffset distanceSlots (distanceSlot distance) distance ++ rest)
    have lengthRead (rest : Bits) : readValue? Inflate.copyLengths (lengthSlot length)
        (slotOffset lengthSlots (lengthSlot length) length ++ rest) = some (length, rest) :=
      readValue?_slotOffset covers_lengthSlots three most rest
    have distanceRead (rest : Bits) : readValue? Inflate.copyDistances (distanceSlot distance)
        (slotOffset distanceSlots (distanceSlot distance) distance ++ rest) = some (distance, rest) :=
      readValue?_slotOffset covers_distanceSlots one far rest
    rw [Codes.symbolBits]
    simp only [List.append_assoc]
    rw [readElement?, word]
    -- Numbers from 257 on are copies.
    have behind : ¬ 257 + lengthSlot length < 256 := by omega
    have other : ¬ 257 + lengthSlot length = 256 := by omega
    simp only [behind, other, if_false, Nat.add_sub_cancel_left, readCopy?, Option.bind_eq_bind, lengthRead,
      Option.bind_some, second, distanceRead, Option.pure_def, Option.map_some]

/-- A block that is read symbol by symbol leads to the output that its symbols write. -/
theorem readBody?_bodyBits {literals distances : List Nat} {codes : Codes} {out final : List UInt8}
    {symbols : List Symbol} (writes : Writes out symbols final)
    (reads : ∀ symbol ∈ symbols, ReadsSymbol literals distances codes symbol)
    (ends : Reads literals codes.literals endNumber) (rest : Bits) :
    readBody? literals distances out (codes.bodyBits symbols ++ rest) = some (final, rest) := by
  -- The reader and the symbols go on from the same output.
  rw [Codes.bodyBits]
  induction writes with
  | done =>
    have last : readElement? literals distances (codes.literals.word endNumber ++ rest) =
        some (none, rest) := by
      rw [readElement?, ends]
      rfl
    rw [List.flatMap_nil, List.nil_append, readBody?, last]
  | @next out final symbol symbols bounded reached _ ih =>
    obtain ⟨first, others⟩ := List.forall_mem_cons.1 reads
    rw [List.flatMap_cons, List.append_assoc, List.append_assoc, readBody?,
      readElement?_symbolBits bounded first]
    simp only [reached, if_true]
    rw [← List.append_assoc]
    exact ih others

end DiagramWeave.Deflate
