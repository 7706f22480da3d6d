import DiagramWeave.Deflate.Lengths
import DiagramWeave.Deflate.Matching
import DiagramWeave.Deflate.Slots
import DiagramWeave.Deflate.Tree

/-!
# Compressed streams

The symbols of a text are cut into blocks, and each block is written in the form that takes the fewest
bytes: its bytes as they are, its symbols in the fixed code, or its symbols in a code of its own that is
described first. On a tie the form named first is taken.
-/
namespace DiagramWeave.Deflate

/-! ## Symbols in a code -/

/-- The number that ends a block. -/
def endNumber : Nat := 256

/-- The number of a symbol in the alphabet of literals and lengths. -/
def Symbol.literalNumber : Symbol → Nat
  | literal byte => byte.toNat
  | copy length _ => 257 + lengthSlot length

/-- The number of a symbol in the alphabet of distances. -/
def Symbol.distanceNumber? : Symbol → Option Nat
  | literal _ => none
  | copy _ distance => some (distanceSlot distance)

/-- The codes of a block. -/
structure Codes where
  literals : Code
  distances : Code

/-- The offset of a value in its slot. -/
def slotOffset (slots : List Slot) (number value : Nat) : Bits :=
  let slot := slotAt slots number
  numberBits slot.extra (value - slot.base)

/-- The bits of a symbol. -/
def Codes.symbolBits (codes : Codes) : Symbol → Bits
  | .literal byte => codes.literals.word byte.toNat
  | .copy length distance =>
    let first := lengthSlot length
    let second := distanceSlot distance
    codes.literals.word (257 + first) ++ slotOffset lengthSlots first length ++
      codes.distances.word second ++ slotOffset distanceSlots second distance

/-- The bits of the symbols of a block and of its end. -/
def Codes.bodyBits (codes : Codes) (symbols : List Symbol) : Bits :=
  symbols.flatMap codes.symbolBits ++ codes.literals.word endNumber

/-! ## The forms of a block -/

/-- The lengths of the fixed code of literals. -/
def fixedLengths : List Nat :=
  List.replicate 144 8 ++ List.replicate 112 9 ++ List.replicate 24 7 ++ List.replicate 8 8

/-- The fixed codes. -/
def fixedCodes? : Option Codes := do
  let literals ← Code.ofLengths? fixedLengths
  let distances ← Code.ofLengths? (List.replicate 30 5)
  return ⟨literals, distances⟩

/-- How often each number below `size` occurs. -/
def weights (size : Nat) (numbers : List Nat) : List Nat :=
  (numbers.foldl (fun counts number => counts.modify number (· + 1)) (Array.replicate size 0)).toList

/-- The symbols of a block in a code of its own, behind the description of that code. -/
def dynamicBits? (symbols : List Symbol) : Option Bits := do
  let literalLengths := codeLengths 15 (weights 286 (endNumber :: symbols.map Symbol.literalNumber))
  let distanceLengths := codeLengths 15 (weights 30 (symbols.filterMap Symbol.distanceNumber?))
  -- The two lists of lengths follow each other; no repeat crosses from the first to the second.
  let items := lengthItems literalLengths ++ lengthItems distanceLengths
  let itemLengths := codeLengths 7 (weights 19 (items.map LengthItem.number))
  let sent := sentLengths itemLengths
  let itemCode ← Code.ofLengths? itemLengths
  let literals ← Code.ofLengths? literalLengths
  let distances ← Code.ofLengths? distanceLengths
  return numberBits 5 (literalLengths.length - 257) ++ numberBits 5 (distanceLengths.length - 1) ++
    numberBits 4 (sent.length - 4) ++ sent.flatMap (numberBits 3) ++
    items.flatMap (fun item => itemCode.word item.number ++ item.extraBits) ++
    (Codes.mk literals distances).bodyBits symbols

/-- Bytes as they are, from a byte boundary on, behind their number and its complement. `written` bits
    stand before. -/
def storedBits (written : Nat) (bytes : List UInt8) : Bits :=
  padding written ++ numberBits 16 bytes.length ++ numberBits 16 (65535 - bytes.length) ++ byteBits bytes

/-- The greatest number of bytes that a block can hold as they are. -/
def storedLimit : Nat := 65535

/-- The bytes that a block takes with its three bits of heading. -/
def byteCost (bits : Bits) : Nat :=
  (bits.length + 3 + 7) / 8

/-- A form of a block: the two bits that name it, and its contents. -/
structure BlockForm where
  kind : Nat
  contents : Bits

/-- The cheapest form of a block, whose symbols expand to `bytes`. -/
def chooseForm (written : Nat) (symbols : List Symbol) (bytes : List UInt8) : BlockForm :=
  let stored : BlockForm := ⟨0, storedBits (written + 3) bytes⟩
  let coded : Option BlockForm :=
    match fixedCodes?, dynamicBits? symbols with
    | some codes, some own =>
      let shared := codes.bodyBits symbols
      some (if byteCost shared ≤ byteCost own then ⟨1, shared⟩ else ⟨2, own⟩)
    | some codes, none => some ⟨1, codes.bodyBits symbols⟩
    | none, some own => some ⟨2, own⟩
    | none, none => none
  match coded with
  | some form =>
    -- Four bytes hold the number of stored bytes and its complement.
    if bytes.length + 4 ≤ byteCost form.contents && bytes.length ≤ storedLimit then stored else form
  | none => stored

/-- The bits of a block. -/
def blockBits (written : Nat) (last : Bool) (symbols : List Symbol) (bytes : List UInt8) : Bits :=
  let form := chooseForm written symbols bytes
  last :: numberBits 2 form.kind ++ form.contents

/-! ## Blocks of a stream -/

/-- How many symbols a block takes. -/
def blockLimit : Nat := 16383

/-- The symbols end in a copy. -/
def endsInCopy (symbols : List Symbol) : Bool :=
  match symbols.getLast? with
  | some (.copy _ _) => true
  | _ => false

/-- The symbols in blocks. A copy that fills a block closes it, so that an empty block may follow; a literal
    at the end of the text does not. -/
def splitBlocks (symbols : List Symbol) : List (List Symbol) :=
  if _more : blockLimit < symbols.length then
    symbols.take blockLimit :: splitBlocks (symbols.drop blockLimit)
  else if symbols.length = blockLimit && endsInCopy symbols then [symbols, []]
  else [symbols]
termination_by symbols.length
decreasing_by
  simp only [blockLimit, List.length_drop] at *
  omega

/-- The bits of blocks, the last of which ends the stream. `written` bits stand before. -/
def streamBits (written : Nat) (bytes : List UInt8) : List (List Symbol) → Bits
  | [] => []
  | symbols :: blocks =>
    let width := symbols.foldl (fun width symbol => width + symbol.width) 0
    let bits := blockBits written blocks.isEmpty symbols (bytes.take width)
    bits ++ streamBits (written + bits.length) (bytes.drop width) blocks

/-- The compressed bytes. -/
def compress (data : ByteArray) : ByteArray :=
  pack (streamBits 0 data.toList (splitBlocks (symbols .greatest data).toList))

end DiagramWeave.Deflate
