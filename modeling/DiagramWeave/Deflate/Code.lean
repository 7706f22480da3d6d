import DiagramWeave.Deflate.Bits

/-!
# Canonical codes

Lengths alone determine a code: shorter words come first, and words of one length are consecutive numbers
in the order of their symbols. `Code.ofLengths?` hands out a code only after it has entered every word into
a trie without running into another word, so that no word begins another and a stream of words can be read
back.
-/
namespace DiagramWeave.Deflate

/-- Words entered so far, by their bits. -/
inductive Trie where
  | vacant
  | word (symbol : Nat)
  | branch (zero one : Trie)
  deriving Inhabited

namespace Trie

/-- Enters a word, unless it begins another word or another begins it. -/
def insert? (symbol : Nat) : Trie → Bits → Option Trie
  | vacant, [] => some (word symbol)
  | vacant, false :: bits => (insert? symbol vacant bits).map fun trie => branch trie vacant
  | vacant, true :: bits => (insert? symbol vacant bits).map fun trie => branch vacant trie
  | word _, _ => none
  | branch _ _, [] => none
  | branch zero one, false :: bits => (insert? symbol zero bits).map fun trie => branch trie one
  | branch zero one, true :: bits => (insert? symbol one bits).map fun trie => branch zero trie

/-- The symbol of the word at the front of a stream, and the stream behind it. -/
def read? : Trie → Bits → Option (Nat × Bits)
  | word symbol, bits => some (symbol, bits)
  | branch zero _, false :: bits => read? zero bits
  | branch _ one, true :: bits => read? one bits
  | _, _ => none

/-- Enters words for the symbols from `symbol` on; an empty word stands for a symbol without a code. -/
def insertAll? (trie : Trie) (symbol : Nat) : List Bits → Option Trie
  | [] => some trie
  | [] :: words => insertAll? trie (symbol + 1) words
  | bits :: words =>
    match insert? symbol trie bits with
    | some trie => insertAll? trie (symbol + 1) words
    | none => none

end Trie

/-- The longest word of a code. -/
def longestWord : Nat := 15

/-- The first number of each length from `length` on; `number` is the first of `length`. -/
def firstNumbers (lengths : List Nat) (length number : Nat) : Nat → List Nat
  | 0 => []
  | steps + 1 =>
    number :: firstNumbers lengths (length + 1) (2 * (number + lengths.count length)) steps

/-- A number as a word of `length` bits, the most significant first. -/
def wordBits (length number : Nat) : Bits :=
  (numberBits length number).reverse

/-- Words for symbols of these lengths; `next` holds the next free number of each length. -/
def assignWords (next : Array Nat) : List Nat → List Bits
  | [] => []
  | 0 :: lengths => [] :: assignWords next lengths
  | length :: lengths =>
    wordBits length (next.getD length 0) :: assignWords (next.modify length (· + 1)) lengths

/-- The words of the canonical code with these lengths. -/
def canonicalWords (lengths : List Nat) : List Bits :=
  assignWords (0 :: firstNumbers lengths 1 0 longestWord).toArray lengths

/-- A code that can be written and read. -/
structure Code where
  words : Array Bits
  trie : Trie

/-- The canonical code of these lengths, if they make one. -/
def Code.ofLengths? (lengths : List Nat) : Option Code :=
  let words := canonicalWords lengths
  (Trie.vacant.insertAll? 0 words).map fun trie => ⟨words.toArray, trie⟩

/-- The word of a symbol. -/
def Code.word (code : Code) (symbol : Nat) : Bits :=
  code.words.getD symbol []

end DiagramWeave.Deflate
