import DiagramWeave.Deflate.Symbol

/-!
# Finding copies

The bytes are passed once from left to right. Positions that start with the same three bytes are chained
by a hash, the latest first, and the chain is followed for the longest earlier occurrence of what comes
next. A copy found at one position is held back until the next position has been searched: a longer one
there turns it into a literal.

The chains only propose positions. What is copied is measured on the bytes themselves by `commonLength`,
so whatever the chains hold, the symbols expand to the bytes.
-/
namespace DiagramWeave.Deflate

/-- The byte at a position, and zero behind the end. -/
def byteAt (data : ByteArray) (position : Nat) : UInt8 :=
  if inside : position < data.size then data[position] else 0

/-- How hard the search for copies tries. -/
structure Effort where
  /-- A held-back copy of this length quarters the chain that is followed. -/
  good : Nat
  /-- A held-back copy of this length is taken without further search. -/
  eager : Nat
  /-- A copy of this length ends the search. -/
  nice : Nat
  /-- How many positions of a chain are tried. -/
  chain : Nat

/-- The greatest effort. -/
def Effort.greatest : Effort := ⟨32, 258, 258, 4096⟩

/-- The greatest distance searched. -/
def reach : Nat := 32768 - 262

/-- A copy of three bytes from farther back costs more than its literals. -/
def nearReach : Nat := 4096

/-- Positions by the hash of the three bytes that start there. Zero ends a chain, so the first byte is
    never proposed. -/
structure Chains where
  latest : Array Nat
  earlier : Array Nat

/-- Chains without positions, for a text of that size. -/
def Chains.empty (size : Nat) : Chains :=
  ⟨Array.replicate 32768 0, Array.replicate size 0⟩

/-- The hash of the three bytes at a position: fifteen bits, each byte shifted by five against the next. -/
def hashAt (data : ByteArray) (position : Nat) : Nat :=
  let a := (byteAt data position).toNat
  let b := (byteAt data (position + 1)).toNat
  let c := (byteAt data (position + 2)).toNat
  ((a <<< 10) ^^^ (b <<< 5) ^^^ c) % 32768

/-- Enters a position; the position entered before it under its hash is handed back. -/
def Chains.enter (chains : Chains) (data : ByteArray) (position : Nat) : Chains × Nat :=
  if position + 3 ≤ data.size then
    let ⟨latest, earlier⟩ := chains
    let hash := hashAt data position
    let candidate := latest.getD hash 0
    (⟨latest.setIfInBounds hash position, earlier.setIfInBounds position candidate⟩, candidate)
  else (chains, 0)

/-- Enters `count` positions from `position` on. -/
def Chains.enterRange (chains : Chains) (data : ByteArray) (position : Nat) : Nat → Chains
  | 0 => chains
  | count + 1 => ((chains.enter data position).1).enterRange data (position + 1) count

/-- How many bytes from `first` and from `second` on agree, beyond the `agreed` already compared and up to
    `remaining` more. -/
def commonLengthFrom (data : ByteArray) (first second agreed : Nat) : Nat → Nat
  | 0 => agreed
  | remaining + 1 =>
    if byteAt data (first + agreed) = byteAt data (second + agreed) then
      commonLengthFrom data first second (agreed + 1) remaining
    else agreed

/-- How many bytes agree, `limit` at most. -/
def commonLength (data : ByteArray) (first second limit : Nat) : Nat :=
  commonLengthFrom data first second 0 limit

/-- A copy of `length` bytes from position `source`. -/
structure Copy where
  length : Nat
  source : Nat

/-- Follows the chain from `candidate` for a copy to `position` longer than `best`. `steps` bounds the
    positions tried, `limit` the copy, and a copy of `enough` bytes ends the search. -/
def followChain (data : ByteArray) (earlier : Array Nat) (position limit enough : Nat) (candidate : Nat)
    (best : Copy) : Nat → Copy
  | 0 => best
  | steps + 1 =>
    -- A longer copy agrees on the byte behind the best one so far, so that byte is looked at first.
    let length :=
      if best.length < limit &&
          byteAt data (candidate + best.length) == byteAt data (position + best.length) then
        commonLength data candidate position limit
      else 0
    let better := if best.length < length then ⟨length, candidate⟩ else best
    if best.length < length && enough ≤ length then better
    else
      let next := earlier.getD candidate 0
      if position - reach < next && next < candidate then
        followChain data earlier position limit enough next better steps
      else better

/-- A copy to `position` longer than the one held back, if there is one worth its bits. -/
def longerCopy? (effort : Effort) (data : ByteArray) (earlier : Array Nat) (position candidate : Nat)
    (held : Nat) : Option Copy :=
  if candidate = 0 ∨ effort.eager ≤ held ∨ position < candidate ∨ reach < position - candidate then none
  else
    let limit := min 258 (data.size - position)
    let steps := if effort.good ≤ held then effort.chain / 4 else effort.chain
    let found := followChain data earlier position limit (min effort.nice limit) candidate ⟨held, 0⟩ steps
    if found.length ≤ held then none
    else if found.length = 3 ∧ nearReach < position - found.source then none
    else some found

/-- Where the pass stands: `held` is the copy found for the byte before `position`, and `waiting` says
    that this byte has not been written yet. -/
structure Pass where
  position : Nat
  chains : Chains
  held : Copy
  waiting : Bool

/-- No copy is held back. A length of two stands for none, as copies have three bytes or more. -/
def noCopy : Copy := ⟨2, 0⟩

/-- Passes the bytes from `pass.position` on, adding symbols to `out`. -/
def passFrom (effort : Effort) (data : ByteArray) (pass : Pass) (out : Array Symbol) : Array Symbol :=
  if more : pass.position < data.size then
    let position := pass.position
    let entered := pass.chains.enter data position
    let found := longerCopy? effort data entered.1.earlier position entered.2 pass.held.length
    if _held : 3 ≤ pass.held.length ∧ found.isNone then
      -- The copy held back started one byte ago, and this position has been entered already.
      let chains := entered.1.enterRange data (position + 1) (pass.held.length - 2)
      passFrom effort data ⟨position + (pass.held.length - 1), chains, noCopy, false⟩
        (out.push (.copy pass.held.length (position - 1 - pass.held.source)))
    else
      -- What was held back is no longer than what was found here: its first byte is a literal.
      let out := if pass.waiting then out.push (.literal (byteAt data (position - 1))) else out
      passFrom effort data ⟨position + 1, entered.1, found.getD noCopy, true⟩ out
  else if pass.waiting then out.push (.literal (byteAt data (pass.position - 1)))
  else out
termination_by data.size - pass.position
decreasing_by all_goals omega

/-- The symbols of a text. -/
def symbols (effort : Effort) (data : ByteArray) : Array Symbol :=
  passFrom effort data ⟨0, Chains.empty data.size, noCopy, false⟩ #[]

end DiagramWeave.Deflate
