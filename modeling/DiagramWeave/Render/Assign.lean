import DiagramWeave.Block.Basic

/-!
# Giving blocks their locators

Blocks are rendered one after the other, and each is given the locator that came of it. A block takes a
locator once. The first failure ends the run; blocks behind it stay as they are.

Blocks do not depend on each other, so a run may also render several at once. What it then does is what
some order of the blocks does, and a run without a failure comes out the same in every order.
-/
namespace DiagramWeave

/-- What a run over blocks came to: the blocks, with the locators that were set, and the failure that
    ended it. -/
structure Progress (ε : Type) where
  blocks : List Block
  failure : Option ε

/-- The block with a locator, unless it has one. -/
def Block.locate? (block : Block) (locator : String) : Option Block :=
  match block.locator with
  | some _ => none
  | none => some { block with locator := some locator }

/-- Renders blocks in turn. `twice` is the failure of a block that already has a locator. -/
def runBlocks {m : Type → Type} [Monad m] {ε : Type} (twice : Block → ε)
    (work : Block → m (Except ε String)) : List Block → m (Progress ε)
  | [] => return ⟨[], none⟩
  | block :: rest => do
    match ← work block with
    | .error failure => return ⟨block :: rest, some failure⟩
    | .ok locator =>
      match block.locate? locator with
      | none => return ⟨block :: rest, some (twice block)⟩
      | some located =>
        let progress ← runBlocks twice work rest
        return ⟨located :: progress.blocks, progress.failure⟩

/-- Blocks are rendered side by side when there are two or more of both blocks and workers. -/
def sideBySide (workers : Int) (blocks : List Block) : Bool :=
  1 < workers && 1 < blocks.length

end DiagramWeave
