import DiagramWeave.Block.Search
import DiagramWeave.Locator

/-!
# Putting image references into a document

Each rendered block is replaced by a reference to its image. Blocks are taken in the order of their
index, and each is looked for behind the one before it, so blocks of one title are told apart by their
order. A block counts as found only when the text found is its recorded source.
-/
namespace DiagramWeave

/-- Why a document cannot be rewritten. -/
inductive RewriteError where
  /-- The block was never rendered. -/
  | noLocator (title : String)
  /-- The block does not stand at or behind this offset. -/
  | notFound (title : String) (offset : Nat)
  deriving DecidableEq, Repr

/-- The text of a rewriting error. -/
def RewriteError.message : RewriteError → String
  | .noLocator title => s!"Block '{title}' has no locator"
  | .notFound title offset => s!"Block '{title}' not found at or after offset {offset}"

/-- The reference to a block's image: an exclamation mark, the title in brackets, the locator in
    parentheses. -/
def imageReference (block : Block) : Except RewriteError String :=
  match block.locator with
  | none => .error (.noLocator block.title)
  | some locator => .ok ("![" ++ block.title ++ "](" ++ escapeLocator locator ++ ")")

/-- Replaces the blocks in the text that is left, which starts at `offset`. -/
def rewriteFrom (offset : Nat) (text : List Char) : List Block → Except RewriteError (List Char)
  | [] => .ok text
  | block :: blocks => do
    let reference ← imageReference block
    match findTitled? block.title.toList block.extension.toList text with
    | some (before, matched, rest) =>
      -- A block of the same title that is not the recorded one must not be replaced.
      if matched = block.source.toList then
        let replaced ← rewriteFrom (offset + before.length + matched.length) rest blocks
        return before ++ reference.toList ++ replaced
      else throw (.notFound block.title offset)
    | none => throw (.notFound block.title offset)

/-- The blocks in the order of their index; blocks of one index keep their order. -/
def inIndexOrder (blocks : List Block) : List Block :=
  blocks.mergeSort fun first second => first.index ≤ second.index

/-- The document with every block replaced by its reference and nothing else changed. -/
def rewrite (text : String) (blocks : List Block) : Except RewriteError String :=
  (rewriteFrom 0 text.toList (inIndexOrder blocks)).map String.ofList

end DiagramWeave
