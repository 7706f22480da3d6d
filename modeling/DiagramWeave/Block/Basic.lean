/-!
# Diagram blocks

A block is one diagram embedded in a document. It remembers the text it was read from, the name and the
format of its image, the diagram text proper, and where it stood. A renderer fills in the locator, which
the rewriter then puts into the document.
-/
namespace DiagramWeave

/-- The image formats that the diagram tool can emit. -/
inductive ImageFormat where
  | eps | html | latex | pdf | png | scxml | svg | txt | utxt | vdx | xmi
  deriving DecidableEq, Repr

namespace ImageFormat

/-- Every format, in the order of their names. -/
def all : List ImageFormat :=
  [.eps, .html, .latex, .pdf, .png, .scxml, .svg, .txt, .utxt, .vdx, .xmi]

/-- The file extension of a format, which is also its name on a command line and in a request. -/
def name : ImageFormat → String
  | eps => "eps"
  | html => "html"
  | latex => "latex"
  | pdf => "pdf"
  | png => "png"
  | scxml => "scxml"
  | svg => "svg"
  | txt => "txt"
  | utxt => "utxt"
  | vdx => "vdx"
  | xmi => "xmi"

/-- The format of that name, in small letters only. -/
def ofName? (name : String) : Option ImageFormat :=
  all.find? fun format => format.name = name

theorem mem_all (format : ImageFormat) : format ∈ all := by
  cases format <;> decide

theorem ofName?_name (format : ImageFormat) : ofName? format.name = some format := by
  cases format <;> decide

end ImageFormat

/-- The name of the format of a block whose header names none. -/
def defaultFormat : String := ImageFormat.png.name

/-- One diagram block of a document. Offsets count characters; `stop` is the offset behind the block. -/
structure Block where
  index : Int
  source : String
  title : String
  extension : String
  payload : String
  start : Nat
  stop : Nat
  locator : Option String
  deriving DecidableEq, Repr

/-- The file name of the rendered image. -/
def Block.outputName (block : Block) : String :=
  block.title ++ "." ++ block.extension

end DiagramWeave
