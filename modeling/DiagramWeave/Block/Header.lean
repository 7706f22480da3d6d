import DiagramWeave.Block.Basic
import DiagramWeave.Text.Pieces
import DiagramWeave.Text.SmallLetters

/-!
# Block headers

A header holds a title and may end in a format. The part behind the last point is a format only when it
names one, in letters of either case, and something visible stands before the point; otherwise the whole
header is the title. So `v1.2` keeps its point and `flow.SVG` is the diagram `flow` as `svg`.
-/
namespace DiagramWeave

/-- Title and format of a header. -/
def splitHeader (header : List Char) (fallback : String) : List Char × String :=
  match Text.splitLast? '.' header with
  | some (stem, suffix) =>
    match ImageFormat.ofName? (String.ofList (Text.lower suffix)) with
    | some format =>
      if Text.allBlank stem then (header, fallback) else (Text.trimEnd Text.isBlank stem, format.name)
    | none => (header, fallback)
  | none => (header, fallback)

end DiagramWeave
