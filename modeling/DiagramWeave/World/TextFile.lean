import DiagramWeave.World.Basic

/-!
# Text files

Text files are UTF-8. Reading turns every line end, of whatever kind, into a single line feed; writing
changes nothing.
-/
namespace DiagramWeave

/-- The text with single line feeds for its carriage returns and for those before a line feed. -/
def unifyBreaks : List Char → List Char
  | '\r' :: '\n' :: rest => '\n' :: unifyBreaks rest
  | '\r' :: rest => '\n' :: unifyBreaks rest
  | c :: rest => c :: unifyBreaks rest
  | [] => []

/-- Why a text file cannot be read. -/
inductive TextFault where
  | unreadable (fault : DiskFault)
  | undecodable
  deriving DecidableEq, Repr

namespace World

/-- The text of a file. -/
def readText (path : FilePath) : Action (Except TextFault String) := do
  match ← readFile path with
  | .error fault => return .error (.unreadable fault)
  | .ok content =>
    match String.fromUTF8? content with
    | some text => return .ok (String.ofList (unifyBreaks text.toList))
    | none => return .error .undecodable

end World

end DiagramWeave
