import DiagramWeave.Text.Pieces

/-!
# File paths

A path is kept in its normal form: a root, if it is absolute, and the names on the way. Empty names and
single points say nothing and are dropped; double points are kept, as what they mean depends on links.
-/
namespace DiagramWeave

/-- What an absolute path starts with. Exactly two slashes are a root of their own. -/
inductive PathRoot where
  | relative
  | single
  | double
  deriving DecidableEq, Repr

/-- The root as written. -/
def PathRoot.text : PathRoot → String
  | relative => ""
  | single => "/"
  | double => "//"

structure FilePath where
  root : PathRoot
  names : List String
  deriving DecidableEq, Repr

namespace FilePath

/-- The root at the front of a path. -/
def rootOf : List Char → PathRoot
  | '/' :: '/' :: '/' :: _ => .single
  | '/' :: '/' :: _ => .double
  | '/' :: _ => .single
  | _ => .relative

/-- A name that leads somewhere. -/
def leads (name : List Char) : Bool :=
  name ≠ [] && name ≠ ['.']

/-- The path of a text. -/
def ofText (text : String) : FilePath :=
  ⟨rootOf text.toList, ((Text.splitOn '/' text.toList).filter leads).map String.ofList⟩

/-- The text of a path. The path without root and names is a single point. -/
def text (path : FilePath) : String :=
  if path.root = .relative ∧ path.names = [] then "."
  else path.root.text ++ "/".intercalate path.names

/-- The path that `other` names when it is read from `path` on. -/
def join (path other : FilePath) : FilePath :=
  if other.root = .relative then ⟨path.root, path.names ++ other.names⟩ else other

/-- The path is not read from the working directory on. -/
def isAbsolute (path : FilePath) : Bool :=
  path.root ≠ .relative

/-- The path one name shorter. -/
def parent (path : FilePath) : FilePath :=
  ⟨path.root, path.names.dropLast⟩

end FilePath

end DiagramWeave
