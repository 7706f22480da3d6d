import DiagramWeave.Text.Pieces
import DiagramWeave.Value

/-!
# Environment variables in option files

A text may refer to variables: `$` and the name in braces, with a default behind `:-` if the variable may
be missing. A name runs to the first colon or closing brace and is not empty; a default runs to the first
closing brace. Whatever does not have this form stands for itself.

Names and values are texts of Unicode characters. Variables whose bytes are not UTF-8, which reach a process
as halves of surrogate pairs, are left out.
-/
namespace DiagramWeave

/-- Variables and their values. Of two entries with one name the later counts. -/
abbrev Environment := List (String × String)

/-- The value of a variable. -/
def Environment.get? (environment : Environment) (name : String) : Option String :=
  (environment.reverse.find? fun entry => entry.1 = name).map (·.2)

/-- A piece of a text with references. -/
inductive Segment where
  | plain (c : Char)
  | reference (name : List Char) (fallback : Option (List Char))
  deriving DecidableEq, Repr

namespace Segment

/-- A character of a variable's name. -/
def isNameCharacter (c : Char) : Bool :=
  c != '\x7d' && c != ':'

/-- The reference whose name starts here, and the text behind its closing brace. -/
def reference? (text : List Char) : Option (Segment × List Char) :=
  match text.takeWhile isNameCharacter, text.dropWhile isNameCharacter with
  | [], _ => none
  | name, '\x7d' :: rest => some (.reference name none, rest)
  | name, ':' :: '-' :: tail =>
    (Text.splitFirst? '\x7d' tail).map fun parts => (.reference name (some parts.1), parts.2)
  | _, _ => none

theorem reference?_length {text rest : List Char} {segment : Segment}
    (read : reference? text = some (segment, rest)) : rest.length < text.length := by
  have outer := (List.dropWhile_suffix (l := text) isNameCharacter).length_le
  unfold reference? at read
  split at read
  · simp at read
  · next found _ =>
    cases read
    rw [found, List.length_cons] at outer
    omega
  · next tail found _ =>
    simp only [Option.map_eq_some_iff] at read
    obtain ⟨parts, closed, same⟩ := read
    cases same
    have whole := congrArg List.length (Text.splitFirst?_eq_some closed)
    rw [found] at outer
    simp only [List.length_cons, List.length_append] at outer whole
    omega
  · simp at read

/-- The segments of a text. -/
def ofText (text : List Char) : List Segment :=
  match text with
  | [] => []
  | '$' :: '\x7b' :: tail =>
    match _read : reference? tail with
    | some (segment, rest) => segment :: ofText rest
    -- No reference starts here, but one may start right behind the brace.
    | none => .plain '$' :: .plain '\x7b' :: ofText tail
  | c :: rest => .plain c :: ofText rest
termination_by text.length
decreasing_by
  · have := reference?_length _read
    simp only [List.length_cons]
    omega
  · simp only [List.length_cons]
    omega
  · simp only [List.length_cons]
    omega

/-- What a segment stands for; a variable without value and default stands for nothing. -/
def value? (environment : Environment) : Segment → Option (List Char)
  | plain c => some [c]
  | reference name fallback =>
    match environment.get? (String.ofList name) with
    | some value => some value.toList
    | none => fallback

/-- The name of a variable that has neither value nor default. -/
def missing? (environment : Environment) (segment : Segment) : Option String :=
  match segment with
  | plain _ => none
  | reference name _ => if (segment.value? environment).isNone then some (String.ofList name) else none

end Segment

/-- The text with its references replaced by what they stand for, or the names of all variables that are
    missing, in the order in which they occur. -/
def expand (environment : Environment) (text : String) : Except (List String) String :=
  let segments := Segment.ofText text.toList
  match segments.filterMap (Segment.missing? environment) with
  | [] => .ok (String.ofList (segments.flatMap fun segment => (segment.value? environment).getD []))
  | names => .error names

end DiagramWeave
