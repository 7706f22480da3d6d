/-!
# Tokens of YAML

What the text is cut into before it is read as a tree. Block structure, which the text shows by
indentation, is explicit in the tokens.
-/
namespace DiagramWeave.Yaml

/-- Why a text has no value. Every fault of form is one; the others are faults of single scalars. -/
inductive Fault where
  | malformed
  /-- An escape names a character beyond Unicode. -/
  | beyondUnicode
  /-- A number that is not one. -/
  | notNumber
  /-- A number without any character. -/
  | emptyNumber
  /-- A truth value that is not one. -/
  | notTruthValue
  /-- A date or time that is not one. -/
  | notMoment
  /-- A date or time that no calendar has. -/
  | impossibleMoment
  /-- A scalar that refers to itself. -/
  | endless
  deriving DecidableEq, Repr

/-- A tag as written: a shorthand with its handle, or in full. -/
structure RawTag where
  handle : Option (List Char)
  suffix : List Char

inductive Token where
  /-- The version directive with its major number. -/
  | version (major : Nat)
  /-- The directive that gives a tag handle its meaning. -/
  | tagHandle (handle expansion : List Char)
  | unknownDirective
  | documentStart
  | documentEnd
  | blockSequenceStart
  | blockMappingStart
  | blockEnd
  | flowSequenceStart
  | flowSequenceEnd
  | flowMappingStart
  | flowMappingEnd
  | blockEntry
  | flowEntry
  | key
  | value
  | alias (name : List Char)
  | anchor (name : List Char)
  | tag (tag : RawTag)
  | scalar (content : List Char) (plain : Bool)
  /-- Nothing could be read from here on. -/
  | fault (fault : Fault)

end DiagramWeave.Yaml
