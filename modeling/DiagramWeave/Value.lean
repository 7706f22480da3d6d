/-!
# Option values

The values that option files, callers and log records carry: what a markup of nested data can say. Most
values are scalars, lists and mappings. `moment`, `group` and `circle` stand for values that no option
accepts and whose content nobody asks for: a date or time, a set or tuple, and a collection that holds
itself.
-/
namespace DiagramWeave

inductive Value where
  | null
  | flag (value : Bool)
  | int (value : Int)
  | float (value : Float)
  | text (value : String)
  | bytes (value : ByteArray)
  | moment
  | group
  | circle
  | list (items : List Value)
  | mapping (entries : List (Value × Value))
  deriving Inhabited

namespace Value

/-- Absent and null are one thing to an option. -/
def isNull : Value → Bool
  | null => true
  | _ => false

/-- The text of a text value. -/
def text? : Value → Option String
  | text content => some content
  | _ => none

end Value

/-- Named values in order. A name occurs once. -/
abbrev Entries := List (String × Value)

namespace Entries

/-- The value under a name. -/
def get? (entries : Entries) (name : String) : Option Value :=
  (entries.find? fun entry => entry.1 = name).map (·.2)

/-- Gives a name a value: an old name keeps its place, a new one comes last. -/
def set (entries : Entries) (name : String) (value : Value) : Entries :=
  match entries with
  | [] => [(name, value)]
  | (known, old) :: rest =>
    if known = name then (name, value) :: rest else (known, old) :: set rest name value

/-- Sets every entry of `changes` in turn. -/
def update (entries changes : Entries) : Entries :=
  changes.foldl (fun result change => result.set change.1 change.2) entries

/-- The entries whose value is not null. -/
def present (entries : Entries) : Entries :=
  entries.filter fun entry => !entry.2.isNull

end Entries

end DiagramWeave
