import DiagramWeave.Decimal.Shortest
import DiagramWeave.Value

/-!
# Writing JSON

Values are written on one line, a comma and a blank between items, a colon and a blank behind a name, and
in ASCII only: every other character is written by its UTF-16 units. An integer of too many digits cannot be
written, and then nothing is.
-/
namespace DiagramWeave.Json

/-- How floats without a decimal form are written. -/
def floatNames : Decimal.SpecialNames := ⟨"NaN", "Infinity"⟩

/-- A digit of a unit, in small letters. -/
def unitDigit (value : Nat) : Char :=
  if value < 10 then Char.ofNat (48 + value) else Char.ofNat (87 + value)

/-- A UTF-16 unit as an escape of four digits. -/
def unitEscape (unit : Nat) : List Char :=
  ['\\', 'u', unitDigit (unit / 4096 % 16), unitDigit (unit / 256 % 16), unitDigit (unit / 16 % 16),
    unitDigit (unit % 16)]

/-- A character inside quotes. -/
def character (c : Char) : List Char :=
  if c = '"' then ['\\', '"']
  else if c = '\\' then ['\\', '\\']
  else if c = '\n' then ['\\', 'n']
  else if c = '\r' then ['\\', 'r']
  else if c = '\t' then ['\\', 't']
  else if c = '\x08' then ['\\', 'b']
  else if c = '\x0c' then ['\\', 'f']
  else if 0x20 ≤ c.toNat && c.toNat ≤ 0x7e then [c]
  else if c.toNat < 0x10000 then unitEscape c.toNat
  else
    let rest := c.toNat - 0x10000
    unitEscape (0xd800 + rest / 1024) ++ unitEscape (0xdc00 + rest % 1024)

/-- A quoted text. -/
def quoted (text : List Char) : List Char :=
  '"' :: text.flatMap character ++ ['"']

/-- A name of an object: texts as they are, other scalars by their JSON form. -/
def nameText : Value → List Char
  | .text content => content.toList
  | .null => "null".toList
  | .flag true => "true".toList
  | .flag false => "false".toList
  | .int number => (toString number).toList
  | .float number => (Decimal.render floatNames number).toList
  | _ => []

mutual

/-- The JSON text of a value. Values outside JSON are written as null. -/
def write : Value → List Char
  | .null => "null".toList
  | .flag true => "true".toList
  | .flag false => "false".toList
  | .int number => (toString number).toList
  | .float number => (Decimal.render floatNames number).toList
  | .text content => quoted content.toList
  | .list items => '[' :: writeItems items ++ [']']
  | .mapping entries => '\x7b' :: writeEntries entries ++ ['\x7d']
  | .bytes _ | .moment | .group | .circle => "null".toList

/-- The items of a list, separated. -/
def writeItems : List Value → List Char
  | [] => []
  | [item] => write item
  | item :: rest => write item ++ ',' :: ' ' :: writeItems rest

/-- The entries of an object, separated. -/
def writeEntries : List (Value × Value) → List Char
  | [] => []
  | [(name, value)] => quoted (nameText name) ++ ':' :: ' ' :: write value
  | (name, value) :: rest =>
    quoted (nameText name) ++ ':' :: ' ' :: write value ++ ',' :: ' ' :: writeEntries rest

end

/-- The JSON text of a value. -/
def render (value : Value) : String :=
  String.ofList (write value)

/-- The most digits of an integer that can be written. -/
def digitLimit : Nat := 4300

mutual

/-- No integer of the value has too many digits. -/
def isWritable : Value → Bool
  | .int number => number.natAbs < Nat.pow 10 digitLimit
  | .list items => areWritable items
  | .mapping entries => entriesAreWritable entries
  | _ => true

/-- The items of a list can all be written. -/
def areWritable : List Value → Bool
  | [] => true
  | item :: rest => isWritable item && areWritable rest

/-- The entries of an object can all be written. -/
def entriesAreWritable : List (Value × Value) → Bool
  | [] => true
  | (name, value) :: rest => isWritable name && isWritable value && entriesAreWritable rest

end

end DiagramWeave.Json
