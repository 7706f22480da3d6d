import DiagramWeave.Decimal.Read

/-!
# What plain scalars mean

A plain scalar without a tag gets the tag of the first form that it has: truth value, float, integer,
merge key, null, date or time, default value. Each form asks for its own first characters, so the order
decides between forms only where they overlap. All other scalars are text.
-/
namespace DiagramWeave.Yaml

/-- The kinds of scalars and collections that have a value. -/
inductive Tag where
  | null
  | bool
  | int
  | float
  | binary
  | timestamp
  | orderedMap
  | pairs
  | set
  | text
  | sequence
  | mapping
  /-- The key whose value is merged into the mapping. -/
  | merge
  /-- The key of a mapping's default value. -/
  | default
  | unknown
  deriving DecidableEq, Repr

/-- The tag of a full name. -/
def Tag.ofName (name : List Char) : Tag :=
  match Text.after? "tag:yaml.org,2002:".toList name with
  | none => .unknown
  | some short =>
    match String.ofList short with
    | "null" => .null
    | "bool" => .bool
    | "int" => .int
    | "float" => .float
    | "binary" => .binary
    | "timestamp" => .timestamp
    | "omap" => .orderedMap
    | "pairs" => .pairs
    | "set" => .set
    | "str" => .text
    | "seq" => .sequence
    | "map" => .mapping
    | "merge" => .merge
    | "value" => .default
    | _ => .unknown

namespace Resolve

/-- The words for truth values. -/
def boolWords : List String :=
  ["yes", "Yes", "YES", "no", "No", "NO", "true", "True", "TRUE", "false", "False", "FALSE", "on", "On",
    "ON", "off", "Off", "OFF"]

/-- The words for null. -/
def nullWords : List String :=
  ["~", "null", "Null", "NULL", ""]

/-- A digit or an underscore. -/
def isLooseDigit (c : Char) : Bool :=
  isDecimalDigit c || c == '_'

/-- The text behind an optional sign. -/
def unsigned : List Char → List Char
  | '+' :: rest => rest
  | '-' :: rest => rest
  | text => text

/-- The text behind a digit and further digits or underscores. -/
def afterDigits? : List Char → Option (List Char)
  | c :: rest => if isDecimalDigit c then some (rest.dropWhile isLooseDigit) else none
  | [] => none

/-- Nothing, or an exponent with a sign. -/
def isExponent : List Char → Bool
  | [] => true
  | e :: sign :: digits =>
    (e == 'e' || e == 'E') && (sign == '+' || sign == '-') && !digits.isEmpty && digits.all isDecimalDigit
  | _ => false

/-- The text behind one or more groups of a colon and a number below sixty. -/
def afterSixties? : List Char → Option (List Char)
  | ':' :: a :: b :: rest =>
    if isDecimalDigit a && isDecimalDigit b then
      if a.toNat ≤ '5'.toNat then some ((afterSixties? rest).getD rest) else none
    else if isDecimalDigit a then some ((afterSixties? (b :: rest)).getD (b :: rest))
    else none
  | [':', a] => if isDecimalDigit a then some [] else none
  | _ => none

/-- A point, and digits or underscores to the end. -/
def isFraction : List Char → Bool
  | '.' :: rest => rest.all isLooseDigit
  | _ => false

/-- A number with a point. -/
def isFloat (text : List Char) : Bool :=
  let body := unsigned text
  let decimal := match afterDigits? body with
    | some ('.' :: rest) => isExponent (rest.dropWhile isLooseDigit)
    | _ => false
  let sixties := match (afterDigits? body).bind afterSixties? with
    | some rest => isFraction rest
    | none => false
  let short := match text with
    | '.' :: rest => ((afterDigits? rest).map isExponent).getD false
    | _ => false
  decimal || sixties || short ||
    [".inf", ".Inf", ".INF"].contains (String.ofList body) ||
    [".nan", ".NaN", ".NAN"].contains (String.ofList text)

/-- A digit of base sixteen or an underscore. -/
def isLooseHex (c : Char) : Bool :=
  isLooseDigit c || ('a' ≤ c && c ≤ 'f') || ('A' ≤ c && c ≤ 'F')

/-- A digit of base eight or an underscore. -/
def isLooseOctal (c : Char) : Bool :=
  ('0' ≤ c && c ≤ '7') || c == '_'

/-- An integer, in base two, eight, ten, sixteen or sixty. -/
def isInt (text : List Char) : Bool :=
  match unsigned text with
  | ['0'] => true
  | '0' :: 'b' :: digits => !digits.isEmpty && digits.all fun c => c == '0' || c == '1' || c == '_'
  | '0' :: 'x' :: digits => !digits.isEmpty && digits.all isLooseHex
  | '0' :: digits => digits.all isLooseOctal
  | c :: rest =>
    isDecimalDigit c &&
      match rest.dropWhile isLooseDigit with
      | [] => true
      | tail => afterSixties? tail == some []
  | [] => false

end Resolve

/-- A row of one digit up to `most` digits, and the text behind it. -/
def digitRow? (most : Nat) (text : List Char) : Option (Nat × List Char) :=
  let digits := (text.take most).takeWhile isDecimalDigit
  if digits.isEmpty then none else some (Decimal.readDigits digits, text.drop digits.length)

/-- A row of exactly `count` digits, and the text behind it. -/
def exactRow? (count : Nat) (text : List Char) : Option (Nat × List Char) :=
  if (text.take count).length = count && (text.take count).all isDecimalDigit then
    some (Decimal.readDigits (text.take count), text.drop count)
  else none

/-- A date, and a time of day with an offset if it has one. -/
structure Moment where
  year : Nat
  month : Nat
  day : Nat
  time : Option (Nat × Nat × Nat)
  /-- Minutes from universal time, without sign. -/
  offset : Nat

namespace Moment

/-- What may stand behind a time: nothing, universal time, or an offset in hours and minutes. -/
def offset? (text : List Char) : Option Nat :=
  match text.dropWhile fun c => c == ' ' || c == '\t' with
  | [] => if text.isEmpty then some 0 else none
  | ['Z'] => some 0
  | sign :: rest =>
    if sign == '+' || sign == '-' then do
      let (hours, tail) ← digitRow? 2 rest
      match tail with
      | [] => some (60 * hours)
      | ':' :: tail => do
        let (minutes, tail) ← exactRow? 2 tail
        if tail.isEmpty then some (60 * hours + minutes) else none
      | _ => none
    else none

/-- The time of day at the front of a text: hours, minutes, seconds, and the offset. -/
def time? (text : List Char) : Option ((Nat × Nat × Nat) × Nat) := do
  let (hour, tail) ← digitRow? 2 text
  let tail ← Text.after? [':'] tail
  let (minute, tail) ← exactRow? 2 tail
  let tail ← Text.after? [':'] tail
  let (second, tail) ← exactRow? 2 tail
  let tail := match tail with
    | '.' :: rest => rest.dropWhile isDecimalDigit
    | _ => tail
  let offset ← offset? tail
  some ((hour, minute, second), offset)

/-- What separates a date from a time. -/
def behindSeparator? : List Char → Option (List Char)
  | c :: rest =>
    if c == 'T' || c == 't' then some rest
    else if c == ' ' || c == '\t' then some (rest.dropWhile fun c => c == ' ' || c == '\t')
    else none
  | [] => none

/-- The moment of a text. Without a time, month and day may still have one digit. -/
def read? (text : List Char) : Option Moment := do
  let (year, tail) ← exactRow? 4 text
  let tail ← Text.after? ['-'] tail
  let (month, tail) ← digitRow? 2 tail
  let tail ← Text.after? ['-'] tail
  let (day, tail) ← digitRow? 2 tail
  if tail.isEmpty then some ⟨year, month, day, none, 0⟩
  else do
    let tail ← behindSeparator? tail
    let (time, offset) ← time? tail
    some ⟨year, month, day, some time, offset⟩

/-- How many days a month has. -/
def monthLength (year month : Nat) : Nat :=
  if month = 2 then
    if (year % 4 = 0 ∧ year % 100 ≠ 0) ∨ year % 400 = 0 then 29 else 28
  else if month = 4 ∨ month = 6 ∨ month = 9 ∨ month = 11 then 30
  else 31

/-- The calendar has the day, the day has the time, and the offset is less than a day. -/
def isPossible (moment : Moment) : Bool :=
  1 ≤ moment.year && 1 ≤ moment.month && moment.month ≤ 12 && 1 ≤ moment.day &&
    moment.day ≤ monthLength moment.year moment.month &&
    match moment.time with
    | none => true
    | some (hour, minute, second) => hour < 24 && minute < 60 && second < 60 && moment.offset < 24 * 60

end Moment

/-- A plain scalar is a moment only if a date without a time has two digits for month and day. -/
def isMoment (text : List Char) : Bool :=
  match Moment.read? text with
  | some moment => moment.time.isSome || text.length = 10
  | none => false

/-- The tag of a plain scalar. -/
def resolve (text : List Char) : Tag :=
  let word := String.ofList text
  if Resolve.boolWords.contains word then .bool
  else if Resolve.isFloat text then .float
  else if Resolve.isInt text then .int
  else if word = "<<" then .merge
  else if Resolve.nullWords.contains word then .null
  -- Numbers have been sorted out, so digits and dashes can only be a date here.
  else if isMoment text then .timestamp
  else if word = "=" then .default
  else .text

end DiagramWeave.Yaml
