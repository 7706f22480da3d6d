import DiagramWeave.Decimal.Integer
import DiagramWeave.Text.SmallLetters
import DiagramWeave.Value
import DiagramWeave.Yaml.Node

/-!
# Values of scalars

A scalar with a tag is read as the tag says. Underscores in numbers do not count. The forms are those that
a plain scalar gets its tag by, and some that only a tag written out can ask for.
-/
namespace DiagramWeave.Yaml

/-- The float of a text with blanks around it, in digits of any script. -/
def float? (text : List Char) : Option Float :=
  Decimal.read? ((Text.trim Text.isBlank text).map plainDigit)

/-- The number of digits in base sixty. -/
def sixties (digits : List Int) : Int :=
  digits.foldl (fun number digit => 60 * number + digit) 0

/-- The number of digits in base sixty, the last of which come first. -/
def floatSixties (base : Nat) (sum : Float) : List Float → Float
  | [] => sum
  | digit :: digits => floatSixties (60 * base) (sum + digit * Float.ofNat base) digits

/-- The integer of a scalar. -/
def intValue (content : List Char) : Except Fault Int :=
  let text := content.filter (· != '_')
  let read (base : Nat) (text : List Char) : Except Fault Int :=
    (Decimal.integer? base text).elim (.error .notNumber) .ok
  match text with
  | [] => .error .emptyNumber
  | c :: rest =>
    let body := if c == '-' || c == '+' then rest else text
    let magnitude : Except Fault Int := match body with
      | [] => .error .emptyNumber
      | ['0'] => .ok 0
      | '0' :: 'b' :: digits => read 2 digits
      | '0' :: 'x' :: digits => read 16 digits
      | '0' :: _ => read 8 body
      | _ =>
        if body.contains ':' then (Text.splitOn ':' body).mapM (read 10) |>.map sixties
        else read 10 body
    magnitude.map fun number => if c == '-' then -number else number

/-- The float of a scalar. -/
def floatValue (content : List Char) : Except Fault Float :=
  let text := Text.lower (content.filter (· != '_'))
  let read (text : List Char) : Except Fault Float := (float? text).elim (.error .notNumber) .ok
  match text with
  | [] => .error .emptyNumber
  | c :: rest =>
    let body := if c == '-' || c == '+' then rest else text
    let magnitude : Except Fault Float :=
      if body = ['.', 'i', 'n', 'f'] then .ok (1.0 / 0.0)
      else if body = ['.', 'n', 'a', 'n'] then .ok (0.0 / 0.0)
      else if body.contains ':' then
        (Text.splitOn ':' body).mapM read |>.map fun parts => floatSixties 1 0.0 parts.reverse
      else read body
    magnitude.map (Decimal.signed (c == '-'))

/-- The truth value of a scalar. -/
def boolValue (content : List Char) : Except Fault Bool :=
  let word := String.ofList (Text.lower content)
  if ["yes", "true", "on"].contains word then .ok true
  else if ["no", "false", "off"].contains word then .ok false
  else .error .notTruthValue

/-- The date or time of a scalar must exist. -/
def momentValue (content : List Char) : Except Fault Value :=
  match Moment.read? content with
  | none => .error .notMoment
  | some moment => if moment.isPossible then .ok .moment else .error .impossibleMoment

/-- The value of a letter of the alphabet of binary data. -/
def binaryLetter? (c : Char) : Option Nat :=
  if 'A' ≤ c ∧ c ≤ 'Z' then some (c.toNat - 65)
  else if 'a' ≤ c ∧ c ≤ 'z' then some (c.toNat - 71)
  else if '0' ≤ c ∧ c ≤ '9' then some (c.toNat + 4)
  else if c = '+' then some 62
  else if c = '/' then some 63
  else none

/-- The bytes of binary data. `place` counts the letters of the group begun, `left` holds their bits not
    yet used, and `pads` counts equal signs. Other characters do not count. -/
def binaryFrom (bytes : ByteArray) (place left pads : Nat) : List Char → Except Fault ByteArray
  | [] => if place = 0 then .ok bytes else .error .malformed
  | c :: rest =>
    if c = '=' then
      if 2 ≤ place then
        if 4 ≤ place + pads + 1 then .ok bytes else binaryFrom bytes place left (pads + 1) rest
      else binaryFrom bytes place left pads rest
    else
      match binaryLetter? c with
      | none => binaryFrom bytes place left pads rest
      | some value =>
        match place with
        | 0 => binaryFrom bytes 1 value 0 rest
        | 1 => binaryFrom (bytes.push (UInt8.ofNat (4 * left + value / 16))) 2 (value % 16) 0 rest
        | 2 => binaryFrom (bytes.push (UInt8.ofNat (16 * left + value / 4))) 3 (value % 4) 0 rest
        | _ => binaryFrom (bytes.push (UInt8.ofNat (64 * left + value))) 0 0 0 rest

/-- The bytes of a scalar. -/
def binaryValue (content : List Char) : Except Fault ByteArray :=
  if content.all fun c => c.toNat < 128 then binaryFrom ByteArray.empty 0 0 0 content
  else .error .malformed

/-- The tag is one for scalars. -/
def Tag.isScalar : Tag → Bool
  | .null | .bool | .int | .float | .binary | .timestamp | .text => true
  | _ => false

/-- The value of a scalar by its tag. -/
def scalarValue (tag : Tag) (content : List Char) : Except Fault Value :=
  match tag with
  | .null => .ok .null
  | .bool => (boolValue content).map .flag
  | .int => (intValue content).map .int
  | .float => (floatValue content).map .float
  | .binary => (binaryValue content).map .bytes
  | .timestamp => momentValue content
  | .text => .ok (.text (String.ofList content))
  | _ => .error .malformed

end DiagramWeave.Yaml
