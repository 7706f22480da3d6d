import DiagramWeave.Decimal.Read
import DiagramWeave.Text.Blank

/-!
# Reading integers

An integer may have blanks around it and a sign before it. Bases up to sixteen are read, two, eight and
sixteen with or without their base sign. Decimal digits may be those of any script.
-/
namespace DiagramWeave.Decimal

/-- The value of a digit in bases up to sixteen. -/
def baseDigit? (base : Nat) (c : Char) : Option Nat :=
  match hexValue? c with
  | some value => if value < base then some value else none
  | none => none

/-- The text behind a sign of its base: two, eight or sixteen. -/
def behindBaseSign (base : Nat) (text : List Char) : List Char :=
  match text with
  | '0' :: c :: rest =>
    if (base = 2 && (c == 'b' || c == 'B')) || (base = 8 && (c == 'o' || c == 'O')) ||
        (base = 16 && (c == 'x' || c == 'X')) then rest
    else text
  | _ => text

/-- The longest decimal number that is read. -/
def digitLimit : Nat := 4300

/-- The digits without their underscores, if each stands between two digits. -/
def joinDigits? (text : List Char) : Option (List Char) :=
  if (Text.splitOn '_' text).all (!·.isEmpty) then some (text.filter (· != '_')) else none

/-- The number of a row of digits in a base. -/
def magnitude? (base : Nat) (digits : List Char) : Option Nat :=
  if digits.isEmpty || (base = 10 && digitLimit < digits.length) then none
  else digits.foldl (fun number c => do return base * (← number) + (← baseDigit? base c)) (some 0)

/-- The integer of a text in a base. -/
def integer? (base : Nat) (text : List Char) : Option Int :=
  let (negative, body) := splitSign ((Text.trim Text.isBlank text).map plainDigit)
  (joinDigits? (behindBaseSign base body)).bind (magnitude? base) |>.map fun magnitude : Nat =>
    if negative then -(magnitude : Int) else magnitude

end DiagramWeave.Decimal
