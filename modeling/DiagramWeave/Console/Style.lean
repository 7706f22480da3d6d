import DiagramWeave.Decimal.Read
import DiagramWeave.Text.Lines
import DiagramWeave.Text.Pieces
import DiagramWeave.Text.SmallLetters
import DiagramWeave.Text.Word

/-!
# Styles

A style is written as words: attributes, by their names or short for them, a colour, a colour of the
ground behind `on`, and an address behind `link`; `not` takes an attribute back. The order of the words
does not matter and the last word on a matter wins, so every style has a normal form. What is no style is
left as it is, but for blanks around it and the case of its letters.
-/
namespace DiagramWeave.Console

/-- The attributes in the order of the normal form, with the short form if there is one. -/
def attributeNames : List (String × String) := [
  ("bold", "b"), ("dim", "d"), ("italic", "i"), ("underline", "u"), ("blink", ""), ("blink2", ""),
  ("reverse", "r"), ("conceal", "c"), ("strike", "s"), ("underline2", "uu"), ("frame", ""),
  ("encircle", ""), ("overline", "o")]

/-- The full name of an attribute. -/
def attribute? (word : List Char) : Option String :=
  (attributeNames.find? fun entry =>
    entry.1.toList = word ∨ (entry.2.toList = word ∧ word ≠ [])).map (·.1)

/-- The colours that have names. -/
def colourRows : List String := [
  "black red green yellow blue magenta cyan white bright_black bright_red bright_green",
  "bright_yellow bright_blue bright_magenta bright_cyan bright_white grey0 gray0 navy_blue",
  "dark_blue blue3 blue1 dark_green deep_sky_blue4 dodger_blue3 dodger_blue2 green4 spring_green4",
  "turquoise4 deep_sky_blue3 dodger_blue1 green3 spring_green3 dark_cyan light_sea_green",
  "deep_sky_blue2 deep_sky_blue1 spring_green2 cyan3 dark_turquoise turquoise2 green1 spring_green1",
  "medium_spring_green cyan2 cyan1 dark_red deep_pink4 purple4 purple3 blue_violet orange4 grey37",
  "gray37 medium_purple4 slate_blue3 royal_blue1 chartreuse4 dark_sea_green4 pale_turquoise4",
  "steel_blue steel_blue3 cornflower_blue chartreuse3 cadet_blue sky_blue3 steel_blue1 pale_green3",
  "sea_green3 aquamarine3 medium_turquoise chartreuse2 sea_green2 sea_green1 aquamarine1",
  "dark_slate_gray2 dark_magenta dark_violet purple light_pink4 plum4 medium_purple3 slate_blue1",
  "yellow4 wheat4 grey53 gray53 light_slate_grey light_slate_gray medium_purple light_slate_blue",
  "dark_olive_green3 dark_sea_green light_sky_blue3 sky_blue2 dark_sea_green3 dark_slate_gray3",
  "sky_blue1 chartreuse1 light_green pale_green1 dark_slate_gray1 red3 medium_violet_red magenta3",
  "dark_orange3 indian_red hot_pink3 medium_orchid3 medium_orchid medium_purple2 dark_goldenrod",
  "light_salmon3 rosy_brown grey63 gray63 medium_purple1 gold3 dark_khaki navajo_white3 grey69",
  "gray69 light_steel_blue3 light_steel_blue yellow3 dark_sea_green2 light_cyan3 light_sky_blue1",
  "green_yellow dark_olive_green2 dark_sea_green1 pale_turquoise1 deep_pink3 magenta2 hot_pink2",
  "orchid medium_orchid1 orange3 light_pink3 pink3 plum3 violet light_goldenrod3 tan misty_rose3",
  "thistle3 plum2 khaki3 light_goldenrod2 light_yellow3 grey84 gray84 light_steel_blue1 yellow2",
  "dark_olive_green1 honeydew2 light_cyan1 red1 deep_pink2 deep_pink1 magenta1 orange_red1",
  "indian_red1 hot_pink dark_orange salmon1 light_coral pale_violet_red1 orchid2 orchid1 orange1",
  "sandy_brown light_salmon1 light_pink1 pink1 plum1 gold1 navajo_white1 misty_rose1 thistle1",
  "yellow1 light_goldenrod1 khaki1 wheat1 cornsilk1 grey100 gray100 grey3 gray3 grey7 gray7 grey11",
  "gray11 grey15 gray15 grey19 gray19 grey23 gray23 grey27 gray27 grey30 gray30 grey35 gray35",
  "grey39 gray39 grey42 gray42 grey46 gray46 grey50 gray50 grey54 gray54 grey58 gray58 grey62",
  "gray62 grey66 gray66 grey70 gray70 grey74 gray74 grey78 gray78 grey82 gray82 grey85 gray85",
  "grey89 gray89 grey93 gray93"]

/-- A number of at most three digits that one byte holds. -/
def isByte (text : List Char) : Bool :=
  !text.isEmpty && text.all isDecimalDigit && text.length ≤ 3 && Decimal.readDigits text ≤ 255

/-- The text between a word and a parenthesis at its front and a closing parenthesis at its end. -/
def inParentheses? (word text : List Char) : Option (List Char) :=
  match Text.after? word text with
  | some ('(' :: rest) => if rest.getLast? == some ')' then some rest.dropLast else none
  | _ => none

/-- A colour: a name, six hexadecimal digits, a number, or three shares. -/
def isColour (text : List Char) : Bool :=
  text = "default".toList ||
    colourRows.any (fun row => (Text.splitOn ' ' row.toList).contains text) ||
    (match text with
      | '#' :: digits => digits.length == 6 && digits.all fun c => (hexValue? c).isSome
      | _ => false) ||
    ((inParentheses? "color".toList text).elim false isByte) ||
    ((inParentheses? "rgb".toList text).elim false fun shares =>
      (Text.splitOn ',' shares).length == 3 && (Text.splitOn ',' shares).all isByte)

structure Style where
  /-- Attributes that are set or taken back. -/
  attributes : List (String × Bool)
  colour : Option (List Char)
  ground : Option (List Char)
  link : Option (List Char)

namespace Style

/-- Says nothing about anything. -/
def empty : Style := ⟨[], none, none, none⟩

/-- Adds the words of a style, if they are those of a style. -/
def addWords? (style : Style) : List (List Char) → Option Style
  | [] => some style
  | word :: rest =>
    let small := Text.lower word
    if small = "on".toList then
      match rest with
      | colour :: rest =>
        let colour := Text.lower colour
        if isColour colour then addWords? { style with ground := some colour } rest else none
      | [] => none
    else if small = "not".toList then
      match rest with
      | name :: rest =>
        (attribute? name).bind fun name =>
          addWords? { style with attributes := (name, false) :: style.attributes } rest
      | [] => none
    else if small = "link".toList then
      match rest with
      | address :: rest => addWords? { style with link := some address } rest
      | [] => none
    else
      match attribute? small with
      | some name => addWords? { style with attributes := (name, true) :: style.attributes } rest
      | none => if isColour small then addWords? { style with colour := some small } rest else none

/-- The words of the normal form. -/
def words (style : Style) : List (List Char) :=
  (attributeNames.flatMap fun entry =>
    match style.attributes.find? (·.1 == entry.1) with
    | some (name, true) => [name.toList]
    | some (name, false) => ["not".toList, name.toList]
    | none => []) ++
  style.colour.toList ++ (style.ground.elim [] fun colour => ["on".toList, colour]) ++
  (style.link.elim [] fun address => ["link".toList, address])

end Style

/-- The normal form of a style. -/
def normalStyle (text : List Char) : List Char :=
  match Style.empty.addWords? (Text.words text) with
  | some style => if style.words.isEmpty then "none".toList else [' '].intercalate style.words
  | none => Text.lower (Text.trim Text.isBlank text)

end DiagramWeave.Console
