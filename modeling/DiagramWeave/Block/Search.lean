import DiagramWeave.Block.Scan
import DiagramWeave.Text.SharedCapitals

/-!
# Finding a block again by its title

A rendered block is looked up by its title, compared character by character, and by its format, compared
without regard to case, which may stand behind a point or be left out. Padding is allowed before the
title, before the point and before the line end. Where padding leaves a choice the longest padding is
tried first, and the format is tried before its absence.
-/
namespace DiagramWeave

/-- The rests left by dropping padding from the front, the longest padding first. -/
def padRests : List Char → List (List Char)
  | [] => [[]]
  | c :: rest => if Text.isPad c then padRests rest ++ [c :: rest] else [c :: rest]

/-- The rests left by one line end, the longest first. -/
def breakRests : List Char → List (List Char)
  | '\r' :: '\n' :: rest => [rest, '\n' :: rest]
  | '\r' :: rest => [rest]
  | '\n' :: rest => [rest]
  | _ => []

/-- The rests left by a point and the format, and by nothing at all. -/
def formatRests (extension text : List Char) : List (List Char) :=
  match text with
  | '.' :: rest => (Text.afterAnyCase? extension rest).toList ++ [text]
  | _ => [text]

/-- The text behind a block with this title and format at the front of `text`. -/
def afterTitled? (title extension text : List Char) : Option (List Char) :=
  match Text.after? openMark text with
  | some (pad :: line) =>
    if Text.isPad pad then
      -- A title may itself begin with padding, so every split of the padding is tried.
      (padRests line).findSome? fun named =>
        (Text.after? title named).bind fun tail =>
          (padRests tail).findSome? fun pointed =>
            (formatRests extension pointed).findSome? fun formatted =>
              (padRests formatted).findSome? fun ended =>
                (breakRests ended).findSome? fun body =>
                  (splitAtClose? body).map Prod.snd
    else none
  | _ => none

/-- The first block with this title and format: the text before it, its own text and the text behind. -/
def findTitled? (title extension : List Char) : List Char → Option (List Char × List Char × List Char)
  | [] => none
  | c :: text =>
    match afterTitled? title extension (c :: text) with
    | some rest => some ([], (c :: text).take ((c :: text).length - rest.length), rest)
    | none => (findTitled? title extension text).map fun found => (c :: found.1, found.2)

/-- Where a block with the title and format of `block` stands in `text` at or behind `position`, and its
    text. -/
def Block.search? (block : Block) (text : String) (position : Nat) : Option (Nat × Nat × String) :=
  (findTitled? block.title.toList block.extension.toList (text.toList.drop position)).map
    fun (before, matched, _) =>
      let start := position + before.length
      (start, start + matched.length, String.ofList matched)

end DiagramWeave
