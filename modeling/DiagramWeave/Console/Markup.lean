import DiagramWeave.Console.Picture
import DiagramWeave.Console.Style

/-!
# Markup

Text for a terminal may hold tags in brackets that switch styles on and off, and names of pictures between
colons. A tag starts with a small letter, a hash, a slash or an at sign and holds no opening bracket.
Backslashes before a tag stand for half as many; an odd one makes the tag plain text. Escaping a text makes
all its tags plain text, but it does nothing about the names of pictures.
-/
namespace DiagramWeave.Console

/-- Why markup cannot be shown. -/
inductive MarkupFault where
  /-- A tag closes a style that is not open. -/
  | notOpen (name : List Char)
  | nothingOpen
  | badArgument (argument : List Char)
  deriving DecidableEq, Repr

/-! ## Tags -/

/-- The character may stand behind the opening bracket of a tag. -/
def startsTag (c : Char) : Bool :=
  ('a' ≤ c && c ≤ 'z') || c == '#' || c == '/' || c == '@'

/-- The inside of a tag and the text behind it, given the text behind its opening bracket. -/
def tagInside? : List Char → Option (List Char × List Char)
  | c :: rest =>
    if startsTag c then
      match rest.dropWhile fun c => c != '[' && c != ']' with
      | ']' :: behind => some (c :: rest.takeWhile fun c => c != '[' && c != ']', behind)
      | _ => none
    else none
  | [] => none

/-- A tag with the backslashes before it. -/
structure TagText where
  slashes : Nat
  inside : List Char

/-- The tag at the front of a text, and the text behind it. -/
def tagAt? (text : List Char) : Option (TagText × List Char) :=
  let slashes := text.takeWhile (· == '\\')
  match text.dropWhile (· == '\\') with
  | '[' :: rest => (tagInside? rest).map fun (inside, behind) => (⟨slashes.length, inside⟩, behind)
  | _ => none

theorem tagAt?_length {text behind : List Char} {tag : TagText}
    (found : tagAt? text = some (tag, behind)) : behind.length < text.length := by
  unfold tagAt? at found
  have whole := (List.dropWhile_sublist (l := text) (· == '\\')).length_le
  split at found
  · next rest same =>
    rw [same] at whole
    simp only [Option.map_eq_some_iff, Prod.mk.injEq] at found
    obtain ⟨⟨inside, left⟩, inner, _, rfl⟩ := found
    unfold tagInside? at inner
    split at inner
    · next c rest =>
      split at inner
      · split at inner
        · next shorter =>
          have part := (List.dropWhile_sublist (l := rest) fun c => c != '[' && c != ']').length_le
          rw [shorter] at part
          cases inner
          simp only [List.length_cons] at whole part ⊢
          omega
        · cases inner
      · cases inner
    · cases inner
  · cases found

/-- A stretch of markup. -/
inductive Stretch where
  | plain (text : List Char)
  | tag (tag : TagText)

/-- Puts a character in front of stretches. -/
def Stretch.beforeAll (c : Char) : List Stretch → List Stretch
  | .plain text :: rest => .plain (c :: text) :: rest
  | rest => .plain [c] :: rest

/-- The stretches of markup. -/
def stretches (text : List Char) : List Stretch :=
  match text with
  | [] => []
  | c :: rest =>
    match _found : tagAt? (c :: rest) with
    | some (tag, behind) => .tag tag :: stretches behind
    | none => Stretch.beforeAll c (stretches rest)
termination_by text.length
decreasing_by
  · exact tagAt?_length _found
  · simp

/-- The text of a tag without backslashes. -/
def TagText.text (tag : TagText) : List Char :=
  '[' :: tag.inside ++ [']']

/-! ## Escaping -/

/-- The stretch with its tag made plain text. -/
def Stretch.escaped : Stretch → List Char
  | .plain text => text
  | .tag tagged => List.replicate (2 * tagged.slashes + 1) '\\' ++ tagged.text

/-- A single backslash at the end is doubled. -/
def doubleLast (text : List Char) : List Char :=
  match text.reverse with
  | '\\' :: '\\' :: _ => text
  | '\\' :: _ => text ++ ['\\']
  | _ => text

/-- Markup that shows a text with its tags. -/
def escape (text : String) : String :=
  String.ofList (doubleLast ((stretches text.toList).flatMap Stretch.escaped))

/-! ## Pictures -/

/-- The characters that ask for a kind of picture. -/
def variants : List (String × Char) :=
  [("-text", '\ufe0e'), ("-emoji", '\ufe0f')]

/-- The picture for what stands between two colons: a name, and perhaps a variant. -/
def named? (name : List Char) : Option (List Char) :=
  let parts := variants.findSome? fun (ending, mark) =>
    (Text.after? ending.toList.reverse name.reverse).map fun front => (front.reverse, [mark])
  let (name, marks) := parts.getD (name, [])
  (picture? (Text.lower name)).map (· ++ marks)

/-- The name behind a colon and the text behind the next colon. -/
def nameAt? (text : List Char) : Option (List Char × List Char) :=
  match text.dropWhile fun c => c != ':' && !Text.isBlank c with
  | ':' :: behind => some (text.takeWhile fun c => c != ':' && !Text.isBlank c, behind)
  | _ => none

theorem nameAt?_length {text name behind : List Char} (found : nameAt? text = some (name, behind)) :
    behind.length < text.length := by
  unfold nameAt? at found
  have part := (List.dropWhile_sublist (l := text) fun c => c != ':' && !Text.isBlank c).length_le
  split at found
  · next shorter =>
    rw [shorter] at part
    cases found
    simp only [List.length_cons] at part
    omega
  · cases found

/-- The text with pictures for their names. -/
def withPictures (text : List Char) : List Char :=
  match text with
  | [] => []
  | c :: rest =>
    if c = ':' then
      match _found : nameAt? rest with
      | some (name, behind) => (named? name).getD (':' :: name ++ [':']) ++ withPictures behind
      | none => c :: withPictures rest
    else c :: withPictures rest
termination_by text.length
decreasing_by
  · exact Nat.lt_succ_of_lt (nameAt?_length _found)
  · simp
  · simp

/-! ## Showing -/

/-- A style that is open: its name, and what stands behind the equals sign of its tag. -/
structure OpenStyle where
  name : List Char
  argument : Option (List Char)

/-- Takes the style of a name out of those open, the last opened first. -/
def takeOpen? (name : List Char) : List OpenStyle → Option (OpenStyle × List OpenStyle)
  | [] => none
  | style :: rest =>
    if style.name = name then some (style, rest)
    else (takeOpen? name rest).map fun (taken, rest) => (taken, style :: rest)

/-- What a style that is a handler may be called with: a name and empty parentheses, or less. -/
def isCall (argument : List Char) : Bool :=
  let isName (c : Char) : Bool := Text.isWord c || c == '.'
  let behind := (Text.trim Text.isBlank argument).dropWhile isName
  behind = [] || behind = ['(', ')']

/-- A style can be closed. -/
def closes (style : OpenStyle) : Except MarkupFault Unit :=
  match style.name, style.argument with
  | '@' :: _, some (c :: rest) =>
    if isCall (c :: rest) then .ok () else .error (.badArgument (c :: rest))
  | _, _ => .ok ()

/-- The open styles behind a tag. -/
def afterTag (openStyles : List OpenStyle) (inside : List Char) : Except MarkupFault (List OpenStyle) :=
  let (name, argument) := match Text.splitFirst? '=' inside with
    | some (name, argument) => (name, some argument)
    | none => (inside, none)
  match name with
  | '/' :: closed =>
    let trimmed := Text.trim Text.isBlank closed
    match trimmed, openStyles with
    | [], [] => .error .nothingOpen
    | [], style :: rest => (closes style).map fun _ => rest
    | _, _ =>
      let closedName := normalStyle trimmed
      match takeOpen? closedName openStyles with
      | some (style, rest) => (closes style).map fun _ => rest
      | none => .error (.notOpen closedName)
  | _ => .ok (⟨normalStyle name, argument⟩ :: openStyles)

/-- The text with brackets for those behind a backslash. -/
def plainBrackets : List Char → List Char
  | '\\' :: '[' :: rest => '[' :: plainBrackets rest
  | c :: rest => c :: plainBrackets rest
  | [] => []

/-- The text that stretches show. -/
def showStretches (openStyles : List OpenStyle) : List Stretch → Except MarkupFault (List Char)
  | [] => .ok []
  | .plain text :: rest => do
    return withPictures (plainBrackets text) ++ (← showStretches openStyles rest)
  | .tag tag :: rest => do
    let slashes := List.replicate (tag.slashes / 2) '\\'
    if tag.slashes % 2 = 1 then
      return slashes ++ withPictures tag.text ++ (← showStretches openStyles rest)
    else return slashes ++ (← showStretches (← afterTag openStyles tag.inside) rest)

/-- Control characters that are not shown: bell, backspace, vertical tab, form feed, carriage return. -/
def isDropped (c : Char) : Bool :=
  ['\x07', '\x08', '\x0b', '\x0c', '\r'].contains c

/-- The text that markup shows. -/
def shown (markup : String) : Except MarkupFault (List Char) :=
  (showStretches [] (stretches markup.toList)).map (·.filter fun c => !isDropped c)

end DiagramWeave.Console
