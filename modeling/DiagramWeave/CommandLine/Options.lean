import DiagramWeave.Text.Pieces

/-!
# Options and operands

The words of a command line are options, values of options, and operands. An option has a long name behind
two hyphens and perhaps a letter behind one. A value stands in the same word, behind an equals sign or
directly behind the letter, or is the next word, whatever that looks like. Letters of options without a
value may share a word. Behind two hyphens alone everything is an operand, and so is a single hyphen.
-/
namespace DiagramWeave.CommandLine

/-- An option: what it sets, its names, and whether it takes a value. -/
structure OptionForm (κ : Type) where
  key : κ
  long : String
  letter : Option Char
  takesValue : Bool

/-- An option that was given, with its value, which is empty if it takes none. -/
structure GivenOption (κ : Type) where
  key : κ
  value : String

/-- What a word is. -/
inductive WordKind (κ : Type) where
  | operand
  /-- Options end here. -/
  | endOfOptions
  | options (given : List (GivenOption κ))
  /-- The value of the last option is the next word. -/
  | waiting (given : List (GivenOption κ)) (key : κ)
  | unknown

/-- The kind of a word of options that one more option stands in front of. -/
def WordKind.behind {κ : Type} (option : GivenOption κ) : WordKind κ → WordKind κ
  | options given => options (option :: given)
  | waiting given key => waiting (option :: given) key
  | kind => kind

/-- The options of letters. The first one that takes a value takes all that is left. -/
def letters {κ : Type} (forms : List (OptionForm κ)) : List Char → WordKind κ
  | [] => .options []
  | c :: rest =>
    match forms.find? fun form => form.letter == some c with
    | none => .unknown
    | some form =>
      if form.takesValue then
        if rest.isEmpty then .waiting [] form.key
        else .options [⟨form.key, String.ofList rest⟩]
      else (letters forms rest).behind ⟨form.key, ""⟩

/-- The option of a long name, with the value behind the equals sign if there is one. -/
def longOption {κ : Type} (form : OptionForm κ) (value : Option (List Char)) : WordKind κ :=
  match form.takesValue, value with
  | true, some value => .options [⟨form.key, String.ofList value⟩]
  | true, none => .waiting [] form.key
  | false, none => .options [⟨form.key, ""⟩]
  | false, some _ => .unknown

/-- The kind of a word. Long names are tried before letters. -/
def wordKind {κ : Type} (forms : List (OptionForm κ)) (word : String) : WordKind κ :=
  match word.toList with
  | ['-', '-'] => .endOfOptions
  | '-' :: c :: rest =>
    let (name, value) := match Text.splitFirst? '=' word.toList with
      | some (name, value) => (name, some value)
      | none => (word.toList, none)
    match forms.find? fun form => form.long.toList == name with
    | some form => longOption form value
    | none => if c = '-' then .unknown else letters forms (c :: rest)
  | _ => .operand

/-- The words of a command line, sorted out. -/
structure Sorted (κ : Type) where
  options : List (GivenOption κ)
  operands : List String

/-- Sorts out the words of a command line. Unless options and operands may be `mixed`, the first operand
    ends the options. A word that is no option, or an option without its value, spoils everything. -/
def sortWords? {κ : Type} (forms : List (OptionForm κ)) (mixed : Bool) : List String → Option (Sorted κ)
  | [] => some ⟨[], []⟩
  | word :: rest =>
    match wordKind forms word with
    | .unknown => none
    | .endOfOptions => some ⟨[], rest⟩
    | .operand =>
      if mixed then
        (sortWords? forms mixed rest).map fun sorted => { sorted with operands := word :: sorted.operands }
      else some ⟨[], word :: rest⟩
    | .options given =>
      (sortWords? forms mixed rest).map fun sorted => { sorted with options := given ++ sorted.options }
    | .waiting given key =>
      match rest with
      | [] => none
      | value :: rest =>
        (sortWords? forms mixed rest).map fun sorted =>
          { sorted with options := given ++ ⟨key, value⟩ :: sorted.options }

namespace Sorted

variable {κ : Type} [DecidableEq κ]

/-- The option was given. -/
def has (sorted : Sorted κ) (key : κ) : Bool :=
  sorted.options.any fun option => option.key == key

/-- The value of an option. The last one given counts. -/
def value? (sorted : Sorted κ) (key : κ) : Option String :=
  (sorted.options.reverse.find? fun option => option.key == key).map (·.value)

end Sorted

end DiagramWeave.CommandLine
