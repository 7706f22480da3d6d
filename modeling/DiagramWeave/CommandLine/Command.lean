import DiagramWeave.CommandLine.Options
import DiagramWeave.Decimal.Integer

/-!
# Commands

The program has three commands: `render` rewrites a document, `scan` lists its blocks, and `encode` gives
the token of a text. In front of the command stand options for the whole program. They are looked at
first, then the name of the command, then the level of the log, and the words of the command last.
-/
namespace DiagramWeave.CommandLine

/-- The options of the whole program. -/
inductive ProgramOption where
  | version
  | logLevel
  | help
  deriving DecidableEq, Repr

/-- Their forms. -/
def programForms : List (OptionForm ProgramOption) := [
  ⟨.version, "--version", some 'v', false⟩, ⟨.logLevel, "--log-level", none, true⟩,
  ⟨.help, "--help", none, false⟩]

/-- The options of a command. -/
inductive CommandOption where
  | output
  | config
  | mode
  | command
  | server
  | outputDir
  | baseRef
  | format
  | workers
  | help
  deriving DecidableEq, Repr

/-- The option that asks for help. -/
def helpForm : OptionForm CommandOption :=
  ⟨.help, "--help", none, false⟩

/-- The option for the format of blocks that name none. -/
def formatForm : OptionForm CommandOption :=
  ⟨.format, "--format", some 'f', true⟩

/-- The forms of the options of `render`. -/
def renderForms : List (OptionForm CommandOption) := [
  ⟨.output, "--output", some 'o', true⟩, ⟨.config, "--config", some 'c', true⟩,
  ⟨.mode, "--mode", some 'm', true⟩, ⟨.command, "--exec", none, true⟩,
  ⟨.server, "--server", some 's', true⟩, ⟨.outputDir, "--output-dir", some 'd', true⟩,
  ⟨.baseRef, "--base-ref", none, true⟩, formatForm, ⟨.workers, "--max-concurrent", none, true⟩, helpForm]

/-- The forms of the options of `scan`. -/
def scanForms : List (OptionForm CommandOption) := [formatForm, helpForm]

/-- The forms of the options of `encode`. -/
def encodeForms : List (OptionForm CommandOption) := [helpForm]

/-- What `render` is to do. What is not given is left to the option file. -/
structure RenderTask where
  /-- A file, or a hyphen for standard input. -/
  input : String
  /-- The file that is written; without one it is standard output. -/
  output : Option String
  config : Option String
  mode : Option String
  command : Option String
  server : Option String
  outputDir : Option String
  baseRef : Option String
  format : Option String
  workers : Option Int

inductive Command where
  | render (task : RenderTask)
  | scan (input format : String)
  /-- Without a text, standard input is encoded. -/
  | encode (text : Option String)

/-- Why a command line leads to no command. -/
inductive Stop where
  | misused
  | helpWanted
  | versionWanted
  | unknownLevel
  deriving DecidableEq, Repr

/-! ## Levels -/

/-- The levels that a log can be cut at, with their weights. -/
def levelWeights : List (String × Nat) := [
  ("TRACE", 5), ("DEBUG", 10), ("INFO", 20), ("SUCCESS", 25), ("WARNING", 30), ("ERROR", 40),
  ("CRITICAL", 50)]

/-- The capitals of a letter, where they are letters of ASCII. -/
def capitals (c : Char) : List Char :=
  if c = 'ß' then ['S', 'S'] else if c = 'ſ' then ['S'] else if c = 'ı' then ['I'] else [c.toUpper]

/-- The weight of a level, whose name may be in letters of either case. -/
def levelWeight? (name : String) : Option Nat :=
  let capital := String.ofList (name.toList.flatMap capitals)
  (levelWeights.find? fun level => level.1 == capital).map (·.2)

/-- The level of a log when none is given. -/
def usualLevel : String := "WARNING"

/-! ## Reading -/

/-- Sorts out the words of a command and stops where help is wanted. -/
def sortCommand (forms : List (OptionForm CommandOption)) (words : List String) :
    Except Stop (Sorted CommandOption) :=
  match sortWords? forms true words with
  | none => .error .misused
  | some sorted => if sorted.has .help then .error .helpWanted else .ok sorted

/-- The number of an option that takes an integer. -/
def integerOption (sorted : Sorted CommandOption) (key : CommandOption) : Except Stop (Option Int) :=
  match sorted.value? key with
  | none => .ok none
  | some text =>
    match Decimal.integer? 10 text.toList with
    | some number => .ok (some number)
    | none => .error .misused

/-- Reads the words of `render`. -/
def readRender (words : List String) : Except Stop Command := do
  let sorted ← sortCommand renderForms words
  let workers ← integerOption sorted .workers
  match sorted.operands with
  | [input] => return .render ⟨input, sorted.value? .output, sorted.value? .config, sorted.value? .mode,
      sorted.value? .command, sorted.value? .server, sorted.value? .outputDir, sorted.value? .baseRef,
      sorted.value? .format, workers⟩
  | _ => throw .misused

/-- Reads the words of `scan`. -/
def readScan (words : List String) : Except Stop Command := do
  let sorted ← sortCommand scanForms words
  match sorted.operands with
  | [input] => return .scan input ((sorted.value? .format).getD "png")
  | _ => throw .misused

/-- Reads the words of `encode`. -/
def readEncode (words : List String) : Except Stop Command := do
  let sorted ← sortCommand encodeForms words
  match sorted.operands with
  | [] => return .encode none
  | [text] => return .encode (some text)
  | _ => throw .misused

/-- How the words of a command are read. -/
def readerOf? (name : String) : Option (List String → Except Stop Command) :=
  if name = "render" then some readRender
  else if name = "scan" then some readScan
  else if name = "encode" then some readEncode
  else none

/-- Sorts out the options of the whole program. Of version and help, the first one given is heeded. -/
def sortProgram (words : List String) : Except Stop (Sorted ProgramOption) :=
  match sortWords? programForms false words with
  | none => .error .misused
  | some sorted =>
    match sorted.options.find? fun option => option.key != .logLevel with
    | some ⟨.version, _⟩ => .error .versionWanted
    | some _ => .error .helpWanted
    | none => .ok sorted

/-- A command and the weight that log records must have to be shown. -/
structure Call where
  threshold : Nat
  command : Command

/-- Reads a command line. A word in the place of the command that names none may still be an option of the
    whole program, if two hyphens stand before it. -/
def Call.read (words : List String) : Except Stop Call := do
  let sorted ← sortProgram words
  match sorted.operands with
  | [] => throw .misused
  | name :: rest =>
    match readerOf? name with
    -- The word may be an option after all: version and help are heeded even here.
    | none =>
      let _ ← sortProgram (name :: rest)
      throw .misused
    | some reader =>
      match levelWeight? ((sorted.value? .logLevel).getD usualLevel) with
      | none => throw .unknownLevel
      | some threshold => return ⟨threshold, ← reader rest⟩

end DiagramWeave.CommandLine
