import DiagramWeave.Config.Options
import DiagramWeave.World.TextFile
import DiagramWeave.Yaml.Construct

/-!
# Loading a configuration

Options come from a file and from the caller, who has the last word. The file is the one that is named, or
else the one that the environment names, or else the usual file of the working directory, if there is one.
Texts in the file may refer to environment variables; the caller's are taken as they are.
-/
namespace DiagramWeave

/-- The variable that names the option file. -/
def configVariable : String := "PLANTMARK_CONFIG"

/-- The usual option file. -/
def usualConfigName : String := ".plantmark.yaml"

/-- The entry of an option file under which its options may stand. -/
def nestedName : String := "plantuml"

mutual

/-- A value with the references in its texts replaced. Names of entries are left alone. -/
def expandValue (environment : Environment) : Value → Except Failure Value
  | .text content =>
    match expand environment content with
    | .ok expanded => .ok (.text expanded)
    | .error names => .error (.configuration (.missingVariables names))
  | .list items => (expandItems environment items).map .list
  | .mapping entries => (expandEntries environment entries).map .mapping
  | .circle => .error (.breakdown .endlessValue)
  | value => .ok value

/-- The items of a list with the references in their texts replaced. -/
def expandItems (environment : Environment) : List Value → Except Failure (List Value)
  | [] => .ok []
  | item :: items => do
    let item ← expandValue environment item
    let items ← expandItems environment items
    return item :: items

/-- The entries of a mapping with the references in the texts of their values replaced. -/
def expandEntries (environment : Environment) :
    List (Value × Value) → Except Failure (List (Value × Value))
  | [] => .ok []
  | (name, value) :: entries => do
    let value ← expandValue environment value
    let entries ← expandEntries environment entries
    return (name, value) :: entries

end

/-- The value under a text in a mapping. -/
def valueUnder? (entries : List (Value × Value)) (name : String) : Option Value :=
  (entries.find? fun entry => entry.1.text? == some name).map (·.2)

/-- The options of a file: what stands under the nested entry if that is a mapping, or else all of it. -/
def optionsOf (entries : List (Value × Value)) : List (Value × Value) :=
  match valueUnder? entries nestedName with
  | some (.mapping nested) => nested
  | _ => entries

/-- Named values; names must be texts. -/
def named? : List (Value × Value) → Option Entries
  | [] => some []
  | (name, value) :: rest => do return (← name.text?, value) :: (← named? rest)

/-- The options in the text of an option file. -/
def parseOptions (path : FilePath) (text : String) : Except Failure (List (Value × Value)) :=
  match Yaml.read text.toList with
  | .ok .null => .ok []
  | .ok (.mapping entries) => .ok (optionsOf entries)
  | .ok _ => .error (.configuration (.notMapping path))
  | .error .malformed => .error (.configuration (.badMarkup path))
  | .error fault => .error (.breakdown (.markup fault))

/-- The options in a file. -/
def readOptions (path : FilePath) : Action (Except Failure (List (Value × Value))) := do
  let world ← get
  match world.disk.exists? world.home path with
  | .error fault => return .error (.breakdown (.disk fault))
  | .ok false => return .error (.configuration (.fileNotFound path))
  | .ok true =>
    match ← World.readText path with
    | .error (.unreadable fault) => return .error (.configuration (.unreadable path fault.text))
    | .error .undecodable => return .error (.breakdown .undecodable)
    | .ok text => return parseOptions path text

/-- The option file that applies, if there is one. -/
def chooseFile (named : Option String) : Action (Except DiskFault (Option FilePath)) := do
  let world ← get
  match named with
  | some name => return .ok (some (FilePath.ofText name))
  | none =>
    match world.environment.get? configVariable with
    -- An empty variable names no file.
    | some name =>
      if name.isEmpty then return usual world else return .ok (some (FilePath.ofText name))
    | none => return usual world
where
  /-- The usual file, if it exists. -/
  usual (world : World) : Except DiskFault (Option FilePath) :=
    let path := world.homePath.join (FilePath.ofText usualConfigName)
    (world.disk.exists? world.home path).map fun found => if found then some path else none

/-- The options of the file that applies, their references replaced. -/
def fileOptions (named : Option String) : Action (Except Failure (List (Value × Value))) := do
  match ← chooseFile named with
  | .error fault => return .error (.breakdown (.disk fault))
  | .ok none =>
    World.debug "No config file found, using defaults"
    return .ok []
  | .ok (some path) =>
    World.debug s!"Loading config from {path.text}"
    match ← readOptions path with
    | .error failure => return .error failure
    | .ok entries => return expandEntries (← get).environment entries

/-- The configuration of the options of a file and of the caller. -/
def combine (home : FilePath) (fromFile : List (Value × Value)) (overrides : Entries) :
    Except Failure Config :=
  match named? fromFile with
  | none => .error (.breakdown .unnamedOption)
  | some options =>
    match Config.ofOptions home (options.update overrides.present) with
    | .ok config => .ok config
    | .error error => .error (.configuration error)

/-- Loads the configuration: the named file's options, or those of the file that applies otherwise, and
    over them the caller's. -/
def loadConfig (named : Option String) (overrides : Entries) : Action (Except Failure Config) := do
  match ← fileOptions named with
  | .error failure => return .error failure
  | .ok fromFile =>
    match combine (← get).homePath fromFile overrides with
    | .error failure => return .error failure
    | .ok config =>
      World.debug s!"Config resolved: strategy={config.strategy.name}"
      return .ok config

end DiagramWeave
