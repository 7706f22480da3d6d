import DiagramWeave.Config.Coerce

/-!
# From options to a configuration

Every option is read on its own, and all faults are reported together: those of the known options in the
order of their fields, then the unknown options in the order in which they were given. Only when no option
is at fault is the strategy settled.
-/
namespace DiagramWeave

namespace Config

/-- The names of the options in the order of their fields. -/
def optionNames : List String :=
  ["output_mode", "exec", "server_url", "output_dir", "base_ref", "image_format", "timeout",
    "max_concurrent"]

/-- The mode of a value: names are read without blanks around them and in any case, and the links mode
    has two shorter names. -/
def readMode : Value → Except OptionFault OutputMode
  | .text content =>
    let name := String.ofList (Text.lower (Text.trim Text.isBlank content.toList))
    if name = "image" then .ok .image
    else if name = "url-only" ∨ name = "url" ∨ name = "url_only" then .ok .urlOnly
    else .error .unknownMode
  | _ => .error .unknownMode

/-- A text of blanks only. -/
def isBlankText : Value → Bool
  | .text content => Text.allBlank content.toList
  | _ => false

/-- The command line of a value. A blank text stands for none; any other must have a first word. -/
def readCommand (value : Value) : Except OptionFault (Option String) :=
  if isBlankText value then .ok none
  else do
    let line ← Coerce.text value
    match Shell.words line with
    | .error fault => .error (.commandSyntax line fault)
    | .ok words =>
      if words.head?.all String.isEmpty then .error (.noCommand line) else .ok (some line)

/-- The server of a value, without slashes at its end. A blank text stands for none. -/
def readServer (value : Value) : Except OptionFault (Option String) :=
  if isBlankText value then .ok none
  else (Coerce.text value).map fun server =>
    some (String.ofList (Text.trimEnd (· == '/') server.toList))

/-- The format of a value, in letters of either case and with or without points before it. -/
def readFormat (value : Value) : Except OptionFault ImageFormat := do
  let text ← Coerce.text value
  let name := String.ofList ((Text.lower text.toList).dropWhile (· == '.'))
  match ImageFormat.ofName? name with
  | some format => .ok format
  | none => .error (.unknownFormat name)

/-- The longest timeout in seconds. -/
def timeoutLimit : Nat := 600

/-- The timeout of a value: one second at least. What is not a number is too large. -/
def readTimeout (value : Value) : Except OptionFault Float := do
  let seconds ← Coerce.number value
  if !(seconds ≤ 600.0) then .error (.tooLarge timeoutLimit)
  else if seconds < 1.0 then .error .tooSmall
  else .ok seconds

/-- The greatest number of workers. -/
def workersLimit : Nat := 64

/-- The number of workers of a value. -/
def readWorkers (value : Value) : Except OptionFault Nat := do
  let count ← Coerce.integer value
  if (workersLimit : Int) < count then .error (.tooLarge workersLimit)
  else if count < 1 then .error .tooSmall
  else .ok count.toNat

/-- How images are made. The links mode needs a server; image files come from the local command before
    they come from a server. -/
def chooseStrategy (mode : OutputMode) (command server : Option String) : Except ConfigError Strategy :=
  match mode, command, server with
  | .urlOnly, _, some _ => .ok .remoteUrl
  | .urlOnly, _, none => .error .linksNeedServer
  | .image, some _, _ => .ok .localCommand
  | .image, none, some _ => .ok .remoteFetch
  | .image, none, none => .error .imagesNeedSource

/-- The fault of an option that could not be read. -/
def faultOf {α : Type} (name : String) (read : Except OptionFault α) : List (String × OptionFault) :=
  match read with
  | .ok _ => []
  | .error fault => [(name, fault)]

/-- The unknown options. -/
def unknownOptions (options : Entries) : List (String × OptionFault) :=
  (options.filter fun entry => !optionNames.contains entry.1).map fun entry => (entry.1, .unknownOption)

/-- An option as read, or its default when it is not given. -/
def readOr {α : Type} (options : Entries) (name : String) (fallback : α)
    (read : Value → Except OptionFault α) : Except OptionFault α :=
  (options.get? name).elim (.ok fallback) read

/-- The configuration of options. Options that are null count as not given; images go to `home` unless an
    option says otherwise. -/
def ofOptions (home : FilePath) (given : Entries) : Except ConfigError Config :=
  let options := given.present
  let mode := readOr options "output_mode" .image readMode
  let command := readOr options "exec" none readCommand
  let server := readOr options "server_url" none readServer
  let outputDir := readOr options "output_dir" home Coerce.path
  let baseRef := readOr options "base_ref" "." Coerce.text
  let format := readOr options "image_format" .png readFormat
  let timeout := readOr options "timeout" 60.0 readTimeout
  let workers := readOr options "max_concurrent" 4 readWorkers
  -- All options have been read by now, so a fault of one hides none of another.
  match mode, command, server, outputDir, baseRef, format, timeout, workers, unknownOptions options with
  | .ok mode, .ok command, .ok server, .ok outputDir, .ok baseRef, .ok format, .ok timeout, .ok workers,
      [] =>
    (chooseStrategy mode command server).map fun strategy =>
      ⟨mode, command, server, outputDir, baseRef, format, timeout, workers, strategy⟩
  | mode, command, server, outputDir, baseRef, format, timeout, workers, unknown =>
    .error (.badOptions (faultOf "output_mode" mode ++ faultOf "exec" command ++
      faultOf "server_url" server ++ faultOf "output_dir" outputDir ++ faultOf "base_ref" baseRef ++
      faultOf "image_format" format ++ faultOf "timeout" timeout ++ faultOf "max_concurrent" workers ++
      unknown))

/-- The options that say what a configuration says. -/
def toOptions (config : Config) : Entries := [
  ("output_mode", .text config.outputMode.name),
  ("exec", config.command.elim .null .text),
  ("server_url", config.server.elim .null .text),
  ("output_dir", .text config.outputDir.text),
  ("base_ref", .text config.baseRef),
  ("image_format", .text config.format.name),
  ("timeout", .float config.timeout),
  ("max_concurrent", .int config.workers)]

end Config

end DiagramWeave
