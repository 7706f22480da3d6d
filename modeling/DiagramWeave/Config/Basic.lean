import DiagramWeave.Block.Basic
import DiagramWeave.FilePath
import DiagramWeave.Shell
import DiagramWeave.Value

/-!
# Configurations

A configuration says how the blocks of a document become images: by a local command, by images fetched
from a render server, or by links to one. A configuration is made from options, and the way images are
made is settled when the options are read, so an impossible combination never reaches a document.
-/
namespace DiagramWeave

/-- What a document refers to: image files, or the pages of a render server. -/
inductive OutputMode where
  | image
  | urlOnly
  deriving DecidableEq, Repr

/-- The name of a mode. -/
def OutputMode.name : OutputMode → String
  | image => "image"
  | urlOnly => "url-only"

/-- How images are made. -/
inductive Strategy where
  | localCommand
  | remoteFetch
  | remoteUrl
  deriving DecidableEq, Repr

/-- The name of a strategy. -/
def Strategy.name : Strategy → String
  | localCommand => "local"
  | remoteFetch => "remote-fetch"
  | remoteUrl => "remote-url"

/-- Valid options. -/
structure Config where
  outputMode : OutputMode
  /-- The command line of the local tool. -/
  command : Option String
  /-- The render server, without slashes at its end. -/
  server : Option String
  outputDir : FilePath
  /-- What stands before the file name in a reference. -/
  baseRef : String
  /-- The format of blocks that name none. -/
  format : ImageFormat
  /-- The longest time in seconds that one image may take. -/
  timeout : Float
  /-- How many images may be made at once. -/
  workers : Nat
  strategy : Strategy

/-- Why the value of one option is refused. -/
inductive OptionFault where
  | unknownMode
  | notText
  | notUnicode
  | commandSyntax (line : String) (fault : Shell.Fault)
  | noCommand (line : String)
  | notPath
  | unknownFormat (name : String)
  | notNumber
  | noNumeral
  | notInteger
  | noIntegerNumeral
  | fractional
  | notFinite
  | tooLong
  | tooSmall
  | tooLarge (limit : Nat)
  | unknownOption
  deriving DecidableEq, Repr

/-- The text of a fault. -/
def OptionFault.message : OptionFault → String
  | unknownMode => "Input should be 'image' or 'url-only'"
  | notText => "Input should be a valid string"
  | notUnicode => "Input should be a valid string, unable to parse raw data as a unicode string"
  | commandSyntax line fault => "Cannot parse exec '" ++ line ++ "': " ++ fault.message
  | noCommand line => "exec '" ++ line ++ "' names no command"
  | notPath => "Input is not a valid path for <class 'pathlib.Path'>"
  | unknownFormat name =>
    "Unknown image format '" ++ name ++ "'. Supported: " ++
      ", ".intercalate (ImageFormat.all.map ImageFormat.name)
  | notNumber => "Input should be a valid number"
  | noNumeral => "Input should be a valid number, unable to parse string as a number"
  | notInteger => "Input should be a valid integer"
  | noIntegerNumeral => "Input should be a valid integer, unable to parse string as an integer"
  | fractional => "Input should be a valid integer, got a number with a fractional part"
  | notFinite => "Input should be a finite number"
  | tooLong => "Unable to parse input string as an integer, exceeded maximum size"
  | tooSmall => "Input should be greater than or equal to 1"
  | tooLarge limit => "Input should be less than or equal to " ++ toString limit
  | unknownOption => "Extra inputs are not permitted"

/-- Why there is no configuration. -/
inductive ConfigError where
  /-- Options with their faults, one at least. -/
  | badOptions (faults : List (String × OptionFault))
  | linksNeedServer
  | imagesNeedSource
  | missingVariables (names : List String)
  | fileNotFound (path : FilePath)
  | unreadable (path : FilePath) (cause : String)
  | badMarkup (path : FilePath)
  | notMapping (path : FilePath)
  deriving DecidableEq, Repr

/-- The text of one refused option; an option without a name is not named. -/
def faultLine (fault : String × OptionFault) : String :=
  if fault.1.isEmpty then fault.2.message else fault.1 ++ ": " ++ fault.2.message

/-- The text of a configuration error. -/
def ConfigError.message : ConfigError → String
  | badOptions faults => "Invalid configuration: " ++ "; ".intercalate (faults.map faultLine)
  | linksNeedServer => "Invalid configuration: output_mode 'url-only' requires server_url"
  | imagesNeedSource => "Invalid configuration: output_mode 'image' requires exec or server_url"
  | missingVariables names =>
    "Missing environment variables: " ++ ", ".intercalate names ++
      ". Set them or use $\x7bVAR:-default\x7d syntax."
  | fileNotFound path => "Config file not found: " ++ path.text
  | unreadable path cause => "Error reading " ++ path.text ++ ": " ++ cause
  | badMarkup path => "Invalid YAML in " ++ path.text
  | notMapping path => "Expected a mapping in " ++ path.text

end DiagramWeave
