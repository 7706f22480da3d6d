import DiagramWeave.Config.Basic
import DiagramWeave.Decimal.Shortest
import DiagramWeave.Rewrite
import DiagramWeave.World.Disk
import DiagramWeave.Yaml.Token

/-!
# Failures

A run fails by an error that it foresees — in the configuration, in the rendering or in the rewriting — or
by a fault that nothing on the way handles. Every failure has a kind and a text.
-/
namespace DiagramWeave

/-- Why a block has no image. -/
inductive RenderCause where
  | noOutputDirectory (path : FilePath) (cause : String)
  | noTemporaryFile (cause : String)
  | noExecutable (command : String)
  | timedOut (seconds : Float)
  | notStarted (command cause : String)
  | exited (code : Int) (detail : String)
  | temporaryFileStays (path : FilePath) (cause : String)
  | requestFailed (server cause : String)
  | badStatus (status : Nat)
  | notWritten (path : FilePath) (cause : String)
  | assignedTwice

/-- How much of what a process said is reported. -/
def detailLimit : Nat := 500

/-- The text of a cause. -/
def RenderCause.message : RenderCause → String
  | noOutputDirectory path cause => s!"Cannot create output directory {path.text}: {cause}"
  | noTemporaryFile cause => s!"Cannot write temporary file: {cause}"
  | noExecutable command => s!"PlantUML executable not found: {command}"
  | timedOut seconds => s!"PlantUML timed out after {Decimal.render Decimal.plainNames seconds} seconds"
  | notStarted command cause => s!"Cannot run {command}: {cause}"
  | exited code detail =>
    let said := if detail.isEmpty then "" else ": " ++ String.ofList (detail.toList.take detailLimit)
    s!"PlantUML exited with code {code}{said}"
  | temporaryFileStays path cause => s!"Cannot delete temporary file {path.text}: {cause}"
  | requestFailed server cause => s!"Request to {server} failed: {cause}"
  | badStatus status => s!"Render server returned HTTP {status}"
  | notWritten path cause => s!"Cannot write {path.text}: {cause}"
  | assignedTwice => "locator assigned twice"

/-- A failed rendering, with the title of the block it failed on if it was one. -/
structure RenderError where
  title : Option String
  cause : RenderCause

/-- A message, behind the title of its block. -/
def titled (title : Option String) (message : String) : String :=
  match title with
  | some title => title ++ ": " ++ message
  | none => message

/-- The text of a rendering error. -/
def RenderError.message (error : RenderError) : String :=
  titled error.title error.cause.message

/-- Faults that nothing handles. -/
inductive Breakdown where
  | disk (fault : DiskFault)
  /-- A file that is not UTF-8. -/
  | undecodable
  | markup (fault : Yaml.Fault)
  /-- An option whose name is not text. -/
  | unnamedOption
  /-- Option values that hold themselves. -/
  | endlessValue
  | unknownLevel

inductive Failure where
  | configuration (error : ConfigError)
  | rendering (error : RenderError)
  | rewriting (error : RewriteError)
  | breakdown (breakdown : Breakdown)

namespace Breakdown

/-- The kind of a system error. -/
def systemKind : SystemCode → String
  | .noEntry => "FileNotFoundError"
  | .entryExists => "FileExistsError"
  | .notDirectory => "NotADirectoryError"
  | .isDirectory => "IsADirectoryError"
  | .nameTooLong => "OSError"

/-- The kind of a breakdown. -/
def kind : Breakdown → String
  | disk .nullCharacter => "ValueError"
  | disk (.refused code _) => systemKind code
  | undecodable => "UnicodeDecodeError"
  | markup fault =>
    match fault with
    | .emptyNumber => "IndexError"
    | .notTruthValue => "KeyError"
    | .notMoment => "AttributeError"
    | .endless => "RecursionError"
    | _ => "ValueError"
  | unnamedOption => "TypeError"
  | endlessValue => "RecursionError"
  | unknownLevel => "ValueError"

/-- The text of a breakdown, where one is shown. -/
def message : Breakdown → String
  | disk fault => fault.text
  | _ => ""

end Breakdown

namespace Failure

/-- The kind of a failure. -/
def kind : Failure → String
  | configuration _ => "ConfigurationError"
  | rendering _ => "RenderError"
  | rewriting _ => "RewriteError"
  | breakdown fault => fault.kind

/-- The text of a failure. -/
def message : Failure → String
  | configuration error => error.message
  | rendering error => error.message
  | rewriting error => error.message
  | breakdown fault => fault.message

/-- The failure as a log record shows it. -/
def logged (failure : Failure) : String :=
  failure.kind ++ ": " ++ failure.message

end Failure

end DiagramWeave
