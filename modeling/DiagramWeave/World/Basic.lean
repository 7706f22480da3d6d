import DiagramWeave.Environment
import DiagramWeave.Failure
import DiagramWeave.World.Span

/-!
# The world of a run

What a run can see and change: files, the environment, processes, the network, a clock, and the log. How
processes and servers answer is part of the world, and so is a record of everything that was asked of
them. A computation that touches the world is a function from a world to a result and the world after it.
-/
namespace DiagramWeave

/-- A process that was started. -/
structure ProcessCall where
  arguments : List String
  /-- The file that it reads. -/
  input : FilePath
  /-- What that file holds. -/
  source : String
  directory : FilePath
  timeout : Float

/-- How a process ends. -/
inductive ProcessResult where
  | exited (code : Int) (output errors : Option String) (removesInput : Bool)
  | notFound
  | timedOut
  | failed (cause : String)

/-- A request that was sent. -/
structure Request where
  url : String
  timeout : Float

/-- What comes back for a request. -/
inductive Response where
  | answer (status : Nat) (location : Option String) (body : ByteArray)
  | failed (cause : String)

/-- How a write breaks off. -/
structure BrokenWrite where
  /-- How many bytes are in the file by then. -/
  written : Nat
  cause : String

structure World where
  /-- The working directory. -/
  home : Place
  environment : Environment
  disk : Disk
  /-- How processes end. -/
  runProcess : ProcessCall → ProcessResult
  /-- What servers answer. -/
  answerRequest : String → Response
  /-- Why temporary files cannot be deleted, if they cannot. -/
  deleteFault : Option String
  /-- Why temporary files cannot be made, if they cannot. -/
  temporaryFault : Option String
  /-- How the write into a temporary file that was made breaks off, if it does. -/
  brokenWrite : FilePath → Option BrokenWrite := fun _ => none
  /-- The random parts of temporary file names. -/
  randomNames : Nat → String
  drawnNames : Nat
  /-- The readings of the clock in seconds. -/
  clock : Nat → Float
  readings : Nat
  processes : List ProcessCall
  requests : List Request
  log : List LogRecord

/-- A computation in the world. -/
abbrev Action (α : Type) := StateM World α

namespace World

/-- The working directory as a path. -/
def homePath (world : World) : FilePath :=
  ⟨.single, world.home⟩

/-- Reads the clock. -/
def readClock : Action Float := do
  let world ← get
  set { world with readings := world.readings + 1 }
  return world.clock world.readings

/-- Adds a record to the log. -/
def note (record : LogRecord) : Action Unit :=
  modify fun world => { world with log := world.log ++ [record] }

/-- Notes a detail of the run. -/
def debug (message : String) : Action Unit :=
  note ⟨.debug, message⟩

/-- Notes what should not have happened. -/
def warn (message : String) : Action Unit :=
  note ⟨.warning, message⟩

/-- The disk after a process, which may have removed its input. -/
def diskAfter (world : World) (call : ProcessCall) (result : ProcessResult) : Disk :=
  match result, world.disk.locate world.home call.input with
  | .exited _ _ _ true, .ok place => world.disk.removeFile place
  | _, _ => world.disk

/-- The disk after a write into a file that is open. A file that was removed does not come back. -/
def diskFilled (world : World) (path : FilePath) (content : ByteArray) : Disk :=
  match world.disk.locate world.home path with
  | .error _ => world.disk
  | .ok place =>
    match world.disk.at? place with
    | some (.file _) => world.disk.setFile place content
    | _ => world.disk

/-- Starts a process and waits for its end. -/
def start (call : ProcessCall) : Action ProcessResult := do
  let world ← get
  let result := world.runProcess call
  set { world with processes := world.processes ++ [call], disk := world.diskAfter call result }
  return result

/-- Sends a request. -/
def send (request : Request) : Action Response := do
  modify fun world => { world with requests := world.requests ++ [request] }
  return (← get).answerRequest request.url

/-- Makes a directory and those on the way to it. -/
def makeDirectories (path : FilePath) : Action (Except DiskFault Unit) := do
  let world ← get
  let (disk, fault) := world.disk.makeDirectories world.home path (path.names.length + 1)
  set { world with disk := disk }
  return fault.elim (.ok ()) .error

/-- Writes a file. -/
def writeFile (path : FilePath) (content : ByteArray) : Action (Except DiskFault Unit) := do
  let world ← get
  match world.disk.write world.home path content with
  | .ok disk =>
    set { world with disk := disk }
    return .ok ()
  | .error fault => return .error fault

/-- The bytes of a file. -/
def readFile (path : FilePath) : Action (Except DiskFault ByteArray) := do
  let world ← get
  return world.disk.read world.home path

/-- The text of a file as a process reads it. Without a file in UTF-8 there is no text. -/
def textAt (path : FilePath) : Action String := do
  match ← readFile path with
  | .ok content => return (String.fromUTF8? content).getD ""
  | .error _ => return ""

/-- Does a piece of work in a span. The work gets the span and hands it back with its attributes;
    `failureOf` tells from the result how it failed. All failures are errors, and the integers among the
    attributes are counts and codes, which are short enough to be written. -/
def inSpan {α : Type} (name : String) (attributes : Entries) (failureOf : α → Option Failure)
    (work : Span → Action (α × Span)) : Action α := do
  let start ← readClock
  let (result, span) ← work ⟨name, attributes⟩
  let stop ← readClock
  note (span.record start stop ((failureOf result).map Failure.logged))
  return result

/-- How a result that may be a failure failed. -/
def failureOf {α : Type} (result : Except Failure α) : Option Failure :=
  match result with
  | .ok _ => none
  | .error failure => some failure

end World

end DiagramWeave
