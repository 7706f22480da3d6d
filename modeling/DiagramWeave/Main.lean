import DiagramWeave.CommandLine.Run

/-!
# The program

The files that a command line may touch are read into a world, the command runs in that world, and what it
changed is written back. Processes are not started and requests are not sent from here: to the command they
fail. Standard input, standard output and the error stream are those of the system.
-/
namespace DiagramWeave.Program

/-- The names of the paths that a command may read or write, its option file apart. -/
def taskPaths : CommandLine.Command → List String
  | .render task => task.input :: task.output.toList ++ task.config.toList ++ task.outputDir.toList
  | .scan input _ => [input]
  | .encode _ => []

/-- The place of a path, and of every directory on the way. -/
def placesOf (home : Place) (name : String) : List Place :=
  let path := FilePath.ofText name
  let whole := if path.isAbsolute then path.names else home ++ path.names
  (List.range (whole.length + 1)).map fun count => whole.take count

/-- Looks at what stands at a place and adds it to a disk. -/
def look (disk : Disk) (place : Place) : IO Disk := do
  try
    let content ← IO.FS.readBinFile ("/" ++ "/".intercalate place)
    return disk.setFile place content
  catch
    | .inappropriateType .. => return { disk with directories := place :: disk.directories }
    | _ => return disk

/-- The variables that the texts of a disk refer to, and the one that names the option file. -/
def namedVariables (disk : Disk) : List String :=
  configVariable :: disk.files.flatMap fun (_, content) =>
    match String.fromUTF8? content with
    | some text => (Segment.ofText text.toList).filterMap (Segment.missing? [])
    | none => []

/-- The values of variables. -/
def readEnvironment (names : List String) : IO Environment :=
  names.filterMapM fun name => do return (← IO.getEnv name).map fun value => (name, value)

/-- Carries the changes of a disk out. -/
def writeBack (before after : Disk) : IO Unit := do
  for place in after.directories do
    unless before.directories.contains place do
      IO.FS.createDirAll ("/" ++ "/".intercalate place)
  for (place, content) in after.files do
    match before.at? place with
    | some (.file old) => unless old == content do IO.FS.writeBinFile ("/" ++ "/".intercalate place) content
    | _ => IO.FS.writeBinFile ("/" ++ "/".intercalate place) content

/-- The width of a terminal that does not tell its own. -/
def usualWidth : Nat := 80

/-- The world of a command line. -/
def readWorld (words : List String) : IO World := do
  let home := (FilePath.ofText (← IO.currentDir).toString).names
  let paths := match CommandLine.Call.read words with
    | .ok call => taskPaths call.command
    | .error _ => []
  let options := (← IO.getEnv configVariable).toList
  let places := (usualConfigName :: options ++ paths).flatMap (placesOf home)
  let disk ← places.eraseDups.foldlM look ⟨[], []⟩
  return {
    home := home
    environment := ← readEnvironment (namedVariables disk).eraseDups
    disk := disk
    runProcess := fun _ => .failed "processes cannot be started"
    answerRequest := fun _ => .failed "requests cannot be sent"
    deleteFault := none
    temporaryFault := none
    randomNames := fun number => toString number
    drawnNames := 0
    clock := fun _ => 0.0
    readings := 0
    processes := []
    requests := []
    log := [] }

/-- The standard input of a command line, if it is asked for. -/
def readInput (words : List String) : IO String := do
  match CommandLine.Call.read words with
  | .ok ⟨_, .encode none⟩ => (← IO.getStdin).readToEnd
  | .ok ⟨_, .encode (some _)⟩ => return ""
  | .ok ⟨_, .render task⟩ =>
    if task.input = CommandLine.standardInput then (← IO.getStdin).readToEnd else return ""
  | .ok ⟨_, .scan input _⟩ =>
    if input = CommandLine.standardInput then (← IO.getStdin).readToEnd else return ""
  | .error _ => return ""

end DiagramWeave.Program

open DiagramWeave in
/-- Runs the command line. -/
def main (words : List String) : IO UInt32 := do
  let before ← Program.readWorld words
  let width := ((← IO.getEnv "COLUMNS").bind String.toNat?).getD Program.usualWidth
  let input ← Program.readInput words
  let (report, after) := (CommandLine.run ⟨width, input⟩ words).run before
  Program.writeBack before.disk after.disk
  IO.print report.output
  IO.eprint (report.errors "00:00:00.000" after.log)
  match report.ending.faultKind? with
  | some kind => IO.eprintln kind
  | none => pure ()
  return UInt32.ofNat report.ending.exitCode
