import DiagramWeave.CommandLine.Command
import DiagramWeave.Config.Load
import DiagramWeave.Console.Table
import DiagramWeave.Pipeline

/-!
# Running a command

Results go to standard output, everything else to the error stream. A document is written only when the
whole run has succeeded. Failures that the program foresees are reported in one line, with user text made
safe for the terminal where it comes from an error; the path of an unreadable document and that of the
written one are shown as they were given. The exit code tells what failed.
-/
namespace DiagramWeave.CommandLine

/-- How a run ends. -/
inductive Ending where
  | success
  /-- The configuration or the document cannot be used. -/
  | unusable
  /-- The document cannot be rendered or rewritten. -/
  | failed
  | misused
  /-- Something that no part of the program foresees. -/
  | broken (fault : Breakdown)
  /-- A line that the terminal cannot show. -/
  | unshowable (fault : Console.MarkupFault)

/-- The exit code of an ending. -/
def Ending.exitCode : Ending → Nat
  | success => 0
  | unusable => 1
  | failed => 2
  | misused => 2
  | broken _ => 1
  | unshowable _ => 1

/-- The kind of what broke a run. -/
def Ending.faultKind? : Ending → Option String
  | broken fault => some fault.kind
  | unshowable _ => some "MarkupError"
  | _ => none

/-- What a run shows. -/
structure Report where
  ending : Ending
  /-- Records of the log that weigh less are not shown. -/
  threshold : Nat
  output : String
  /-- What stands on the error stream behind the log. -/
  notice : String

/-- What a run gets from its terminal. -/
structure Terminal where
  /-- The width in cells. -/
  width : Nat
  /-- All of standard input. -/
  input : String

/-! ## The error stream -/

/-- The weight of a level. -/
def weight (level : Level) : Nat :=
  ((levelWeights.find? fun entry => entry.1 == level.name).map (·.2)).getD 0

/-- The width of the names of levels in the log. -/
def levelWidth : Nat := 8

/-- The line of a record. -/
def logLine (time : String) (record : LogRecord) : String :=
  let name := record.level.name
  let spaces := String.ofList (List.replicate (levelWidth - name.length) ' ')
  s!"{time} | {name}{spaces} | {record.message}\n"

/-- What the error stream shows: the records that weigh enough, and the notice. -/
def Report.errors (report : Report) (time : String) (log : List LogRecord) : String :=
  let records := log.filter fun record => report.threshold ≤ weight record.level
  String.join (records.map (logLine time)) ++ report.notice

/-- A report with a line of markup as its notice. -/
def noticed (terminal : Terminal) (threshold : Nat) (ending : Ending) (markup : String) : Report :=
  match Console.print terminal.width markup with
  | .ok notice => ⟨ending, threshold, "", notice⟩
  | .error fault => ⟨.unshowable fault, threshold, "", ""⟩

/-- The report of a failed run. -/
def failureReport (terminal : Terminal) (threshold : Nat) (failure : Failure) : Report :=
  match failure with
  | .breakdown fault => ⟨.broken fault, threshold, "", ""⟩
  | .configuration error =>
    noticed terminal threshold .unusable s!"[red]Configuration error:[/red] {Console.escape error.message}"
  | failure => noticed terminal threshold .failed s!"[red]Error:[/red] {Console.escape failure.message}"

/-! ## Documents -/

/-- The name of standard input. -/
def standardInput : String := "-"

/-- Standard input as text. -/
def Terminal.text (terminal : Terminal) : String :=
  String.ofList (unifyBreaks terminal.input.toList)

/-- The document of a name, or the report that there is none. -/
def readDocument (terminal : Terminal) (threshold : Nat) (name : String) : Action (Except Report String) := do
  if name = standardInput then return .ok terminal.text
  else
    match ← World.readText (FilePath.ofText name) with
    | .ok text => return .ok text
    | .error .undecodable => return .error ⟨.broken .undecodable, threshold, "", ""⟩
    | .error (.unreadable .nullCharacter) =>
      return .error ⟨.broken (.disk .nullCharacter), threshold, "", ""⟩
    | .error (.unreadable fault) =>
      let cause := Console.escape fault.text
      return .error (noticed terminal threshold .unusable s!"[red]Error:[/red] cannot read {name}: {cause}")

/-- Writes a result to a file, or to standard output without one. -/
def publish (terminal : Terminal) (threshold : Nat) (output : Option String) (result : String) :
    Action Report := do
  match output with
  | none => return ⟨.success, threshold, result, ""⟩
  | some name =>
    let path := FilePath.ofText name
    match ← World.writeFile path result.toUTF8 with
    | .ok _ => return noticed terminal threshold .success s!"Wrote {path.text}"
    | .error fault => return ⟨.broken (.disk fault), threshold, "", ""⟩

/-! ## Commands -/

/-- The options of a task, null where they are not given. -/
def RenderTask.overrides (task : RenderTask) : Entries :=
  let text (value : Option String) : Value := value.elim .null .text
  [("output_mode", text task.mode), ("exec", text task.command), ("server_url", text task.server),
    ("output_dir", text task.outputDir), ("base_ref", text task.baseRef),
    ("image_format", text task.format), ("max_concurrent", task.workers.elim .null .int)]

/-- Rewrites a document. The configuration comes first, then the document. -/
def runRender (terminal : Terminal) (threshold : Nat) (task : RenderTask) : Action Report := do
  match ← loadConfig task.config task.overrides with
  | .error failure => return failureReport terminal threshold failure
  | .ok config =>
    -- The document is read only when it is known what is to be done with it.
    match ← readDocument terminal threshold task.input with
    | .error report => return report
    | .ok text =>
      match ← preprocess config HttpClient.shared text with
      | .error failure => return failureReport terminal threshold failure
      | .ok result => publish terminal threshold task.output result

/-- The columns of the list of blocks. -/
def blockColumns : List Console.Column := [
  ⟨"#", .right⟩, ⟨"Title", .left⟩, ⟨"Format", .left⟩, ⟨"Lines", .right⟩]

/-- The row of a block. Its format is shown as markup. -/
def blockRow (block : Block) : Except Console.MarkupFault (List (List Char)) := do
  let title ← Console.shown (Console.escape block.title)
  let format ← Console.shown block.extension
  let lines := (Text.lines block.payload.toList).length
  return [(toString (block.index + 1)).toList, title, format, (toString lines).toList]

/-- The list of blocks. -/
def blockTable (blocks : List Block) : Except Console.MarkupFault String := do
  let rows ← blocks.mapM blockRow
  return Console.table s!"{blocks.length} PlantUML block(s)".toList blockColumns rows

/-- Lists the blocks of a document. -/
def runScan (terminal : Terminal) (threshold : Nat) (input format : String) : Action Report := do
  match ← readDocument terminal threshold input with
  | .error report => return report
  | .ok text =>
    let blocks ← scanLogged text format
    if blocks.isEmpty then return ⟨.success, threshold, "No PlantUML blocks found.\n", ""⟩
    else
      match blockTable blocks with
      | .ok shown => return ⟨.success, threshold, shown, ""⟩
      | .error fault => return ⟨.unshowable fault, threshold, "", ""⟩

/-- Runs a command. -/
def Call.run (terminal : Terminal) (call : Call) : Action Report :=
  match call.command with
  | .render task => runRender terminal call.threshold task
  | .scan input format => runScan terminal call.threshold input format
  | .encode text => return ⟨.success, call.threshold, encode (text.getD terminal.text) ++ "\n", ""⟩

/-- How the program is used. -/
def usage : String :=
  "Usage: plantmark [--version] [--log-level LEVEL] COMMAND [ARGS]\n\n" ++
  "Commands:\n" ++
  "  render INPUT [-o FILE] [-c FILE] [-m MODE] [--exec COMMAND] [-s URL] [-d DIRECTORY]\n" ++
  "         [--base-ref REF] [-f FORMAT] [--max-concurrent NUMBER]\n" ++
  "  scan INPUT [-f FORMAT]\n" ++
  "  encode [TEXT]\n"

/-- The report of a command line that leads to no command. -/
def stopReport : Stop → Report
  | .misused => ⟨.misused, 0, "", usage⟩
  | .helpWanted => ⟨.success, 0, usage, ""⟩
  | .versionWanted => ⟨.success, 0, s!"plantmark {programVersion}\n", ""⟩
  | .unknownLevel => ⟨.broken .unknownLevel, 0, "", ""⟩

/-- Runs a command line. -/
def run (terminal : Terminal) (words : List String) : Action Report :=
  match Call.read words with
  | .ok call => call.run terminal
  | .error stop => return stopReport stop

end DiagramWeave.CommandLine
