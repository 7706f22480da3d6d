import DiagramWeave.Render.Assign
import DiagramWeave.World.Basic

/-!
# Rendering by a local command

Each block is written, delimiters included, to a temporary file in the output directory, and the command
is started on it; the tool puts the image beside its input. The file is deleted whatever came of the
command. That it could not be deleted is a failure of the block only when nothing else was. Making the file
and writing the block into it are two steps: a file whose write breaks off is not deleted.
-/
namespace DiagramWeave.LocalRender

/-- The name of a temporary file. -/
def temporaryName (index : Int) (random : String) : String :=
  s!".plantmark-{index}-{random}.puml"

/-- How many names are tried for a temporary file. -/
def attempts : Nat := 10000

/-- The path without its double points, taken as text. -/
def collapse (path : FilePath) : FilePath :=
  ⟨path.root, path.names.foldl (fun names name => if name = ".." then names.dropLast else names ++ [name]) []⟩

/-- Makes an empty temporary file under the first free name. -/
def makeFresh (directory : FilePath) (block : Block) : Nat → Action (Except String FilePath)
  | 0 => return .error "[Errno 17] No usable temporary file name found"
  | steps + 1 => do
    let world ← get
    let name := temporaryName block.index (world.randomNames world.drawnNames)
    let path : FilePath := ⟨directory.root, directory.names ++ [name]⟩
    set { world with drawnNames := world.drawnNames + 1 }
    match world.disk.locate world.home path with
    | .error fault => return .error fault.text
    | .ok place =>
      match world.disk.at? place with
      | some _ => makeFresh directory block steps
      | none =>
        match ← World.writeFile path ByteArray.empty with
        | .ok _ => return .ok path
        | .error fault => return .error fault.text

/-- Makes a temporary file for a block. -/
def makeTemporary (directory : FilePath) (block : Block) : Action (Except RenderCause FilePath) := do
  let world ← get
  match world.temporaryFault with
  | some cause => return .error (.noTemporaryFile cause)
  | none =>
    match ← makeFresh (collapse (world.homePath.join directory)) block attempts with
    | .ok path => return .ok path
    | .error cause => return .error (.noTemporaryFile cause)

/-- Writes a block into its temporary file. Where the write breaks off, the file stays with what is in it by then. -/
def fillTemporary (path : FilePath) (block : Block) : Action (Except RenderCause Unit) := do
  let world ← get
  let content := block.source.toUTF8
  match world.brokenWrite path with
  | none =>
    set { world with disk := world.diskFilled path content }
    return .ok ()
  | some broken =>
    set { world with disk := world.diskFilled path (content.extract 0 broken.written) }
    return .error (.noTemporaryFile broken.cause)

/-- Deletes a temporary file. It may be gone already. -/
def deleteTemporary (path : FilePath) : Action (Except String Unit) := do
  let world ← get
  match world.deleteFault with
  | some cause => return .error cause
  | none =>
    match world.disk.locate world.home path with
    | .ok place => set { world with disk := world.disk.removeFile place }
    | .error _ => pure ()
    return .ok ()

/-- The failure that an exit code means. -/
def exitCause (code : Int) (output errors : Option String) : RenderCause :=
  let errors := errors.getD ""
  let said := if errors.isEmpty then output.getD "" else errors
  .exited code (String.ofList (Text.trim Text.isBlank said.toList))

/-- Starts the command on a temporary file. -/
def runCommand (command : List String) (config : Config) (block : Block) (input : FilePath) :
    Action (Except RenderCause Int) := do
  let arguments := command ++ ["-t" ++ block.extension, input.text]
  World.debug s!"Running: {Shell.join arguments}"
  let tool := command.headD ""
  let source ← World.textAt input
  match ← World.start ⟨arguments, input, source, config.outputDir, config.timeout⟩ with
  | .notFound => return .error (.noExecutable tool)
  | .timedOut => return .error (.timedOut config.timeout)
  | .failed cause => return .error (.notStarted tool cause)
  | .exited code output errors _ =>
    return if code = 0 then .ok code else .error (exitCause code output errors)

/-- Starts the command on a temporary file and deletes the file. -/
def runTidily (command : List String) (config : Config) (block : Block) (path : FilePath) :
    Action (Except RenderCause Int) := do
  match ← runCommand command config block path with
  -- The failure of the command counts more than that of the deletion.
  | .error cause =>
    match ← deleteTemporary path with
    | .ok _ => return .error cause
    | .error text =>
      World.warn s!"Cannot delete temporary file {path.text}: {text}"
      return .error cause
  | .ok code =>
    match ← deleteTemporary path with
    | .ok _ => return .ok code
    | .error text => return .error (.temporaryFileStays path text)

/-- Renders a block in a temporary file of its own; the exit code of the command is the result. -/
def renderBlock (command : List String) (config : Config) (block : Block) :
    Action (Except RenderCause Int) := do
  match ← makeTemporary config.outputDir block with
  | .error cause => return .error cause
  | .ok path =>
    match ← fillTemporary path block with
    | .error cause => return .error cause
    | .ok _ => runTidily command config block path

/-- Renders a block and gives its locator. -/
def work (command : List String) (config : Config) (block : Block) : Action (Except Failure String) :=
  let attributes : Entries := [("strategy", .text Strategy.localCommand.name),
    ("title", .text block.title), ("format", .text block.extension)]
  World.inSpan "plantmark.render.block" attributes World.failureOf fun span => do
    match ← renderBlock command config block with
    | .error cause => return (.error (.rendering ⟨some block.title, cause⟩), span)
    | .ok code =>
      return (.ok (fileLocator config.baseRef block.outputName), span.add none [("returncode", .int code)])

end DiagramWeave.LocalRender
