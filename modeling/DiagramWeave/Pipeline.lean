import DiagramWeave.Block.Scan
import DiagramWeave.Config.Options
import DiagramWeave.Render.Local
import DiagramWeave.Render.Remote

/-!
# From document to document

A document is scanned for blocks, the blocks are rendered by the strategy of the configuration, and the
references to their images are put in their places. A document without blocks comes back as it is, and
nothing is rendered or written for it.
-/
namespace DiagramWeave

/-- The failure of a block that already has a locator. -/
def assignedTwice (block : Block) : Failure :=
  .rendering ⟨some block.title, .assignedTwice⟩

/-- How many blocks have a locator. -/
def locatedCount (blocks : List Block) : Nat :=
  blocks.countP fun block => block.locator.isSome

/-- Makes the output directory. -/
def makeOutputDirectory (path : FilePath) : Action (Except Failure Unit) := do
  match ← World.makeDirectories path with
  | .ok _ => return .ok ()
  | .error .nullCharacter => return .error (.breakdown (.disk .nullCharacter))
  | .error fault => return .error (.rendering ⟨none, .noOutputDirectory path fault.text⟩)

/-- Renders blocks into the output directory. -/
def renderInto (path : FilePath) (work : Block → Action (Except Failure String)) (blocks : List Block) :
    Action (Progress Failure) := do
  match ← makeOutputDirectory path with
  | .error failure => return ⟨blocks, some failure⟩
  -- Nothing is rendered unless there is a place to put it.
  | .ok _ => runBlocks assignedTwice work blocks

/-- The words of the local command. -/
def commandWords (config : Config) : List String :=
  match Shell.words (config.command.getD "") with
  | .ok words => words
  | .error _ => []

/-- How many blocks may be rendered at once. Making links is no work to share. -/
def Config.workersFor (config : Config) : Nat :=
  match config.strategy with
  | .remoteUrl => 1
  | _ => config.workers

/-- Renders blocks by the strategy of the configuration. -/
def renderBy (config : Config) (client : HttpClient) (blocks : List Block) :
    Action (Progress Failure) :=
  let server := config.server.getD ""
  match config.strategy with
  | .localCommand =>
    renderInto config.outputDir (LocalRender.work (commandWords config) config) blocks
  | .remoteFetch =>
    renderInto config.outputDir (RemoteRender.fetchWork client server config) blocks
  | .remoteUrl => runBlocks assignedTwice (RemoteRender.linkWork server) blocks

/-- Renders blocks in a span. -/
def render (config : Config) (client : HttpClient) (blocks : List Block) : Action (Progress Failure) :=
  World.inSpan ("plantmark.render." ++ config.strategy.name) [("blocks", .int blocks.length)]
    Progress.failure fun span => do
      let progress ← renderBy config client blocks
      let span := if progress.failure.isSome then span
        else span.add none [("rendered", .int (locatedCount progress.blocks))]
      return (progress, span)

/-- Scans a document in a span. -/
def scanLogged (text format : String) : Action (List Block) :=
  World.inSpan "plantmark.scan" [("length", .int text.length)] (fun _ => none) fun span =>
    let blocks := scan text format
    return (blocks, span.add none [("blocks", .int blocks.length)])

/-- Rewrites a document in a span. -/
def rewriteLogged (text : String) (blocks : List Block) : Action (Except Failure String) :=
  World.inSpan "plantmark.rewrite" [("blocks", .int blocks.length)] World.failureOf fun span =>
    match rewrite text blocks with
    | .ok result => return (.ok result, span.add none [("length", .int result.length)])
    | .error error => return (.error (.rewriting error), span)

/-- The document with references in place of its blocks. -/
def preprocess (config : Config) (client : HttpClient) (text : String) : Action (Except Failure String) :=
  World.inSpan "plantmark.preprocess" [("strategy", .text config.strategy.name)] World.failureOf
    fun span => do
      let blocks ← scanLogged text config.format.name
      let span := span.add none [("blocks", .int blocks.length)]
      if blocks.isEmpty then return (.ok text, span)
      else
        let progress ← render config client blocks
        match progress.failure with
        | some failure => return (.error failure, span)
        | none => return (← rewriteLogged text progress.blocks, span)

/-- The configuration of a call: the options alone, or the options over a given configuration. -/
def configFor (home : FilePath) (given : Option Config) (options : Entries) : Except Failure Config :=
  let built (options : Entries) : Except Failure Config :=
    match Config.ofOptions home options with
    | .ok config => .ok config
    | .error error => .error (.configuration error)
  match given with
  | none => built options
  | some config => if options.isEmpty then .ok config else built (config.toOptions.update options)

/-- The document with references in place of its blocks, by options. Without a client of its own a run
    takes the shared one. -/
def preprocessWith (given : Option Config) (options : Entries) (client : HttpClient) (text : String) :
    Action (Except Failure String) := do
  match configFor (← get).homePath given options with
  | .error failure => return .error failure
  | .ok config => preprocess config client text

/-- Puts preprocessing in front of a renderer of documents. The configuration is settled once, before the
    first document; options are read only where no configuration is given. -/
def wrap {α : Type} (home : FilePath) (given : Option Config) (options : Entries) (renderer : String → α) :
    Except Failure (String → Action (Except Failure α)) :=
  (given.elim (configFor home none options) .ok).map fun config => fun text => do
    return (← preprocess config HttpClient.shared text).map renderer

end DiagramWeave
