import DiagramWeave.Proofs.Pipeline.Stages
import DiagramWeave.Proofs.Render.Command
import DiagramWeave.Proofs.Render.Fetch
import DiagramWeave.Proofs.Render.InTurn
import DiagramWeave.Proofs.Rewrite.Splice

/-!
# All or nothing, in order

Images are made block by block in the order of the document, up to the first block whose step fails. Its failure is
the outcome of the run. What was asked of processes and servers is then known from the steps, one for each block up to
that one, and the files that were written are those of the blocks in front of it. A file of a later block may replace
that of an earlier one, but it cannot get into the way of another: where each file goes is settled by the directories,
and no step changes these.
-/
namespace DiagramWeave

variable {config : Config} {client : HttpClient} {text : String} {world after : World} {blocks : List Block}

/-- The rendering of one block by the strategy of a configuration. -/
def Config.step (config : Config) (client : HttpClient) : Block → Action (Except Failure String) :=
  match config.strategy with
  | .localCommand => LocalRender.work (commandWords config) config
  | .remoteFetch => RemoteRender.fetchWork client (config.server.getD "") config
  | .remoteUrl => RemoteRender.linkWork (config.server.getD "")

section steps

variable {step : Block → Action (Except Failure String)}

/-- The steps of all blocks succeed, each in the world that the one before has left. -/
inductive Rendered (step : Block → Action (Except Failure String)) : World → List Block → World → Prop
  | nil (world : World) : Rendered step world [] world
  | cons {world after : World} {block : Block} {blocks : List Block} {locator : String} :
      ((step block).run world).1 = .ok locator → Rendered step ((step block).run world).2 blocks after →
      Rendered step world (block :: blocks) after

/-- The steps of the blocks `done` succeed, and either these are all blocks or the step of the next one
    fails. -/
inductive RenderedUntil (step : Block → Action (Except Failure String)) (world : World) :
    List Block → List Block → Option (Block × Failure) → World → Prop
  | all {blocks : List Block} {after : World} : Rendered step world blocks after →
      RenderedUntil step world blocks blocks none after
  | failed {done later : List Block} {block : Block} {failure : Failure} {between : World} :
      Rendered step world done between → ((step block).run between).1 = .error failure →
      RenderedUntil step world (done ++ block :: later) done (some (block, failure)) ((step block).run between).2

theorem RenderedUntil.cons {done : List Block} {failed : Option (Block × Failure)} {block : Block} {locator : String}
    (first : ((step block).run world).1 = .ok locator)
    (rest : RenderedUntil step ((step block).run world).2 blocks done failed after) :
    RenderedUntil step world (block :: blocks) (block :: done) failed after := by
  cases rest with
  | all rendered => exact .all (.cons first rendered)
  | failed rendered fails => exact .failed (.cons first rendered) fails

/-- The loop does the steps until one fails. -/
theorem runBlocks_renderedUntil (step : Block → Action (Except Failure String)) (locators : Block → String)
    (locates : ∀ block world locator, ((step block).run world).1 = .ok locator → locator = locators block)
    (unlocated : ∀ block ∈ blocks, block.locator = none) (world : World) :
    let run := (runBlocks assignedTwice step blocks).run world
    ∃ done failed, RenderedUntil step world blocks done failed run.2 ∧ run.1.failure = failed.map Prod.snd ∧
      (failed = none → run.1.blocks = blocks.map (Block.located locators)) := by
  induction blocks generalizing world with
  | nil => exact ⟨[], none, .all (.nil world), rfl, fun _ => rfl⟩
  | cons block blocks ih =>
    have first := unlocated block List.mem_cons_self
    simp only [runBlocks_run_cons]
    cases came : ((step block).run world).1 with
    | error failure => exact ⟨[], some (block, failure), .failed (.nil world) came, rfl, nofun⟩
    | ok locator =>
      obtain ⟨done, failed, rest, outcome, located⟩ :=
        ih (fun block member => unlocated block (List.mem_cons_of_mem _ member)) ((step block).run world).2
      have assigned : block.assign assignedTwice (.ok locator) = .ok (block.located locators) :=
        Block.assign_eq_ok.2 ⟨first, locator, rfl, by rw [Block.located, locates block world locator came]⟩
      rw [assigned]
      refine ⟨block :: done, failed, rest.cons came, outcome, fun fine => ?_⟩
      rw [List.map_cons, ← located fine]

def Titled (failed : Option (Block × Failure)) : Prop :=
  ∀ block error, failed = some (block, .rendering error) → error.title = some block.title

theorem titled_none : Titled none := by
  rintro _ _ ⟨⟩

theorem titled_some {block : Block} {cause : RenderCause} :
    Titled (some (block, .rendering ⟨some block.title, cause⟩)) := by
  rintro _ _ ⟨⟩
  rfl

end steps

/-! ### What a command was asked -/

section commands

variable {command : List String}

def callsOn (command : List String) (config : Config) (blocks : List Block) (inputs : List FilePath) :
    List ProcessCall :=
  List.zipWith (LocalRender.callOn command config) blocks inputs

theorem Rendered.called (rendered : Rendered (LocalRender.work command config) world blocks after) :
    ∃ inputs, inputs.length = blocks.length ∧
      (∀ call ∈ callsOn command config blocks inputs, LocalRender.succeeds (world.runProcess call) = true) ∧
      World.Handled { world with processes := world.processes ++ callsOn command config blocks inputs } after := by
  induction rendered with
  | nil world => exact ⟨[], rfl, nofun, world.disk, world.drawnNames, world.readings, world.log, by simp [callsOn]⟩
  | @cons world after block blocks locator fine rendered ih =>
    obtain ⟨inputs, size, fines, handled⟩ := ih
    rcases LocalRender.work_run command config block world with ⟨_, cause, failed⟩ | ⟨input, step, came⟩
    · rw [fine] at failed
      cases failed
    · have ended : LocalRender.succeeds (world.runProcess (LocalRender.callOn command config block input)) = true ∧
          world.deleteFault = none := by
        by_contra refused
        rw [if_neg refused, fine] at came
        obtain ⟨_, failed⟩ := came
        cases failed
      generalize ((LocalRender.work command config block).run world).2 = between at step fines handled
      obtain ⟨disk, drawn, readings, log, rfl⟩ := step
      refine ⟨input :: inputs, by simp [size], ?_, ?_⟩
      · rintro call member
        rcases List.mem_cons.1 member with rfl | member
        · exact ended.1
        · exact fines call member
      · refine World.Handled.trans ⟨disk, drawn, readings, log, ?_⟩ handled
        simp [callsOn, World.called]

/-- What the command was asked when the steps of the blocks `done` succeeded and that of `failed` did not: it
    was started once on each of them, except where no file could be made for `failed` or the block did not get
    into it. -/
structure CommandAttempts (command : List String) (config : Config) (before after : World) (done : List Block)
    (failed : Option (Block × Failure)) : Prop where
  requests : after.requests = before.requests
  processes : ∃ inputs, inputs.length = done.length ∧
    (∀ call ∈ callsOn command config done inputs, LocalRender.succeeds (before.runProcess call) = true) ∧
    match failed with
    | none => after.processes = before.processes ++ callsOn command config done inputs
    | some (block, failure) =>
      (after.processes = before.processes ++ callsOn command config done inputs ∧
        ∃ cause, failure = .rendering ⟨some block.title, .noTemporaryFile cause⟩) ∨
      ∃ input, let call := LocalRender.callOn command config block input
        after.processes = before.processes ++ callsOn command config done inputs ++ [call] ∧
        ¬ (LocalRender.succeeds (before.runProcess call) = true ∧ before.deleteFault = none)
  titled : Titled failed

theorem RenderedUntil.commandAttempts {done : List Block} {failed : Option (Block × Failure)}
    (rendered : RenderedUntil (LocalRender.work command config) world blocks done failed after) :
    CommandAttempts command config world after done failed := by
  cases rendered with
  | all rendered =>
    obtain ⟨inputs, size, fines, handled⟩ := rendered.called
    exact ⟨handled.requests_eq, ⟨inputs, size, fines, handled.processes_eq⟩, titled_none⟩
  | @failed done later block failure between rendered fails =>
    obtain ⟨inputs, size, fines, handled⟩ := rendered.called
    have before : between.processes = world.processes ++ callsOn command config done inputs := handled.processes_eq
    rcases LocalRender.work_run command config block between with ⟨step, cause, noFile⟩ | ⟨input, step, came⟩
    · cases fails.symm.trans noFile
      refine ⟨step.requests_eq.trans handled.requests_eq, ⟨inputs, size, fines, .inl ⟨?_, cause, rfl⟩⟩, titled_some⟩
      rw [step.processes_eq, before]
    · rw [handled.runProcess_eq, handled.deleteFault_eq, fails] at came
      split at came
      · cases came
      next refused =>
        obtain ⟨cause, same⟩ := came
        cases same
        refine ⟨step.requests_eq.trans handled.requests_eq, ⟨inputs, size, fines, .inr ⟨input, ?_, refused⟩⟩,
          titled_some⟩
        rw [step.processes_eq, World.called, before]

end commands

/-! ### What a server was asked, and which files were written -/

theorem free_of_stores {server : String} {stored : List (Place × ByteArray)}
    (stores : List.Forall₂ (Stores server config world) blocks stored) :
    ∀ entry ∈ stored, world.disk.at? entry.1 ≠ some .directory := by
  induction stores with
  | nil => nofun
  | cons first _ ih => exact List.forall_mem_cons.2 ⟨first.leads.2, ih⟩

theorem Rendered.fetched {server : String} (direct : client.Direct world)
    (rendered : Rendered (RemoteRender.fetchWork client server config) world blocks after) :
    ∃ stored, List.Forall₂ (Stores server config world) blocks stored ∧
      World.Fetched (blocks.map (requestFor server config)) stored world after := by
  induction rendered with
  | nil world => exact ⟨[], .nil, .refl world⟩
  | @cons world after block blocks locator fine rendered ih =>
    rcases RemoteRender.fetchWork_run direct server config block with
      ⟨stored, stores, _, fetched⟩ | ⟨_, ⟨failure, failed, _⟩, _⟩
    · generalize ((RemoteRender.fetchWork client server config block).run world).2 = between at fetched ih
      obtain ⟨rest, later, handled⟩ := ih (fetched.direct direct)
      -- The file that was set is in nobody's way.
      have same := stores_iff server config fetched (by simpa using stores.leads.2)
      exact ⟨stored :: rest, .cons stores (later.imp fun block stored => (same block stored).1), fetched.trans handled⟩
    · rw [fine] at failed
      cases failed

/-- What the server was asked and what was written when the steps of the blocks `done` succeeded and that of
    `failed` did not. The world `ready` is the one in which the first step began. -/
structure FetchAttempts (server : String) (config : Config) (before ready after : World) (done : List Block)
    (failed : Option (Block × Failure)) : Prop where
  processes : after.processes = before.processes
  requests : after.requests =
    before.requests ++ (done ++ (failed.map Prod.fst).toList).map (requestFor server config)
  missed : ∀ block failure, failed = some (block, failure) → ∀ stored, ¬ Stores server config ready block stored
  files : ∃ stored, List.Forall₂ (Stores server config ready) done stored ∧
    ∀ place, after.disk.fileAt? place = (Disk.lastStored stored place).or (before.disk.fileAt? place)
  titled : Titled failed

theorem RenderedUntil.fetchAttempts {server : String} {done : List Block} {failed : Option (Block × Failure)}
    (direct : client.Direct world)
    (rendered : RenderedUntil (RemoteRender.fetchWork client server config) world blocks done failed after) :
    FetchAttempts server config world world after done failed := by
  cases rendered with
  | all rendered =>
    obtain ⟨stored, stores, fetched⟩ := rendered.fetched direct
    refine ⟨fetched.processes, by simpa using fetched.requests, ?_, ⟨stored, stores, fun place => ?_⟩, titled_none⟩
    · rintro _ _ ⟨⟩
    · rw [fetched.disk, Disk.fileAt?_setFiles]
  | @failed done later block failure between rendered fails =>
    obtain ⟨stored, stores, fetched⟩ := rendered.fetched direct
    -- What could be written before the steps can be written after them, and nothing else.
    have same := stores_iff server config fetched (free_of_stores stores)
    rcases RemoteRender.fetchWork_run (fetched.direct direct) server config block with
      ⟨_, _, fine, _⟩ | ⟨missed, ⟨cause, came, named⟩, step⟩
    · cases fails.symm.trans fine
    · cases fails.symm.trans came
      generalize ((RemoteRender.fetchWork client server config block).run between).2 = last at step ⊢
      have whole := fetched.trans step
      refine ⟨whole.processes, by simpa using whole.requests, ?_, ⟨stored, stores, fun place => ?_⟩, ?_⟩
      · rintro _ _ ⟨⟩ stored stores
        exact missed stored ((same block stored).2 stores)
      · rw [whole.disk, List.append_nil, Disk.fileAt?_setFiles]
      · rintro _ error ⟨⟩
        exact named error rfl

/-! ### The run -/

/-- The second world differs from the first in directories, the clock and the log alone. -/
def World.Prepared (before ready : World) : Prop :=
  ∃ directories readings log,
    ready = { before with disk := ⟨before.disk.files, directories⟩, readings := readings, log := log }

theorem World.Logged.prepared {before after : World} (logged : World.Logged before after) :
    World.Prepared before after := by
  obtain ⟨readings, log, rfl⟩ := logged
  exact ⟨before.disk.directories, readings, log, rfl⟩

theorem World.Prepared.trans {first second third : World} (one : World.Prepared first second)
    (two : World.Prepared second third) : World.Prepared first third := by
  obtain ⟨_, _, _, rfl⟩ := one
  obtain ⟨directories, readings, log, rfl⟩ := two
  exact ⟨directories, readings, log, rfl⟩

/-- Making the output directory leaves everything but the directories as it is. -/
theorem makeOutputDirectory_run_eq (path : FilePath) (world : World) :
    ∃ directories, ((makeOutputDirectory path).run world).2 =
      { world with disk := ⟨world.disk.files, directories⟩ } := by
  have kept := Disk.files_makeDirectories world.disk world.home path (path.names.length + 1)
  have made : ((World.makeDirectories path).run world).2 =
      { world with disk := (world.disk.makeDirectories world.home path (path.names.length + 1)).1 } := rfl
  refine ⟨(world.disk.makeDirectories world.home path (path.names.length + 1)).1.directories, ?_⟩
  rw [makeOutputDirectory, run_bind]
  split <;> rw [run_pure, made, ← kept]

theorem makeOutputDirectory_run_snd (path : FilePath) (world : World) :
    World.Prepared world ((makeOutputDirectory path).run world).2 := by
  obtain ⟨directories, made⟩ := makeOutputDirectory_run_eq path world
  exact ⟨directories, world.readings, world.log, made⟩

def Config.locatorOf (config : Config) (block : Block) : String :=
  fileLocator config.baseRef block.outputName

theorem eq_of_map_eq_ok {ε α β : Type} {came : Except ε α} {result other : β}
    (fine : came.map (fun _ => result) = .ok other) : other = result := by
  cases came <;> cases fine
  rfl

theorem Config.step_locates (images : config.strategy ≠ .remoteUrl) {block : Block} {locator : String}
    (fine : ((config.step client block).run world).1 = .ok locator) : locator = config.locatorOf block := by
  cases strategy : config.strategy with
  | localCommand =>
    rw [Config.step, strategy] at fine
    exact eq_of_map_eq_ok ((LocalRender.work_eq (commandWords config) config block world).1.symm.trans fine)
  | remoteFetch =>
    rw [Config.step, strategy] at fine
    obtain ⟨span, result, _⟩ := RemoteRender.fetchWork_eq client (config.server.getD "") config block world
    exact eq_of_map_eq_ok (result.symm.trans fine)
  | remoteUrl => exact absurd strategy images

theorem renderBy_run (images : config.strategy ≠ .remoteUrl)
    (made : ((makeOutputDirectory config.outputDir).run world).1 = .ok ()) (blocks : List Block) :
    (renderBy config client blocks).run world =
      (runBlocks assignedTwice (config.step client) blocks).run
        ((makeOutputDirectory config.outputDir).run world).2 := by
  have into : renderBy config client blocks = renderInto config.outputDir (config.step client) blocks := by
    cases strategy : config.strategy with
    | remoteUrl => exact absurd strategy images
    | localCommand | remoteFetch => simp only [renderBy, Config.step, strategy]
  rw [into, renderInto, run_bind, made]

theorem CommandAttempts.of_prepared {command : List String} {ready last final : World} {done : List Block}
    {failed : Option (Block × Failure)} (prepared : World.Prepared world ready) (logged : World.Logged last final)
    (attempts : CommandAttempts command config ready last done failed) :
    CommandAttempts command config world final done failed := by
  obtain ⟨_, _, _, rfl⟩ := prepared
  obtain ⟨_, _, rfl⟩ := logged
  exact ⟨attempts.requests, attempts.processes, attempts.titled⟩

theorem FetchAttempts.of_prepared {server : String} {ready last final : World} {done : List Block}
    {failed : Option (Block × Failure)} (prepared : World.Prepared world ready) (logged : World.Logged last final)
    (attempts : FetchAttempts server config ready ready last done failed) :
    FetchAttempts server config world ready final done failed := by
  obtain ⟨_, _, _, rfl⟩ := prepared
  obtain ⟨_, _, rfl⟩ := logged
  exact ⟨attempts.processes, attempts.requests, attempts.missed, attempts.files, attempts.titled⟩

/-- The steps tell what was asked and written, whatever happened to directories before and to the log. -/
theorem RenderedUntil.attempts {ready last final : World} {done : List Block} {failed : Option (Block × Failure)}
    (direct : config.strategy = .remoteFetch → client.Direct world) (prepared : World.Prepared world ready)
    (rendered : RenderedUntil (config.step client) ready blocks done failed last) (logged : World.Logged last final) :
    (config.strategy = .localCommand → CommandAttempts (commandWords config) config world final done failed) ∧
      (config.strategy = .remoteFetch →
        FetchAttempts (config.server.getD "") config world ready final done failed) := by
  constructor
  · intro strategy
    rw [Config.step, strategy] at rendered
    exact rendered.commandAttempts.of_prepared prepared logged
  · intro strategy
    have direct : client.Direct ready := by
      obtain ⟨_, _, _, rfl⟩ := prepared
      exact direct strategy
    rw [Config.step, strategy] at rendered
    exact (rendered.fetchAttempts direct).of_prepared prepared logged

def fetching : Config where
  outputMode := .image
  command := none
  server := some "http://x"
  outputDir := ⟨.relative, ["out"]⟩
  baseRef := "img"
  format := .svg
  timeout := 60.0
  workers := 1
  strategy := .remoteFetch

end DiagramWeave
