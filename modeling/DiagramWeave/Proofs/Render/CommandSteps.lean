import DiagramWeave.Proofs.Render.Bench
import DiagramWeave.Proofs.Render.Command

/-!
# The steps of rendering by a command

What a step can do is said once, with a case for each kind of step. A temporary file is made where nothing stands, under
a name of its block in the output directory, and it is the only file that the further steps on the block touch. Making
it and filling it may each fail in its own way: no file is there after the one, and one that stays after the other.
-/
namespace DiagramWeave

namespace World

/-- Between the two worlds only what a run may change has changed. -/
def Steady (before after : World) : Prop :=
  ∃ disk drawn readings processes requests log, after = { before with
    disk := disk, drawnNames := drawn, readings := readings, processes := processes, requests := requests, log := log }

variable {world first second third : World}

theorem Steady.refl (world : World) : Steady world world :=
  ⟨world.disk, world.drawnNames, world.readings, world.processes, world.requests, world.log, rfl⟩

theorem Steady.trans (one : Steady first second) (two : Steady second third) : Steady first third := by
  obtain ⟨_, _, _, _, _, _, rfl⟩ := one
  obtain ⟨disk, drawn, readings, processes, requests, log, rfl⟩ := two
  exact ⟨disk, drawn, readings, processes, requests, log, rfl⟩

theorem Logged.steady (logged : Logged first second) : Steady first second := by
  obtain ⟨readings, log, rfl⟩ := logged
  exact ⟨first.disk, first.drawnNames, readings, first.processes, first.requests, log, rfl⟩

theorem Steady.home_eq (steady : Steady first second) : second.home = first.home := by
  obtain ⟨_, _, _, _, _, _, rfl⟩ := steady
  rfl

theorem Steady.runProcess_eq (steady : Steady first second) : second.runProcess = first.runProcess := by
  obtain ⟨_, _, _, _, _, _, rfl⟩ := steady
  rfl

theorem Steady.deleteFault_eq (steady : Steady first second) : second.deleteFault = first.deleteFault := by
  obtain ⟨_, _, _, _, _, _, rfl⟩ := steady
  rfl

theorem Steady.brokenWrite_eq (steady : Steady first second) : second.brokenWrite = first.brokenWrite := by
  obtain ⟨_, _, _, _, _, _, rfl⟩ := steady
  rfl

/-! ### Files that are filled -/

/-- Nothing happens to any other file than the one that the path leads to, and this one has been there. -/
theorem fileAt?_diskFilled (world : World) (path : FilePath) (content : ByteArray) (place : Place) :
    (world.diskFilled path content).fileAt? place = world.disk.fileAt? place ∨
      world.disk.locate world.home path = .ok place := by
  rw [diskFilled]
  split
  · exact .inl rfl
  next target located =>
    split
    · by_cases same : place = target
      · exact .inr (same ▸ located)
      · exact .inl ((Disk.fileAt?_setFile ..).trans (if_neg same))
    · exact .inl rfl

theorem directories_diskFilled (world : World) (path : FilePath) (content : ByteArray) :
    (world.diskFilled path content).directories = world.disk.directories := by
  rw [diskFilled]
  split
  · rfl
  · split <;> rfl

/-! ### Files that go -/

/-- The disk after an attempt to delete a file. -/
def diskWithout (world : World) (path : FilePath) : Disk :=
  match world.deleteFault, world.disk.locate world.home path with
  | none, .ok place => world.disk.removeFile place
  | _, _ => world.disk

/-- A file is there as before, or the path led to it and it is gone. -/
def LosesAt (world : World) (path : FilePath) (place : Place) (disk : Disk) : Prop :=
  disk.fileAt? place = world.disk.fileAt? place ∨
    world.disk.locate world.home path = .ok place ∧ disk.fileAt? place = none

theorem losesAt_removeFile {path : FilePath} {target : Place} (world : World) (place : Place)
    (located : world.disk.locate world.home path = .ok target) :
    world.LosesAt path place (world.disk.removeFile target) := by
  by_cases same : place = target
  · subst same
    exact .inr ⟨located, (Disk.fileAt?_removeFile ..).trans (if_pos rfl)⟩
  · exact .inl ((Disk.fileAt?_removeFile ..).trans (if_neg same))

theorem losesAt_diskAfter (world : World) (call : ProcessCall) (result : ProcessResult) (place : Place) :
    world.LosesAt call.input place (world.diskAfter call result) := by
  unfold diskAfter
  split
  next located => exact losesAt_removeFile world place located
  · exact .inl rfl

theorem losesAt_diskWithout (world : World) (path : FilePath) (place : Place) :
    world.LosesAt path place (world.diskWithout path) := by
  rw [diskWithout]
  split
  next located => exact losesAt_removeFile world place located
  · exact .inl rfl

theorem directories_diskAfter (world : World) (call : ProcessCall) (result : ProcessResult) :
    (world.diskAfter call result).directories = world.disk.directories := by
  unfold diskAfter
  split <;> rfl

theorem directories_diskWithout (world : World) (path : FilePath) :
    (world.diskWithout path).directories = world.disk.directories := by
  rw [diskWithout]
  split <;> rfl

/-- Where files can be deleted, the file that a path leads to is gone. -/
theorem fileAt?_diskWithout {path : FilePath} {place : Place} (deletes : world.deleteFault = none)
    (located : world.disk.locate world.home path = .ok place) : (world.diskWithout path).fileAt? place = none := by
  rw [diskWithout, deletes, located]
  exact (Disk.fileAt?_removeFile ..).trans (if_pos rfl)

end World

namespace LocalRender

variable {command : List String} {config : Config} {block : Block} {world : World}

/-- The path of a temporary file of a block, under the name that was drawn with this number. -/
def temporaryPath (world : World) (config : Config) (block : Block) (drawn : Nat) : FilePath :=
  let directory := collapse (world.homePath.join config.outputDir)
  ⟨directory.root, directory.names ++ [temporaryName block.index (world.randomNames drawn)]⟩

/-- An empty file was made where nothing stood. -/
def Made (world : World) (path : FilePath) (drawn : Nat) (after : World) : Prop :=
  ∃ place, world.disk.locate world.home path = .ok place ∧ world.disk.at? place = none ∧
    after = { world with disk := world.disk.setFile place ByteArray.empty, drawnNames := drawn + 1 }

theorem makeFresh_run_cases (directory : FilePath) (block : Block) (steps : Nat) (world : World) :
    let run := (makeFresh directory block steps).run world
    (∃ drawn, let path : FilePath :=
        ⟨directory.root, directory.names ++ [temporaryName block.index (world.randomNames drawn)]⟩
      run.1 = .ok path ∧ Made world path drawn run.2) ∨
      ∃ cause drawn, run.1 = .error cause ∧ run.2 = { world with drawnNames := drawn } := by
  induction steps generalizing world with
  | zero => exact .inr ⟨_, world.drawnNames, rfl, rfl⟩
  | succ steps ih =>
    simp only [makeFresh, run_bind, run_get, run_set]
    split
    next fault _ => exact .inr ⟨_, world.drawnNames + 1, rfl, rfl⟩
    next place located =>
      split
      next taken =>
        -- The name is taken, and the next one is drawn.
        rcases ih { world with drawnNames := world.drawnNames + 1 } with ⟨drawn, made, place, found, free, after⟩ | failed
        · exact .inl ⟨drawn, made, ⟨place, found, free, after⟩⟩
        · exact .inr failed
      next free =>
        have leads : world.disk.Leads world.home _ place := ⟨located, by rw [free]; nofun⟩
        rw [run_bind, World.writeFile_run]
        simp only [Disk.write_of_leads ByteArray.empty leads]
        exact .inl ⟨world.drawnNames, rfl, ⟨place, located, free, rfl⟩⟩

theorem makeTemporary_run_cases (config : Config) (block : Block) (world : World) :
    let run := (makeTemporary config.outputDir block).run world
    (∃ drawn, run.1 = .ok (temporaryPath world config block drawn) ∧
        Made world (temporaryPath world config block drawn) drawn run.2) ∨
      ∃ cause drawn, run.1 = .error (.noTemporaryFile cause) ∧ run.2 = { world with drawnNames := drawn } := by
  simp only [makeTemporary, run_bind, run_get]
  split
  next cause _ => exact .inr ⟨cause, world.drawnNames, rfl, rfl⟩
  · rcases makeFresh_run_cases (collapse (world.homePath.join config.outputDir)) block attempts world with
      ⟨drawn, made, file⟩ | ⟨cause, drawn, failed, same⟩
    · rw [run_bind, made]
      exact .inl ⟨drawn, rfl, file⟩
    · rw [run_bind, failed]
      exact .inr ⟨cause, drawn, rfl, same⟩

/-- What of a block gets into its file, and what comes of filling it. -/
def filled (broken : Option BrokenWrite) (block : Block) : Except RenderCause Unit × ByteArray :=
  match broken with
  | none => (.ok (), block.source.toUTF8)
  | some broken => (.error (.noTemporaryFile broken.cause), block.source.toUTF8.extract 0 broken.written)

theorem fillTemporary_run_eq (path : FilePath) (block : Block) (world : World) :
    (fillTemporary path block).run world =
      ((filled (world.brokenWrite path) block).1,
        { world with disk := world.diskFilled path (filled (world.brokenWrite path) block).2 }) := by
  simp only [fillTemporary, run_bind, run_get]
  cases world.brokenWrite path <;> rfl

/-- What the end of a process means for its block. -/
def verdict (command : List String) (config : Config) : ProcessResult → Except RenderCause Int
  | .notFound => .error (.noExecutable (command.headD ""))
  | .timedOut => .error (.timedOut config.timeout)
  | .failed cause => .error (.notStarted (command.headD "") cause)
  | .exited code output errors _ => if code = 0 then .ok code else .error (exitCause code output errors)

/-- The call of the command on a file that holds `source`. -/
def callWith (command : List String) (config : Config) (block : Block) (input : FilePath) (source : String) :
    ProcessCall :=
  ⟨command ++ ["-t" ++ block.extension, input.text], input, source, config.outputDir, config.timeout⟩

theorem runCommand_run_eq (command : List String) (config : Config) (block : Block) (input : FilePath) (world : World) :
    ∃ source, let call := callWith command config block input source
      (runCommand command config block input).run world = (verdict command config (world.runProcess call),
        { world with
          processes := world.processes ++ [call]
          disk := world.diskAfter call (world.runProcess call)
          log := world.log ++ [⟨.debug, s!"Running: {Shell.join call.arguments}"⟩] }) := by
  have text (log : List LogRecord) : (World.textAt input).run { world with log := log } =
      (((World.textAt input).run world).1, { world with log := log }) := by
    simp only [World.textAt, World.readFile, run_bind, run_get, run_pure]
    cases world.disk.read world.home input <;> rfl
  generalize ((World.textAt input).run world).1 = source at text
  refine ⟨source, ?_⟩
  simp only [runCommand, run_bind, World.debug_run, text, World.start_run, callWith]
  generalize ended : world.runProcess _ = result
  cases result with
  | notFound | timedOut | failed => rfl
  | exited code output errors removes =>
    simp only [verdict]
    split <;> rfl

/-- What a failed deletion makes of what the command has come to. -/
def tidied (fault : Option String) (input : FilePath) (came : Except RenderCause Int) : Except RenderCause Int :=
  match fault, came with
  | some text, .ok _ => .error (.temporaryFileStays input text)
  | _, came => came

def warningOf (input : FilePath) (text : String) : LogRecord :=
  ⟨.warning, s!"Cannot delete temporary file {input.text}: {text}"⟩

/-- What is noted of a failed deletion. -/
def warnings (fault : Option String) (input : FilePath) (came : Except RenderCause Int) : List LogRecord :=
  match fault, came with
  | some text, .error _ => [warningOf input text]
  | _, _ => []

theorem deleteTemporary_run_eq (path : FilePath) (world : World) :
    (deleteTemporary path).run world =
      (world.deleteFault.elim (.ok ()) .error, { world with disk := world.diskWithout path }) := by
  obtain ⟨home, _, disk, _, _, fault, _, _, _, _, _, _, _, _, _⟩ := world
  simp only [deleteTemporary, run_bind, run_get, World.diskWithout]
  cases fault with
  | some text => rfl
  | none => cases disk.locate home path <;> rfl

theorem tidy_run_eq (input : FilePath) (came : Except RenderCause Int) (world : World) :
    (tidy input came).run world = (tidied world.deleteFault input came,
      { world with
        disk := world.diskWithout input
        log := world.log ++ warnings world.deleteFault input came }) := by
  obtain ⟨_, _, _, _, _, fault, _, _, _, _, _, _, _, _, log⟩ := world
  cases came with
  | error cause =>
    simp only [tidy, run_bind, deleteTemporary_run_eq]
    cases fault with
    | some text => rfl
    | none =>
      simp only [tidied, warnings, List.append_nil]
      rfl
  | ok code =>
    simp only [tidy, run_bind, deleteTemporary_run_eq]
    cases fault <;> simp only [tidied, warnings, List.append_nil] <;> rfl

/-! ### What a step can do -/

/-- The file that a work has at a station. -/
def Station.input? : Station → Option FilePath
  | .made _ input | .written _ input | .ran _ input _ => some input
  | .waiting | .opened _ | .closing _ _ | .ended _ => none

/-- The record of the work on a block. -/
def recordOf (config : Config) (block : Block) (start stop : Float) (came : Except RenderCause Int) : LogRecord :=
  (spanOf block came).record start stop ((World.failureOf (resultOf config block came)).map Failure.logged)

inductive Changes (command : List String) (config : Config) (block : Block) (world : World) :
    Station → Station → World → Prop
  | opens (start : Float) : Changes command config block world .waiting (.opened start) world.ticked
  | makes {start : Float} {drawn : Nat} {after : World} :
      Made world (temporaryPath world config block drawn) drawn after →
      Changes command config block world (.opened start) (.made start (temporaryPath world config block drawn)) after
  | makesNothing {start : Float} {cause : String} {drawn : Nat} :
      ((makeTemporary config.outputDir block).run world).1 = .error (.noTemporaryFile cause) →
      Changes command config block world (.opened start) (.closing start (.error (.noTemporaryFile cause)))
        { world with drawnNames := drawn }
  | fills {start : Float} {input : FilePath} : world.brokenWrite input = none →
      Changes command config block world (.made start input) (.written start input)
        { world with disk := world.diskFilled input block.source.toUTF8 }
  | breaksOff {start : Float} {input : FilePath} {broken : BrokenWrite} : world.brokenWrite input = some broken →
      Changes command config block world (.made start input) (.closing start (.error (.noTemporaryFile broken.cause)))
        { world with disk := world.diskFilled input (block.source.toUTF8.extract 0 broken.written) }
  | runs {start : Float} {input : FilePath} {source message : String} {call : ProcessCall} :
      call = callWith command config block input source →
      Changes command config block world (.written start input)
        (.ran start input (verdict command config (world.runProcess call)))
        { world with
          processes := world.processes ++ [call]
          disk := world.diskAfter call (world.runProcess call)
          log := world.log ++ [⟨.debug, message⟩] }
  | tidies {start : Float} {input : FilePath} {came : Except RenderCause Int} :
      Changes command config block world (.ran start input came)
        (.closing start (tidied world.deleteFault input came))
        { world with
          disk := world.diskWithout input
          log := world.log ++ warnings world.deleteFault input came }
  | closes {start stop : Float} {came : Except RenderCause Int} {readings : Nat} :
      Changes command config block world (.closing start came) (.ended came)
        { world with readings := readings, log := world.log ++ [recordOf config block start stop came] }

theorem changes_step {station : Station} (goesOn : (craft command config).result? block station = none) :
    Changes command config block world station (((craft command config).step block station).run world).1
      (((craft command config).step block station).run world).2 := by
  cases station with
  | waiting => exact .opens _
  | opened start =>
    rw [step_opened]
    rcases makeTemporary_run_cases config block world with ⟨drawn, made, file⟩ | ⟨cause, drawn, failed, after⟩
    · simp only [made]
      exact .makes file
    · simp only [failed, after]
      exact .makesNothing failed
  | made start input =>
    rw [step_made, fillTemporary_run_eq]
    cases write : world.brokenWrite input with
    | none => exact .fills write
    | some broken => exact .breaksOff write
  | written start input =>
    obtain ⟨source, ran⟩ := runCommand_run_eq command config block input world
    rw [step_written, ran]
    exact .runs rfl
  | ran start input came =>
    rw [step_ran, tidy_run_eq]
    exact .tidies
  | closing start came => exact .closes
  | ended came => cases goesOn

/-- A move of the bench is such a step, or something is noted. -/
theorem changes_of_moves {bench next : Bench Station} (move : bench.Moves (craft command config) next) :
    (∃ message, next = bench.noted message) ∨
      ∃ number block station later after, bench.works[number]? = some (block, station) ∧
        Changes command config block bench.world station later after ∧
        next = ⟨bench.works.set number (block, later), after⟩ := by
  cases move with
  | note message => exact .inl ⟨message, rfl⟩
  | work here goesOn => exact .inr ⟨_, _, _, _, _, here, changes_step goesOn, rfl⟩

theorem Changes.steady {station next : Station} {after : World}
    (changes : Changes command config block world station next after) : World.Steady world after := by
  cases changes with
  | makes made =>
    obtain ⟨place, _, _, rfl⟩ := made
    exact ⟨_, _, world.readings, world.processes, world.requests, world.log, rfl⟩
  | opens | closes => exact ⟨world.disk, world.drawnNames, _, world.processes, world.requests, _, rfl⟩
  | makesNothing => exact ⟨world.disk, _, world.readings, world.processes, world.requests, world.log, rfl⟩
  | fills | breaksOff =>
    exact ⟨_, world.drawnNames, world.readings, world.processes, world.requests, world.log, rfl⟩
  | runs => exact ⟨_, world.drawnNames, world.readings, _, world.requests, _, rfl⟩
  | tidies => exact ⟨_, world.drawnNames, world.readings, world.processes, world.requests, _, rfl⟩

theorem Changes.requests_eq {station next : Station} {after : World}
    (changes : Changes command config block world station next after) : after.requests = world.requests := by
  cases changes with
  | makes made =>
    obtain ⟨place, _, _, rfl⟩ := made
    rfl
  | opens | makesNothing | fills | breaksOff | runs | tidies | closes => rfl

/-! ### Every work keeps to its own file -/

theorem temporaryPath_eq {base now : World} (steady : World.Steady base now) (config : Config) (block : Block)
    (drawn : Nat) : temporaryPath now config block drawn = temporaryPath base config block drawn := by
  obtain ⟨_, _, _, _, _, _, rfl⟩ := steady
  rfl

/-- The file of every work is a temporary file of its block. -/
structure Placed (config : Config) (base : World) (bench : Bench Station) : Prop where
  steady : World.Steady base bench.world
  named : ∀ work ∈ bench.works, ∀ input, work.2.input? = some input →
    ∃ drawn, input = temporaryPath base config work.1 drawn

theorem placed_start (blocks : List Block) (base : World) :
    Placed config base (Bench.start (craft command config) blocks base) where
  steady := .refl base
  named work member input held := by
    obtain ⟨block, _, rfl⟩ := List.mem_map.1 member
    cases held

theorem Placed.moves {base : World} {bench next : Bench Station} (placed : Placed config base bench)
    (move : bench.Moves (craft command config) next) : Placed config base next := by
  rcases changes_of_moves move with ⟨message, rfl⟩ | ⟨number, block, station, later, after, here, changes, rfl⟩
  · exact ⟨placed.steady.trans (bench.noted_world message).steady, placed.named⟩
  · refine ⟨placed.steady.trans changes.steady, fun work member input held => ?_⟩
    rcases List.mem_or_eq_of_mem_set member with member | rfl
    · exact placed.named work member input held
    · have before := placed.named (block, station) (List.mem_of_getElem? here)
      cases changes with
      | @makes start drawn =>
        cases held
        exact ⟨drawn, temporaryPath_eq placed.steady config block drawn⟩
      | fills | runs =>
        cases held
        exact before _ rfl
      | opens | makesNothing | breaksOff | tidies | closes => cases held

/-- What every move preserves of a bench where all files are placed so holds wherever the bench gets to. -/
theorem placed_preserves {base : World} {blocks : List Block} {bench : Bench Station} {P : Bench Station → Prop}
    (reached : (Bench.start (craft command config) blocks base).Reaches (craft command config) bench)
    (moves : ∀ {one other : Bench Station}, Placed config base one → one.Moves (craft command config) other →
      P one → P other)
    (first : P (Bench.start (craft command config) blocks base)) : P bench := by
  refine (reached.preserves (P := fun bench => Placed config base bench ∧ P bench) ?_ ⟨placed_start blocks base, first⟩).2
  rintro one other move ⟨placed, holds⟩
  exact ⟨placed.moves move, moves placed move holds⟩

/-! ### Which processes are started -/

/-- Since `base` only the command was started, on temporary files of the blocks. -/
def Called (command : List String) (config : Config) (base : World) (bench : Bench Station) : Prop :=
  ∃ calls, bench.world.processes = base.processes ++ calls ∧ ∀ call ∈ calls, ∃ block ∈ bench.works.map Prod.fst,
    ∃ drawn source, call = callWith command config block (temporaryPath base config block drawn) source

theorem Called.moves {base : World} {bench next : Bench Station} (called : Called command config base bench)
    (placed : Placed config base bench) (move : bench.Moves (craft command config) next) :
    Called command config base next := by
  have same : next.works.map Prod.fst = bench.works.map Prod.fst := Bench.Reaches.blocks_eq (.single move)
  obtain ⟨calls, processes, spelled⟩ := called
  rw [Called, same]
  rcases changes_of_moves move with ⟨message, rfl⟩ | ⟨number, block, station, later, after, here, changes, rfl⟩
  · exact ⟨calls, processes, spelled⟩
  · cases changes with
    | @runs start input source message call spelling =>
      refine ⟨calls ++ [call], by simp [processes], fun other member => ?_⟩
      rcases List.mem_append.1 member with member | last
      · exact spelled other member
      · have listed := List.mem_of_getElem? here
        obtain ⟨drawn, named⟩ := placed.named _ listed input rfl
        rw [List.mem_singleton.1 last, spelling, named]
        exact ⟨block, List.mem_map_of_mem listed, drawn, source, rfl⟩
    | makes made =>
      obtain ⟨_, _, _, rfl⟩ := made
      exact ⟨calls, processes, spelled⟩
    | opens | makesNothing | fills | breaksOff | tidies | closes => exact ⟨calls, processes, spelled⟩

theorem called_reaches {base : World} {blocks : List Block} {bench : Bench Station}
    (reached : (Bench.start (craft command config) blocks base).Reaches (craft command config) bench) :
    Called command config base bench :=
  placed_preserves reached (fun placed move called => called.moves placed move) ⟨[], (List.append_nil _).symm, nofun⟩

/-- Nothing is asked of servers. -/
theorem requests_reaches {base : World} {blocks : List Block} {bench : Bench Station}
    (reached : (Bench.start (craft command config) blocks base).Reaches (craft command config) bench) :
    bench.world.requests = base.requests := by
  refine reached.preserves (P := fun bench => bench.world.requests = base.requests) (fun move same => ?_) rfl
  rcases changes_of_moves move with ⟨message, rfl⟩ | ⟨number, block, station, later, after, here, changes, rfl⟩
  · exact same
  · exact changes.requests_eq.trans same

end LocalRender

end DiagramWeave
