import DiagramWeave.Proofs.World.Files

/-!
# Rendering one block by a command

Whatever becomes of a block, the command is started on it once, with the text of the block in its file, unless there
is no place for the file. The block gets its locator just when the command exits with zero and its file can be
deleted.
-/
namespace DiagramWeave

namespace World

variable {first second : World}

def called (world : World) (call : ProcessCall) : World :=
  { world with processes := world.processes ++ [call] }

theorem Handled.called (handled : Handled first second) (call : ProcessCall) :
    Handled (first.called call) (second.called call) := by
  obtain ⟨disk, drawn, readings, log, rfl⟩ := handled
  exact ⟨disk, drawn, readings, log, rfl⟩

theorem debug_run (message : String) (world : World) :
    (debug message).run world = ((), { world with log := world.log ++ [⟨.debug, message⟩] }) := rfl

/-- A file that is there holds what has been written into it. -/
theorem holds_diskFilled {world : World} {path : FilePath} {old : ByteArray} (content : ByteArray)
    (holds : world.disk.Holds world.home path old) : (world.diskFilled path content).Holds world.home path content := by
  obtain ⟨place, located, stands⟩ := holds
  have filled : world.diskFilled path content = world.disk.setFile place content := by
    simp only [diskFilled, located, stands]
  rw [filled]
  exact Disk.holds_setFile ⟨located, by simp [stands]⟩

theorem start_run (call : ProcessCall) (world : World) :
    (start call).run world = (world.runProcess call,
      { world.called call with disk := world.diskAfter call (world.runProcess call) }) := rfl

end World

namespace LocalRender

variable {command : List String} {config : Config} {block : Block} {world : World}

theorem makeFresh_run (directory : FilePath) (block : Block) (steps : Nat) (world : World) :
    let run := (makeFresh directory block steps).run world
    World.Handled world run.2 ∧ ∀ path, run.1 = .ok path → run.2.disk.Holds run.2.home path ByteArray.empty := by
  induction steps generalizing world with
  | zero => exact ⟨(World.Logged.refl world).handled, nofun⟩
  | succ steps ih =>
    have drawn : World.Handled world { world with drawnNames := world.drawnNames + 1 } :=
      ⟨world.disk, _, world.readings, world.log, rfl⟩
    simp only [makeFresh, run_bind, run_get, run_set]
    split
    · exact ⟨drawn, nofun⟩
    next place located =>
      split
      next taken =>
        obtain ⟨handled, holds⟩ := ih { world with drawnNames := world.drawnNames + 1 }
        exact ⟨drawn.trans handled, holds⟩
      next free =>
        rw [run_bind, World.writeFile_run]
        have leads : world.disk.Leads world.home _ place := ⟨located, by rw [free]; nofun⟩
        have written := Disk.write_of_leads ByteArray.empty leads
        rw [written]
        refine ⟨drawn.trans ⟨_, _, _, _, rfl⟩, fun path made => ?_⟩
        cases made
        exact Disk.holds_setFile leads

theorem makeTemporary_run (directory : FilePath) (block : Block) (world : World) :
    let run := (makeTemporary directory block).run world
    World.Handled world run.2 ∧
      ((∃ cause, run.1 = .error (.noTemporaryFile cause)) ∨
        ∃ path, run.1 = .ok path ∧ run.2.disk.Holds run.2.home path ByteArray.empty) := by
  simp only [makeTemporary, run_bind, run_get]
  split
  next cause _ => exact ⟨(World.Logged.refl world).handled, .inl ⟨cause, rfl⟩⟩
  · obtain ⟨handled, holds⟩ := makeFresh_run (collapse (world.homePath.join directory)) block attempts world
    rw [run_bind]
    split
    next path made => exact ⟨handled, .inr ⟨path, rfl, holds path made⟩⟩
    next cause _ => exact ⟨handled, .inl ⟨cause, rfl⟩⟩

/-- A file that is there comes to hold the block, unless the write breaks off. -/
theorem fillTemporary_run {path : FilePath} {old : ByteArray} (block : Block)
    (holds : world.disk.Holds world.home path old) :
    let run := (fillTemporary path block).run world
    World.Handled world run.2 ∧
      ((∃ cause, run.1 = .error (.noTemporaryFile cause)) ∨
        run.1 = .ok () ∧ run.2.disk.read run.2.home path = .ok block.source.toUTF8) := by
  have handled (content : ByteArray) : World.Handled world { world with disk := world.diskFilled path content } :=
    ⟨_, world.drawnNames, world.readings, world.log, rfl⟩
  simp only [fillTemporary, run_bind, run_get]
  split
  · exact ⟨handled _, .inr ⟨rfl, (World.holds_diskFilled block.source.toUTF8 holds).read_eq⟩⟩
  next broken _ => exact ⟨handled _, .inl ⟨broken.cause, rfl⟩⟩

theorem deleteTemporary_run (path : FilePath) (world : World) :
    World.Handled world ((deleteTemporary path).run world).2 ∧
      ((deleteTemporary path).run world).1 = world.deleteFault.elim (.ok ()) .error := by
  simp only [deleteTemporary, run_bind, run_get]
  split
  next cause faulty => exact ⟨(World.Logged.refl world).handled, by rw [faulty]; rfl⟩
  next sane =>
    split
    · exact ⟨⟨_, world.drawnNames, world.readings, world.log, rfl⟩, by rw [sane]; rfl⟩
    · exact ⟨(World.Logged.refl world).handled, by rw [sane]; rfl⟩

/-- The call of the command on a block whose text is in the file. -/
def callOn (command : List String) (config : Config) (block : Block) (input : FilePath) : ProcessCall :=
  ⟨command ++ ["-t" ++ block.extension, input.text], input, block.source, config.outputDir, config.timeout⟩

def succeeds : ProcessResult → Bool
  | .exited code _ _ _ => code = 0
  | .notFound | .timedOut | .failed _ => false

theorem runCommand_run (command : List String) (config : Config) {input : FilePath}
    (holds : world.disk.read world.home input = .ok block.source.toUTF8) :
    let run := (runCommand command config block input).run world
    let call := callOn command config block input
    World.Handled (world.called call) run.2 ∧ run.1.isOk = succeeds (world.runProcess call) := by
  have read : ∀ log, (World.textAt input).run { world with log := log } = (block.source, { world with log := log }) :=
    fun log => World.textAt_run holds
  simp only [runCommand, run_bind, World.debug_run, read, World.start_run]
  have handled : ∀ log call, World.Handled (world.called call)
      { World.called { world with log := log } call with
        disk := World.diskAfter { world with log := log } call (world.runProcess call) } :=
    fun log call => ⟨_, world.drawnNames, world.readings, log, rfl⟩
  refine ⟨?_, ?_⟩
  · split <;> exact handled _ _
  · rw [callOn]
    split
    next found => rw [found]; rfl
    next found => rw [found]; rfl
    next cause found => rw [found]; rfl
    next code output errors removes found =>
      rw [found]
      by_cases zero : code = 0
      · simp only [run_pure, zero, if_true, succeeds, decide_true]
        rfl
      · simp only [run_pure, zero, if_false, succeeds, decide_false]
        rfl

theorem runTidily_run (command : List String) (config : Config) {input : FilePath}
    (holds : world.disk.read world.home input = .ok block.source.toUTF8) :
    let run := (runTidily command config block input).run world
    let call := callOn command config block input
    World.Handled (world.called call) run.2 ∧
      (run.1.isOk = true ↔ succeeds (world.runProcess call) = true ∧ world.deleteFault = none) := by
  obtain ⟨ran, ended⟩ := runCommand_run command config holds
  have faulty : ((runCommand command config block input).run world).2.deleteFault = world.deleteFault :=
    ran.deleteFault_eq
  obtain ⟨deleted, came⟩ := deleteTemporary_run input ((runCommand command config block input).run world).2
  rw [faulty] at came
  simp only [runTidily, run_bind]
  rw [← ended]
  split
  next cause failed =>
    have fails : ¬ (((runCommand command config block input).run world).1.isOk = true ∧ world.deleteFault = none) := by
      rw [failed]
      exact fun both => nomatch both.1
    rw [run_bind]
    split
    · exact ⟨ran.trans deleted, iff_of_false nofun fails⟩
    · exact ⟨(ran.trans deleted).trans ⟨_, _, _, _, rfl⟩, iff_of_false nofun fails⟩
  next code exited =>
    rw [run_bind, came, exited]
    cases world.deleteFault with
    | none => exact ⟨ran.trans deleted, ⟨fun _ => ⟨rfl, rfl⟩, fun _ => rfl⟩⟩
    | some cause => exact ⟨ran.trans deleted, iff_of_false nofun fun both => nomatch both.2⟩

theorem renderBlock_run (command : List String) (config : Config) (block : Block) (world : World) :
    let run := (renderBlock command config block).run world
    (World.Handled world run.2 ∧ ∃ cause, run.1 = .error (.noTemporaryFile cause)) ∨
      ∃ input, World.Handled (world.called (callOn command config block input)) run.2 ∧
        (run.1.isOk = true ↔
          succeeds (world.runProcess (callOn command config block input)) = true ∧ world.deleteFault = none) := by
  obtain ⟨made, came⟩ := makeTemporary_run config.outputDir block world
  simp only [renderBlock, run_bind]
  rcases came with ⟨cause, failed⟩ | ⟨path, succeeded, empty⟩
  · rw [failed]
    exact .inl ⟨made, cause, rfl⟩
  · rw [succeeded]
    obtain ⟨filled, came⟩ := fillTemporary_run block empty
    rw [run_bind]
    rcases came with ⟨cause, broken⟩ | ⟨whole, holds⟩
    · rw [broken]
      exact .inl ⟨made.trans filled, cause, rfl⟩
    · rw [whole]
      obtain ⟨ran, ended⟩ := runTidily_run command config holds
      have ready := made.trans filled
      refine .inr ⟨path, (ready.called (callOn command config block path)).trans ran, ?_⟩
      -- Neither the table of processes nor the fault of deletions has changed on the way.
      rw [← ready.runProcess_eq, ← ready.deleteFault_eq]
      exact ended

theorem work_eq (command : List String) (config : Config) (block : Block) (world : World) :
    let rendered := (renderBlock command config block).run world.ticked
    ((work command config block).run world).1 =
        (rendered.1.mapError fun cause => .rendering ⟨some block.title, cause⟩).map
          (fun _ => fileLocator config.baseRef block.outputName) ∧
      World.Logged rendered.2 ((work command config block).run world).2 := by
  constructor
  · rw [work, World.inSpan_run_fst, run_bind]
    cases ((renderBlock command config block).run world.ticked).1 <;> rfl
  · rw [work]
    refine World.Logged.trans ?_ (World.logged_inSpan _ _ _ _ world)
    rw [run_bind]
    split <;> exact .refl _

/-- What rendering a block comes to. Only a missing place for its file keeps the command from being started. -/
theorem work_run (command : List String) (config : Config) (block : Block) (world : World) :
    let run := (work command config block).run world
    (World.Handled world run.2 ∧ ∃ cause, run.1 = .error (.rendering ⟨some block.title, .noTemporaryFile cause⟩)) ∨
      ∃ input, World.Handled (world.called (callOn command config block input)) run.2 ∧
        if succeeds (world.runProcess (callOn command config block input)) ∧ world.deleteFault = none then
          run.1 = .ok (fileLocator config.baseRef block.outputName)
        else ∃ cause, run.1 = .error (.rendering ⟨some block.title, cause⟩) := by
  obtain ⟨result, logged⟩ := work_eq command config block world
  have ticked := (World.logged_ticked world).handled
  rcases renderBlock_run command config block world.ticked with ⟨handled, cause, failed⟩ | ⟨input, handled, ended⟩
  · rw [failed] at result
    exact .inl ⟨(ticked.trans handled).trans logged.handled, cause, result⟩
  · replace ended : _ ↔ succeeds (world.runProcess (callOn command config block input)) = true ∧
        world.deleteFault = none := ended
    refine .inr ⟨input, ((ticked.called _).trans handled).trans logged.handled, ?_⟩
    cases came : ((renderBlock command config block).run world.ticked).1 with
    | error cause =>
      rw [came] at result ended
      rw [if_neg fun both => nomatch ended.2 both]
      exact ⟨cause, result⟩
    | ok code =>
      rw [came] at result ended
      rw [if_pos (ended.1 rfl)]
      exact result

end LocalRender

end DiagramWeave
