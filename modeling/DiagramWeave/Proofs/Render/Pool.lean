import DiagramWeave.Proofs.Render.InTurn

/-!
# Invariants of the pool

What a pool can do is said once, by a relation with one case for each kind of step. Two things follow from it by
cases. No step changes a block that has a locator. And the stage of a task says all there is to know about its work:
it was started just when the task runs, has finished or was collected, and its block is as it was unless the task was
collected. Which stages are left is told by what the collector is doing.
-/
namespace DiagramWeave

variable {ε : Type} {twice : Block → ε} {outcome : Nat → Except ε String}

def Stage.begun : Stage → Bool
  | .running | .finished | .collected => true
  | .unsent | .waiting | .cancelled => false

namespace Phase

def failure? : Phase ε → Option ε
  | .submitting _ | .collecting => none
  | .cancelling _ failure => some failure
  | .closing failure | .ended failure => failure

/-- A task with this number may be at this stage. -/
def Allows (number : Nat) (stage : Stage) : Phase ε → Prop
  | .submitting sent =>
    if number < sent then stage = .waiting ∨ stage = .running ∨ stage = .finished else stage = .unsent
  | .collecting => stage ≠ .unsent ∧ stage ≠ .cancelled
  | .cancelling checked _ => stage ≠ .unsent ∧ (number < checked → stage ≠ .waiting)
  | .closing none | .ended none => stage = .collected
  | .closing (some _) => stage ≠ .unsent ∧ stage ≠ .waiting
  | .ended (some _) => stage = .finished ∨ stage = .collected ∨ stage = .cancelled

end Phase

namespace Pool

inductive Step (twice : Block → ε) (outcome : Nat → Except ε String) (pool : Pool ε) : Pool ε → Prop
  | submit {sent : Nat} {task : RenderTask} : pool.phase = .submitting sent → pool.tasks[sent]? = some task →
      Step twice outcome pool { pool.setTask sent ⟨task.block, .waiting⟩ with phase := .submitting (sent + 1) }
  | submitted {sent : Nat} : pool.phase = .submitting sent → pool.tasks[sent]? = none →
      Step twice outcome pool { pool with phase := .collecting }
  | start {number : Nat} {block : Block} : pool.tasks[number]? = some ⟨block, .waiting⟩ →
      pool.count .running < pool.room →
      Step twice outcome pool { pool.setTask number ⟨block, .running⟩ with started := pool.started ++ [number] }
  | finish {number : Nat} {block : Block} : pool.tasks[number]? = some ⟨block, .running⟩ →
      Step twice outcome pool (pool.setTask number ⟨block, .finished⟩)
  | collect {number : Nat} {block located : Block} : pool.phase = .collecting →
      pool.tasks[number]? = some ⟨block, .finished⟩ → Gets (outcome number) block located →
      Step twice outcome pool (pool.setTask number ⟨located, .collected⟩)
  | fail {number : Nat} {block : Block} {failure : ε} : pool.phase = .collecting →
      pool.tasks[number]? = some ⟨block, .finished⟩ → block.assign twice (outcome number) = .error failure →
      Step twice outcome pool { pool.setTask number ⟨block, .collected⟩ with phase := .cancelling 0 failure }
  | gather : pool.phase = .collecting → pool.count .collected = pool.tasks.length →
      Step twice outcome pool { pool with phase := .closing none }
  | cancel {checked : Nat} {failure : ε} {block : Block} : pool.phase = .cancelling checked failure →
      pool.tasks[checked]? = some ⟨block, .waiting⟩ →
      Step twice outcome pool
        { pool.setTask checked ⟨block, .cancelled⟩ with phase := .cancelling (checked + 1) failure }
  | pass {checked : Nat} {failure : ε} {task : RenderTask} : pool.phase = .cancelling checked failure →
      pool.tasks[checked]? = some task → task.stage ≠ .waiting →
      Step twice outcome pool { pool with phase := .cancelling (checked + 1) failure }
  | cancelled {checked : Nat} {failure : ε} : pool.phase = .cancelling checked failure →
      pool.tasks[checked]? = none → Step twice outcome pool { pool with phase := .closing (some failure) }
  | leave {failure : Option ε} : pool.phase = .closing failure → pool.count .waiting = 0 →
      pool.count .running = 0 → Step twice outcome pool { pool with phase := .ended failure }

variable {pool next : Pool ε}

theorem step_of_step? {event : PoolEvent} (went : pool.step? twice outcome event = some next) :
    Step twice outcome pool next := by
  cases event with
  | submit =>
    simp only [step?] at went
    split at went
    next sent phase =>
      split at went
      next task here =>
        cases went
        exact .submit phase here
      next past =>
        cases went
        exact .submitted phase past
    · cases went
  | start number =>
    simp only [step?] at went
    split at went
    next block here =>
      split at went
      next free =>
        cases went
        exact .start here free
      · cases went
    · cases went
  | finish number =>
    simp only [step?] at went
    split at went
    next block here =>
      cases went
      exact .finish here
    · cases went
  | collect number =>
    simp only [step?] at went
    split at went
    next block phase here =>
      split at went
      next located assigned =>
        cases went
        exact .collect phase here (Block.assign_eq_ok.1 assigned)
      next failure failed =>
        cases went
        exact .fail phase here failed
    · cases went
  | gather =>
    simp only [step?] at went
    split at went
    next phase =>
      split at went
      next all =>
        cases went
        exact .gather phase all
      · cases went
    · cases went
  | cancel =>
    simp only [step?] at went
    split at went
    next checked failure phase =>
      split at went
      next block here =>
        cases went
        exact .cancel phase here
      next task other here =>
        cases went
        exact .pass phase here fun waits => other task.block (by rw [← waits])
      next past =>
        cases went
        exact .cancelled phase past
    · cases went
  | leave =>
    simp only [step?] at went
    split at went
    next failure phase =>
      split at went
      next idle =>
        cases went
        exact .leave phase idle.1 idle.2
      · cases went
    · cases went

/-- What every step preserves holds after a run. -/
theorem run?_induction {P : Pool ε → Prop} (step : ∀ {one other}, Step twice outcome one other → P one → P other)
    {events : List PoolEvent} (went : pool.run? twice outcome events = some next) (first : P pool) : P next := by
  induction events generalizing pool with
  | nil =>
    cases went
    exact first
  | cons event events ih =>
    obtain ⟨between, moved, rest⟩ := Option.bind_eq_some_iff.1 went
    exact ih rest (step (step_of_step? moved) first)

theorem length_blocks : pool.blocks.length = pool.tasks.length :=
  List.length_map ..

theorem getElem?_blocks {number : Nat} {task : RenderTask} (here : pool.tasks[number]? = some task) :
    pool.blocks[number]? = some task.block := by
  rw [blocks, List.getElem?_map, here, Option.map_some]

section tasks

variable {number : Nat} {task changed : RenderTask}

theorem getElem?_of_set (here : pool.tasks[number]? = some task) (set : next.tasks = pool.tasks.set number changed)
    (other : Nat) : next.tasks[other]? = if number = other then some changed else pool.tasks[other]? := by
  obtain ⟨inside, _⟩ := List.getElem?_eq_some_iff.1 here
  simp only [set, List.getElem?_set, inside, if_true]

/-! ### Locators are set once -/

/-- Blocks that have a locator are as they were. -/
def Keeps (pool next : Pool ε) : Prop :=
  ∀ (number : Nat) (block : Block), pool.blocks[number]? = some block → block.locator ≠ none →
    next.blocks[number]? = some block

theorem keeps_of_set (here : pool.tasks[number]? = some task) (set : next.tasks = pool.tasks.set number changed)
    (same : task.block.locator ≠ none → changed.block = task.block) : Keeps pool next := by
  intro other block there located
  simp only [blocks, List.getElem?_map, Option.map_eq_some_iff, getElem?_of_set here set] at there ⊢
  obtain ⟨found, there, rfl⟩ := there
  split
  next equal =>
    subst equal
    rw [here] at there
    cases there
    exact ⟨changed, rfl, same located⟩
  · exact ⟨found, there, rfl⟩

end tasks

theorem Step.keeps (step : Step twice outcome pool next) : Keeps pool next := by
  cases step with
  | submit phase here => exact keeps_of_set here rfl fun _ => rfl
  | start here free => exact keeps_of_set here rfl fun _ => rfl
  | finish here => exact keeps_of_set here rfl fun _ => rfl
  -- Only here a block changes, and it had no locator.
  | collect phase here gets => exact keeps_of_set here rfl fun located => absurd gets.1 located
  | fail phase here failed => exact keeps_of_set here rfl fun _ => rfl
  | cancel phase here => exact keeps_of_set here rfl fun _ => rfl
  | submitted | gather | pass | cancelled | leave => exact fun _ _ there _ => there

theorem keeps_run {events : List PoolEvent} (went : pool.run? twice outcome events = some next) :
    Keeps pool next :=
  run?_induction (P := Keeps pool) (fun step kept number block there located =>
    step.keeps number block (kept number block there located) located) went fun _ _ there _ => there

/-! ### What stages say -/

/-- What is known of a task: its stage fits what the collector does, its work was started if the stage says
    so, and its block is as it was, or it was collected with what its own work came to. -/
structure Fits (outcome : Nat → Except ε String) (phase : Phase ε) (started : List Nat) (number : Nat)
    (block : Block) (task : RenderTask) : Prop where
  allowed : phase.Allows number task.stage
  begun : number ∈ started ↔ task.stage.begun
  held : task.block = block ∧ (task.stage = .collected → phase.failure? ≠ none) ∨
    task.stage = .collected ∧ Gets (outcome number) block task.block

theorem allows_running {phase : Phase ε} {number : Nat} (allowed : phase.Allows number .waiting) :
    phase.Allows number .running := by
  rcases phase with sent | _ | ⟨checked, failure⟩ | (_ | failure) | (_ | failure) <;> simp_all [Phase.Allows]

theorem allows_finished {phase : Phase ε} {number : Nat} (allowed : phase.Allows number .running) :
    phase.Allows number .finished := by
  rcases phase with sent | _ | ⟨checked, failure⟩ | (_ | failure) | (_ | failure) <;> simp_all [Phase.Allows]

namespace Fits

variable {phase later : Phase ε} {started : List Nat} {number : Nat} {block : Block} {task changed : RenderTask}

theorem block_eq (fits : Fits outcome phase started number block task) (early : task.stage ≠ .collected) :
    task.block = block :=
  fits.held.elim And.left fun late => absurd late.1 early

theorem turn (fits : Fits outcome phase started number block task) (allowed : later.Allows number task.stage)
    (failure : later.failure? = none → phase.failure? = none) :
    Fits outcome later started number block task where
  allowed := allowed
  begun := fits.begun
  held := fits.held.imp_left fun ⟨same, failed⟩ => ⟨same, fun late fine => failed late (failure fine)⟩

theorem move (fits : Fits outcome phase started number block task)
    (allowed : later.Allows number changed.stage) (begun : changed.stage.begun = task.stage.begun)
    (same : changed.block = block) (failed : changed.stage = .collected → later.failure? ≠ none) :
    Fits outcome later started number block changed where
  allowed := allowed
  begun := by rw [begun, fits.begun]
  held := .inl ⟨same, failed⟩

end Fits

structure Sound (twice : Block → ε) (outcome : Nat → Except ε String) (blocks : List Block) (pool : Pool ε) :
    Prop where
  size : pool.tasks.length = blocks.length
  fits : ∀ number block task, blocks[number]? = some block → pool.tasks[number]? = some task →
    Fits outcome pool.phase pool.started number block task
  once : pool.started.Nodup
  inside : ∀ number ∈ pool.started, number < blocks.length
  blamed : ∀ failure, pool.phase.failure? = some failure → Blamed twice outcome blocks pool.started failure

variable {blocks : List Block}

theorem sound_start (workers : Int) : Sound twice outcome blocks (Pool.start workers blocks : Pool ε) where
  size := List.length_map ..
  fits number block task here there := by
    simp only [Pool.start, List.getElem?_map, here, Option.map_some, Option.some.injEq] at there
    subst there
    exact ⟨by simp [Pool.start, Phase.Allows], by simp [Pool.start, Stage.begun], by simp⟩
  once := List.nodup_nil
  inside := by simp [Pool.start]
  blamed _ failed := nomatch failed

namespace Sound

theorem block_at (sound : Sound twice outcome blocks pool) {number : Nat} {task : RenderTask}
    (here : pool.tasks[number]? = some task) :
    ∃ block, blocks[number]? = some block ∧ Fits outcome pool.phase pool.started number block task := by
  obtain ⟨inside, _⟩ := List.getElem?_eq_some_iff.1 here
  have found := List.getElem?_eq_getElem (sound.size ▸ inside)
  exact ⟨_, found, sound.fits number _ task found here⟩

theorem allows (sound : Sound twice outcome blocks pool) {number : Nat} {task : RenderTask}
    (here : pool.tasks[number]? = some task) : pool.phase.Allows number task.stage := by
  obtain ⟨_, _, fits⟩ := sound.block_at here
  exact fits.allowed

theorem task_at (sound : Sound twice outcome blocks pool) {number : Nat} {block : Block}
    (here : blocks[number]? = some block) :
    ∃ task, pool.tasks[number]? = some task ∧ Fits outcome pool.phase pool.started number block task := by
  obtain ⟨inside, _⟩ := List.getElem?_eq_some_iff.1 here
  have found := List.getElem?_eq_getElem (sound.size.symm ▸ inside)
  exact ⟨_, found, sound.fits number block _ here found⟩

theorem turn (sound : Sound twice outcome blocks pool) (phase : Phase ε)
    (allowed : ∀ number task, pool.tasks[number]? = some task → pool.phase.Allows number task.stage →
      phase.Allows number task.stage)
    (failure : phase.failure? = pool.phase.failure?) :
    Sound twice outcome blocks { pool with phase := phase } where
  size := sound.size
  fits number block task here there :=
    have fits := sound.fits number block task here there
    fits.turn (allowed number task there fits.allowed) fun fine => failure ▸ fine
  once := sound.once
  inside := sound.inside
  blamed cause failed := sound.blamed cause (failure ▸ failed)

theorem set {number : Nat} {task changed : RenderTask} (sound : Sound twice outcome blocks pool)
    (here : pool.tasks[number]? = some task) (set : next.tasks = pool.tasks.set number changed)
    (this : ∀ block, Fits outcome pool.phase pool.started number block task →
      Fits outcome next.phase next.started number block changed)
    (others : ∀ other block task, other ≠ number → Fits outcome pool.phase pool.started other block task →
      Fits outcome next.phase next.started other block task)
    (once : next.started.Nodup) (inside : ∀ number ∈ next.started, number < blocks.length)
    (blamed : ∀ failure, next.phase.failure? = some failure → Blamed twice outcome blocks next.started failure) :
    Sound twice outcome blocks next where
  size := by rw [set, List.length_set, sound.size]
  fits other block task atOther there := by
    rw [getElem?_of_set here set] at there
    split at there
    next equal =>
      subst equal
      cases there
      exact this block (sound.fits _ block _ atOther here)
    next apart => exact others other block task (Ne.symm apart) (sound.fits other block task atOther there)
  once := once
  inside := inside
  blamed := blamed

end Sound

theorem Step.sound (step : Step twice outcome pool next) (sound : Sound twice outcome blocks pool) :
    Sound twice outcome blocks next := by
  cases step with
  | @submit sent task phase here =>
    refine sound.set here rfl (fun block fits => ?_) (fun other block task apart fits => ?_) sound.once sound.inside
      fun failure failed => nomatch failed
    · -- The task was not sent before, so its work has not begun.
      have unsent : task.stage = .unsent := by simpa [phase, Phase.Allows] using fits.allowed
      exact fits.move (by simp [Phase.Allows]) (by simp [Stage.begun, unsent])
        (fits.block_eq (by simp [unsent])) (by simp)
    · refine fits.turn ?_ (by simp [phase, Phase.failure?])
      have allowed := fits.allowed
      simp only [phase, Phase.Allows] at allowed ⊢
      have same : other < sent + 1 ↔ other < sent := by omega
      simpa only [same] using allowed
  | @submitted sent phase past =>
    refine sound.turn _ (fun number task there allowed => ?_) (by rw [phase]; rfl)
    -- Every task is before the one that would be submitted next.
    have before : number < sent := by
      have inside := (List.getElem?_eq_some_iff.1 there).1
      have short := List.getElem?_eq_none_iff.1 past
      omega
    simp only [phase, Phase.Allows, before, if_true] at allowed
    rcases allowed with stage | stage | stage <;> simp [Phase.Allows, stage]
  | @start number block here free =>
    -- Only this step starts a work, and the task was waiting for it.
    obtain ⟨_, _, fits⟩ := sound.block_at here
    have fresh : number ∉ pool.started := by simp [fits.begun, Stage.begun]
    have inside : number < blocks.length := sound.size ▸ (List.getElem?_eq_some_iff.1 here).1
    refine sound.set here rfl (fun block fits => ?_) (fun other block task apart fits => ?_) ?_ ?_
      fun failure met => (sound.blamed failure met).mono fun _ => List.mem_append_left _
    · exact ⟨allows_running fits.allowed, by simp [Stage.begun], .inl ⟨fits.block_eq nofun, nofun⟩⟩
    · exact ⟨fits.allowed, by simp [apart, fits.begun], fits.held⟩
    · exact List.nodup_append.2 ⟨sound.once, by simp, by
        rintro one began _ last rfl
        exact fresh (List.mem_singleton.1 last ▸ began)⟩
    · intro one began
      rcases List.mem_append.1 began with began | last
      · exact sound.inside one began
      · exact List.mem_singleton.1 last ▸ inside
  | @finish number block here =>
    refine sound.set here rfl (fun block fits => ?_) (fun _ _ _ _ fits => fits) sound.once sound.inside sound.blamed
    exact fits.move (allows_finished fits.allowed) rfl (fits.block_eq nofun) nofun
  | @collect number block located phase here gets =>
    refine sound.set here rfl (fun original fits => ?_) (fun _ _ _ _ fits => fits) sound.once sound.inside sound.blamed
    -- A task that was not collected has its block as it was given.
    cases fits.block_eq nofun
    exact ⟨by simp [setTask, phase, Phase.Allows], fits.begun, .inr ⟨rfl, gets⟩⟩
  | @fail number block failure phase here failed =>
    obtain ⟨original, atNumber, fits⟩ := sound.block_at here
    cases fits.block_eq nofun
    refine sound.set here rfl (fun block fits => ?_) (fun other block task _ fits => ?_) sound.once sound.inside ?_
    · exact fits.move (by simp [Phase.Allows]) rfl (fits.block_eq nofun) (by simp [Phase.failure?])
    · have allowed := fits.allowed
      rw [phase] at allowed
      exact fits.turn ⟨allowed.1, by simp⟩ (by simp [Phase.failure?])
    · intro cause met
      cases met
      exact ⟨number, fits.begun.2 rfl, block, atNumber, Block.fails_of_assign failed⟩
  | gather phase all =>
    refine sound.turn _ (fun number task there allowed => ?_) (by rw [phase]; rfl)
    have every := List.countP_eq_length.1 all task (List.mem_of_getElem? there)
    simpa [Phase.Allows] using every
  | @cancel checked failure block phase here =>
    refine sound.set here rfl (fun block fits => ?_) (fun other block task apart fits => ?_) sound.once sound.inside ?_
    · exact fits.move (by simp [Phase.Allows]) rfl (fits.block_eq nofun) nofun
    · have allowed := fits.allowed
      rw [phase] at allowed
      refine fits.turn ⟨allowed.1, fun before => allowed.2 ?_⟩ (by simp [Phase.failure?])
      omega
    · exact fun cause failed => sound.blamed cause (by rw [phase]; exact failed)
  | @pass checked failure task phase here stage =>
    refine sound.turn _ (fun number other there allowed => ?_) (by rw [phase]; rfl)
    rw [phase] at allowed
    refine ⟨allowed.1, fun before => ?_⟩
    -- The task that was passed over did not wait; those before it were looked at already.
    rcases Nat.lt_succ_iff_lt_or_eq.1 before with before | rfl
    · exact allowed.2 before
    · rw [here] at there
      cases there
      exact stage
  | @cancelled checked failure phase past =>
    refine sound.turn _ (fun number task there allowed => ?_) (by rw [phase]; rfl)
    rw [phase] at allowed
    -- Every task was looked at, so none waits.
    have inside := (List.getElem?_eq_some_iff.1 there).1
    have short := List.getElem?_eq_none_iff.1 past
    exact ⟨allowed.1, allowed.2 (by omega)⟩
  | @leave failure phase noneWaits noneRuns =>
    refine sound.turn _ (fun number task there allowed => ?_) (by rw [phase]; rfl)
    have member := List.mem_of_getElem? there
    have settled := List.countP_eq_zero.1 noneRuns task member
    rw [phase] at allowed
    cases failure with
    | none => exact allowed
    | some failure => cases stage : task.stage <;> simp_all [Phase.Allows]

theorem sound_run {events : List PoolEvent} {workers : Int}
    (went : (Pool.start workers blocks).run? twice outcome events = some pool) :
    Sound twice outcome blocks pool :=
  run?_induction Step.sound went (sound_start workers)

end Pool
end DiagramWeave
