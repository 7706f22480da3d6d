import DiagramWeave.Proofs.Render.Pool
import Mathlib.Algebra.Ring.Nat

/-!
# Rendering side by side comes to what rendering in turn comes to

Every step of the pool brings it nearer to its end, and before the end there is always a step to take: a task that was
not collected waits, runs or has finished, and where no worker is free to start it one of the running tasks can
finish. So every run ends. When it has ended without a failure, every task was collected and every block has got what
its own work came to, which is what the plain loop gives it. When it has ended with a failure, no task waits or runs
any more.
-/
namespace DiagramWeave

variable {ε : Type} {twice : Block → ε} {outcome : Nat → Except ε String} {blocks : List Block}

namespace Pool

variable {pool next : Pool ε}

/-! ### Every run is finite -/

theorem sum_map_set {α : Type} (weight : α → Nat) {entries : List α} {number : Nat} {old : α}
    (here : entries[number]? = some old) (new : α) :
    ((entries.set number new).map weight).sum + weight old = (entries.map weight).sum + weight new := by
  induction entries generalizing number with
  | nil => cases here
  | cons entry entries ih =>
    cases number with
    | zero =>
      cases here
      simp only [List.set_cons_zero, List.map_cons, List.sum_cons]
      omega
    | succ number =>
      have rest := ih here
      simp only [List.set_cons_succ, List.map_cons, List.sum_cons]
      omega

end Pool

/-- How many steps a task at this stage can have before it. -/
def Stage.ahead : Stage → Nat
  | .unsent => 4
  | .waiting => 3
  | .running => 2
  | .finished => 1
  | .collected | .cancelled => 0

/-- How many steps the collector can have before it, not counting those on tasks. -/
def Phase.ahead (count : Nat) : Phase ε → Nat
  | .submitting _ => count + 4
  | .collecting => count + 3
  | .cancelling checked _ => count - checked + 2
  | .closing _ => 1
  | .ended _ => 0

namespace Pool

variable {pool next : Pool ε}

def ahead (pool : Pool ε) : Nat :=
  pool.phase.ahead pool.tasks.length + (pool.tasks.map fun task => task.stage.ahead).sum

theorem ahead_start (workers : Int) : (Pool.start workers blocks : Pool ε).ahead = 5 * blocks.length + 4 := by
  have each : (blocks.map fun _ => Stage.unsent.ahead).sum = blocks.length * 4 := by
    rw [List.map_const', List.sum_replicate_nat, Stage.ahead]
  simp only [ahead, start, Phase.ahead, List.length_map, List.map_map, Function.comp_def, each]
  omega

theorem ahead_of_set {number : Nat} {task changed : RenderTask} (here : pool.tasks[number]? = some task)
    (set : next.tasks = pool.tasks.set number changed)
    (nearer : next.phase.ahead pool.tasks.length + changed.stage.ahead <
      pool.phase.ahead pool.tasks.length + task.stage.ahead) : next.ahead < pool.ahead := by
  have sums := sum_map_set (fun task => task.stage.ahead) here changed
  simp only [ahead, set, List.length_set]
  omega

theorem Step.ahead_lt (step : Step twice outcome pool next) (sound : Sound twice outcome blocks pool) :
    next.ahead < pool.ahead := by
  cases step with
  | @submit sent task phase here =>
    have unsent : task.stage = .unsent := by simpa [phase, Phase.Allows] using sound.allows here
    exact ahead_of_set here rfl (by simp [phase, unsent, Phase.ahead, Stage.ahead])
  | start here | finish here => exact ahead_of_set here rfl (by simp [Stage.ahead, setTask])
  | collect phase here => exact ahead_of_set here rfl (by simp [Stage.ahead, setTask])
  | fail phase here => exact ahead_of_set here rfl (by simp [phase, Phase.ahead, Stage.ahead])
  | cancel phase here =>
    have inside := (List.getElem?_eq_some_iff.1 here).1
    exact ahead_of_set here rfl (by simp [phase, Phase.ahead, Stage.ahead]; omega)
  | pass phase here =>
    have inside := (List.getElem?_eq_some_iff.1 here).1
    simp only [ahead, phase, Phase.ahead]
    omega
  | submitted phase | gather phase | cancelled phase | leave phase =>
    simp only [ahead, phase, Phase.ahead]
    omega

theorem length_add_ahead_le {events : List PoolEvent} (sound : Sound twice outcome blocks pool)
    (went : pool.run? twice outcome events = some next) : events.length + next.ahead ≤ pool.ahead := by
  induction events generalizing pool with
  | nil =>
    cases went
    simp
  | cons event events ih =>
    obtain ⟨between, moved, rest⟩ := Option.bind_eq_some_iff.1 went
    have step := step_of_step? moved
    have nearer := step.ahead_lt sound
    have bound := ih (step.sound sound) rest
    simp only [List.length_cons]
    omega

/-! ### A run that has not ended goes on -/

theorem exists_finish (busy : pool.count .running ≠ 0) :
    ∃ event, (pool.step? twice outcome event).isSome := by
  obtain ⟨task, member, running⟩ := List.countP_pos_iff.1 (Nat.pos_of_ne_zero busy)
  obtain ⟨number, here⟩ := List.getElem?_of_mem member
  obtain ⟨block, stage⟩ := task
  cases of_decide_eq_true running
  exact ⟨.finish number, by simp only [step?, here, Option.isSome_some]⟩

theorem exists_step_collecting (sound : Sound twice outcome blocks pool) (room : 0 < pool.room)
    (phase : pool.phase = .collecting) : ∃ event, (pool.step? twice outcome event).isSome := by
  by_cases all : ∀ task ∈ pool.tasks, task.stage = .collected
  · have every : pool.count .collected = pool.tasks.length :=
      List.countP_eq_length.2 fun task member => decide_eq_true (all task member)
    exact ⟨.gather, by simp only [step?, phase, if_pos every, Option.isSome_some]⟩
  · simp only [Classical.not_forall] at all
    obtain ⟨⟨block, stage⟩, member, other⟩ := all
    obtain ⟨number, here⟩ := List.getElem?_of_mem member
    have allowed := sound.allows here
    rw [phase] at allowed
    -- Its stage says which step is possible.
    cases stage with
    | waiting =>
      by_cases free : pool.count .running < pool.room
      · exact ⟨.start number, by simp only [step?, here, if_pos free, Option.isSome_some]⟩
      -- All workers have something to do, and there is one worker at least.
      · exact exists_finish (by omega)
    | running => exact ⟨.finish number, by simp only [step?, here, Option.isSome_some]⟩
    | finished =>
      refine ⟨.collect number, ?_⟩
      simp only [step?, phase, here]
      cases block.assign twice (outcome number) <;> rfl
    | collected => exact absurd rfl other
    | unsent => exact absurd rfl allowed.1
    | cancelled => exact absurd rfl allowed.2

theorem Sound.none_waits {failure : Option ε} (sound : Sound twice outcome blocks pool)
    (phase : pool.phase = .closing failure) : pool.count .waiting = 0 := by
  refine List.countP_eq_zero.2 fun task member => ?_
  obtain ⟨number, here⟩ := List.getElem?_of_mem member
  have allowed := sound.allows here
  rw [phase] at allowed
  cases failure <;> simp_all [Phase.Allows]

theorem exists_step (sound : Sound twice outcome blocks pool) (room : 0 < pool.room)
    (goes : ∀ failure, pool.phase ≠ .ended failure) : ∃ event, (pool.step? twice outcome event).isSome := by
  cases phase : pool.phase with
  | submitting sent =>
    refine ⟨.submit, ?_⟩
    simp only [step?, phase]
    cases pool.tasks[sent]? <;> rfl
  | collecting => exact exists_step_collecting sound room phase
  | cancelling checked failure =>
    refine ⟨.cancel, ?_⟩
    simp only [step?, phase]
    split <;> rfl
  | closing failure =>
    by_cases idle : pool.count .running = 0
    · have noneWaits := sound.none_waits phase
      exact ⟨.leave, by simp only [step?, phase, noneWaits, idle, and_self, if_true, Option.isSome_some]⟩
    · exact exists_finish idle
  | ended failure => exact absurd phase (goes failure)

theorem Step.room_eq (step : Step twice outcome pool next) : next.room = pool.room := by
  cases step <;> rfl

theorem exists_end {pool : Pool ε} (sound : Sound twice outcome blocks pool) (room : 0 < pool.room) :
    ∃ events final failure, pool.run? twice outcome events = some final ∧ final.phase = .ended failure := by
  by_cases goes : ∀ failure, pool.phase ≠ .ended failure
  · -- Any possible step will do: each one leaves less ahead.
    obtain ⟨event, possible⟩ := exists_step sound room goes
    obtain ⟨next, went⟩ := Option.isSome_iff_exists.1 possible
    have step := step_of_step? went
    have nearer := step.ahead_lt sound
    obtain ⟨events, final, failure, rest, ended⟩ := exists_end (step.sound sound) (step.room_eq ▸ room)
    exact ⟨event :: events, final, failure, by simp only [run?, went, Option.bind_some, rest], ended⟩
  · simp only [ne_eq, Classical.not_forall, Classical.not_not] at goes
    obtain ⟨failure, ended⟩ := goes
    exact ⟨[], pool, failure, rfl, ended⟩
termination_by pool.ahead

/-! ### No more works run than there is room for -/

theorem count_of_set_le {number : Nat} {task changed : RenderTask} (here : pool.tasks[number]? = some task)
    (set : next.tasks = pool.tasks.set number changed) (stage : Stage) :
    next.count stage ≤ pool.count stage + if changed.stage = stage then 1 else 0 := by
  obtain ⟨inside, _⟩ := List.getElem?_eq_some_iff.1 here
  simp only [count, set, List.countP_set inside, decide_eq_true_eq]
  exact Nat.add_le_add_right (Nat.sub_le _ _) _

theorem Step.running_le (step : Step twice outcome pool next) (room : pool.count .running ≤ pool.room) :
    next.count .running ≤ next.room := by
  cases step with
  -- Only here one more work runs, and there was room for it.
  | start here free =>
    refine Nat.le_trans (count_of_set_le here rfl .running) ?_
    exact free
  | submit phase here | finish here =>
    refine Nat.le_trans (count_of_set_le here rfl .running) ?_
    exact room
  | collect phase here | fail phase here | cancel phase here =>
    refine Nat.le_trans (count_of_set_le here rfl .running) ?_
    exact room
  | submitted | gather | pass | cancelled | leave => exact room

theorem running_start (workers : Int) (blocks : List Block) :
    (Pool.start workers blocks : Pool ε).count .running ≤ (Pool.start workers blocks : Pool ε).room := by
  have none : (Pool.start workers blocks : Pool ε).count .running = 0 := by
    simp [Pool.start, count, List.countP_map]
  omega

/-! ### What has ended -/

theorem Sound.idle {task : RenderTask} {failure : Option ε} (sound : Sound twice outcome blocks pool)
    (ended : pool.phase = .ended failure) (member : task ∈ pool.tasks) :
    task.stage ≠ .waiting ∧ task.stage ≠ .running := by
  obtain ⟨number, here⟩ := List.getElem?_of_mem member
  have allowed := sound.allows here
  rw [ended] at allowed
  cases failure <;> cases stage : task.stage <;> simp_all [Phase.Allows]

theorem Sound.step?_eq_none {failure : Option ε} (sound : Sound twice outcome blocks pool)
    (ended : pool.phase = .ended failure) (event : PoolEvent) : pool.step? twice outcome event = none := by
  cases event with
  | start number =>
    simp only [step?]
    split
    next block here => exact absurd rfl (sound.idle ended (List.mem_of_getElem? here)).1
    · rfl
  | finish number =>
    simp only [step?]
    split
    next block here => exact absurd rfl (sound.idle ended (List.mem_of_getElem? here)).2
    · rfl
  | submit | collect | gather | cancel | leave => simp only [step?, ended]

/-- At no point of a run a work was started twice, a locator is lost or too many works run. Until the run has ended
    there is a step to take, and then no work runs or is left to start. -/
structure Orderly (twice : Block → ε) (outcome : Nat → Except ε String) (pool : Pool ε) : Prop where
  once : pool.started.Nodup
  fits : pool.count .running ≤ pool.room
  keeps : ∀ later next, pool.run? twice outcome later = some next → pool.Keeps next
  goes : (∀ failure, pool.phase ≠ .ended failure) → ∃ event, (pool.step? twice outcome event).isSome
  stops : ∀ failure, pool.phase = .ended failure →
    pool.count .waiting = 0 ∧ pool.count .running = 0 ∧ ∀ event, pool.step? twice outcome event = none

theorem Sound.orderly (sound : Sound twice outcome blocks pool) (room : 0 < pool.room)
    (fits : pool.count .running ≤ pool.room) : pool.Orderly twice outcome where
  once := sound.once
  fits := fits
  keeps _ _ went := keeps_run went
  goes := exists_step sound room
  stops failure ended := by
    refine ⟨List.countP_eq_zero.2 fun task member => ?_, List.countP_eq_zero.2 fun task member => ?_,
      sound.step?_eq_none ended⟩
    · simpa using (sound.idle ended member).1
    · simpa using (sound.idle ended member).2

end Pool

/-- What a run came to when it ended, whatever way it went: it fails just when it must, no work was started twice, and
    the blocks have got what their own works came to, all of them unless the run failed. -/
structure Settled (twice : Block → ε) (outcome : Nat → Except ε String) (blocks : List Block)
    (progress : Progress ε) (started : List Nat) : Prop where
  clean : progress.failure = none ↔ Clean outcome blocks
  once : started.Nodup
  completed : progress.failure = none →
    started.Perm (List.range blocks.length) ∧ Completed outcome blocks progress.blocks
  interrupted : ∀ failure, progress.failure = some failure →
    Blamed twice outcome blocks started failure ∧ Interrupted outcome blocks progress.blocks started

theorem settled_inTurn (twice : Block → ε) (outcome : Nat → Except ε String) (blocks : List Block) :
    Settled twice outcome blocks ((runBlocks twice (workInTurn outcome) blocks).run []).1
      ((runBlocks twice (workInTurn outcome) blocks).run []).2 := by
  rcases runBlocks_workInTurn twice outcome blocks 0 with
    ⟨fine, started, completed⟩ | ⟨last, failure, failed, started, blamed, interrupted⟩
  · exact {
      clean := ⟨fun _ => completed.clean, fun _ => fine⟩
      once := started ▸ List.nodup_range
      completed := fun _ => ⟨started ▸ List.Perm.refl _, completed⟩
      interrupted := fun _ failed => nomatch fine.symm.trans failed }
  · exact {
      clean := ⟨fun fine => absurd (fine.symm.trans failed) nofun,
        fun clean => absurd clean (not_clean_of_blamed blamed)⟩
      once := started ▸ List.nodup_range
      completed := fun fine => nomatch fine.symm.trans failed
      interrupted := fun other met => by
        cases failed.symm.trans met
        exact ⟨started ▸ blamed, started ▸ interrupted⟩ }

namespace Pool

variable {pool : Pool ε}

theorem Sound.completed (sound : Sound twice outcome blocks pool) (ended : pool.phase = .ended none) :
    pool.started.Perm (List.range blocks.length) ∧ Completed outcome blocks pool.blocks := by
  have collected : ∀ number block, blocks[number]? = some block → ∃ task, pool.tasks[number]? = some task ∧
      number ∈ pool.started ∧ Gets (outcome number) block task.block := by
    intro number block here
    obtain ⟨task, there, fits⟩ := sound.task_at here
    have stage : task.stage = .collected := by simpa [ended, Phase.Allows] using fits.allowed
    rcases fits.held with ⟨_, failed⟩ | ⟨_, gets⟩
    · exact absurd (by rw [ended]; rfl) (failed stage)
    · exact ⟨task, there, fits.begun.2 (by rw [stage]; rfl), gets⟩
  constructor
  · refine (List.perm_ext_iff_of_nodup sound.once List.nodup_range).2 fun number => ?_
    rw [List.mem_range]
    refine ⟨sound.inside number, fun inside => ?_⟩
    obtain ⟨_, _, begun, _⟩ := collected number _ (List.getElem?_eq_getElem inside)
    exact begun
  · refine ⟨length_blocks.trans sound.size, fun number block here => ?_⟩
    obtain ⟨task, there, _, gets⟩ := collected number block here
    exact ⟨task.block, getElem?_blocks there, gets⟩

theorem Sound.interrupted (sound : Sound twice outcome blocks pool) :
    Interrupted outcome blocks pool.blocks pool.started := by
  refine ⟨length_blocks.trans sound.size, fun number block here => ?_⟩
  obtain ⟨task, there, fits⟩ := sound.task_at here
  rcases fits.held with ⟨same, _⟩ | ⟨stage, gets⟩
  · exact .inl (same ▸ getElem?_blocks there)
  · exact .inr ⟨fits.begun.2 (by rw [stage]; rfl), task.block, getElem?_blocks there, gets⟩

theorem Sound.settled (sound : Sound twice outcome blocks pool) {failure : Option ε}
    (ended : pool.phase = .ended failure) :
    Settled twice outcome blocks ⟨pool.blocks, failure⟩ pool.started where
  clean := by
    cases failure with
    | none => exact ⟨fun _ => (sound.completed ended).2.clean, fun _ => rfl⟩
    | some cause =>
      have blamed := sound.blamed cause (by rw [ended]; rfl)
      exact ⟨nofun, fun clean => absurd clean (not_clean_of_blamed blamed)⟩
  once := sound.once
  completed fine := sound.completed (by rw [ended]; exact congrArg _ fine)
  interrupted cause failed := ⟨sound.blamed cause (by rw [ended]; exact failed), sound.interrupted⟩

end Pool

theorem room_of_sideBySide {workers : Int} (several : sideBySide workers blocks = true) :
    0 < min workers.toNat blocks.length := by
  simp only [sideBySide, Bool.and_eq_true, decide_eq_true_eq] at several
  omega

/-- Rendering in any order settles what rendering in turn settles. Whatever order works are started, finished and
    collected in, a run comes to an end, and this end has the blocks and the failure that it must have. -/
theorem runBlocks_settles (twice : Block → ε) (outcome : Nat → Except ε String) (workers : Int)
    (blocks : List Block) :
    let alone := (runBlocks twice (workInTurn outcome) blocks).run []
    (∃ progress started, RunEnds twice outcome workers blocks progress started) ∧
    (∀ progress started, RunEnds twice outcome workers blocks progress started →
      Settled twice outcome blocks progress started ∧
      (progress.failure = none ↔ alone.1.failure = none) ∧
      (progress.failure = none → progress.blocks = alone.1.blocks)) ∧
    (sideBySide workers blocks = true → ∀ events pool,
      (Pool.start workers blocks).run? twice outcome events = some pool →
      pool.room = min workers.toNat blocks.length ∧ events.length ≤ 5 * blocks.length + 4 ∧
        pool.Orderly twice outcome) := by
  intro alone
  have turn := settled_inTurn twice outcome blocks
  refine ⟨?_, fun progress started ends => ?_, fun several events pool went => ?_⟩
  · cases several : sideBySide workers blocks with
    | false => exact ⟨_, _, .inTurn several rfl⟩
    | true =>
      have sound : Pool.Sound twice outcome blocks (Pool.start workers blocks) := Pool.sound_start workers
      obtain ⟨events, pool, failure, went, ended⟩ := Pool.exists_end sound (room_of_sideBySide several)
      exact ⟨_, _, .pooled several went ended⟩
  · -- Either way the run has settled, and what settles without a failure is unique.
    have settled : Settled twice outcome blocks progress started := by
      cases ends with
      | inTurn _ ran =>
        rw [ran] at turn
        exact turn
      | pooled _ went ended => exact (Pool.sound_run went).settled ended
    refine ⟨settled, settled.clean.trans turn.clean.symm, fun fine => ?_⟩
    have fineAlone : alone.1.failure = none := turn.clean.2 (settled.clean.1 fine)
    exact (settled.completed fine).2.unique (turn.completed fineAlone).2
  · have bound := Pool.length_add_ahead_le (Pool.sound_start workers) went
    rw [Pool.ahead_start] at bound
    have room : pool.room = min workers.toNat blocks.length :=
      Pool.run?_induction (P := fun pool => pool.room = min workers.toNat blocks.length)
        (fun step same => step.room_eq.trans same) went rfl
    have fits : pool.count .running ≤ pool.room :=
      Pool.run?_induction (P := fun pool => pool.count .running ≤ pool.room) Pool.Step.running_le went
        (Pool.running_start workers blocks)
    have some : 0 < pool.room := room ▸ room_of_sideBySide several
    exact ⟨room, by omega, (Pool.sound_run went).orderly some fits⟩

def threeBlocks : List Block :=
  ["a", "b", "c"].map fun title => ⟨0, "", title, defaultFormat, "", 0, 0, none⟩

def secondBreaks : Nat → Except String String
  | 1 => .error "broken"
  | number => .ok (toString number)

theorem runEnds_cancelled :
    RunEnds Block.title secondBreaks 2 threeBlocks ⟨threeBlocks, some "broken"⟩ [0, 1] := by
  -- The third task still waits when the failure is met, and the first one runs until after that.
  have went : (Pool.start 2 threeBlocks).run? Block.title secondBreaks
      [.submit, .submit, .submit, .submit, .start 0, .start 1, .finish 1, .collect 1,
        .cancel, .cancel, .cancel, .cancel, .finish 0, .leave] =
      some ⟨2, threeBlocks.zipWith RenderTask.mk [.finished, .collected, .cancelled], [0, 1],
        .ended (some "broken")⟩ := rfl
  exact .pooled rfl went rfl

theorem runBlocks_settles_cancelled :
    RunEnds Block.title secondBreaks 2 threeBlocks ⟨threeBlocks, some "broken"⟩ [0, 1] ∧
    Blamed Block.title secondBreaks threeBlocks [0, 1] "broken" ∧
    ((runBlocks Block.title (workInTurn secondBreaks) threeBlocks).run []).1.failure ≠ none :=
  have settles := runBlocks_settles Block.title secondBreaks 2 threeBlocks
  have ended := settles.2.1 _ _ runEnds_cancelled
  ⟨runEnds_cancelled, (ended.1.interrupted _ rfl).1, fun fine => nomatch ended.2.1.2 fine⟩

end DiagramWeave
