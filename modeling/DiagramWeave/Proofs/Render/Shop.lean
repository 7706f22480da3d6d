import DiagramWeave.Proofs.Pipeline.Stages
import DiagramWeave.Proofs.Render.Bench
import DiagramWeave.Proofs.Render.SideBySide

/-!
# What a pool at work leaves behind

Seen from the pool the works come to something that is fixed: a result is looked at only when the work is over, and
then it stands. So the events of the pool are a run of the pool alone, and what is known of such runs holds here. Seen
from the bench a run of the pool is one of the ways to move. When the run has ended, every work is over or has not
begun, whether its task was collected, was left finished or was cancelled.
-/
namespace DiagramWeave

namespace Pool

variable {ε : Type} {twice : Block → ε} {outcome : Nat → Except ε String} {pool next : Pool ε}

/-- How the stage of the task with a number may turn with an event. -/
inductive Turns (pool : Pool ε) (event : PoolEvent) (number : Nat) : Stage → Stage → Prop
  | stays (stage : Stage) : Turns pool event number stage stage
  | sends (stage : Stage) : pool.phase = .submitting number → Turns pool event number stage .waiting
  | starts : Turns pool event number .waiting .running
  | finishes : event = .finish number → Turns pool event number .running .finished
  | collects : Turns pool event number .finished .collected
  | cancels : Turns pool event number .waiting .cancelled

theorem turns_of_set {event : PoolEvent} {number : Nat} {task changed : RenderTask}
    (here : pool.tasks[number]? = some task) (set : next.tasks = pool.tasks.set number changed)
    (turns : Turns pool event number task.stage changed.stage) {other : Nat} {after : RenderTask}
    (there : next.tasks[other]? = some after) :
    ∃ before, pool.tasks[other]? = some before ∧ Turns pool event other before.stage after.stage := by
  rw [getElem?_of_set here set] at there
  split at there
  next equal =>
    subst equal
    cases there
    exact ⟨task, here, turns⟩
  · exact ⟨after, there, .stays _⟩

/-- An event that finishes no task leaves the tasks as they are or sets one to another stage. -/
theorem tasks_of_step? {event : PoolEvent} (went : pool.step? twice outcome event = some next)
    (other : ∀ number, event ≠ .finish number) : next.tasks = pool.tasks ∨ ∃ number task changed,
      pool.tasks[number]? = some task ∧ next.tasks = pool.tasks.set number changed ∧ changed.stage ≠ .finished := by
  cases event with
  | finish number => exact absurd rfl (other number)
  | submit =>
    simp only [step?] at went
    split at went
    · split at went
      next here =>
        cases went
        exact .inr ⟨_, _, _, here, rfl, by simp⟩
      · cases went
        exact .inl rfl
    · cases went
  | start number =>
    simp only [step?] at went
    split at went
    next here =>
      split at went
      · cases went
        exact .inr ⟨_, _, _, here, rfl, by simp⟩
      · cases went
    · cases went
  | collect number =>
    simp only [step?] at went
    split at went
    next here =>
      split at went <;> cases went <;> exact .inr ⟨_, _, _, here, rfl, by simp⟩
    · cases went
  | cancel =>
    simp only [step?] at went
    split at went
    · split at went <;> cases went
      next here => exact .inr ⟨_, _, _, here, rfl, by simp⟩
      · exact .inl rfl
      · exact .inl rfl
    · cases went
  | gather | leave =>
    simp only [step?] at went
    split at went
    · split at went <;> cases went
      exact .inl rfl
    · cases went

/-- Only its own event lets a running task finish. -/
theorem eq_finish_of_step? {event : PoolEvent} (went : pool.step? twice outcome event = some next) {number : Nat}
    {before after : RenderTask} (here : pool.tasks[number]? = some before) (running : before.stage = .running)
    (there : next.tasks[number]? = some after) (finished : after.stage = .finished) : event = .finish number := by
  have moved : next.tasks[number]? ≠ pool.tasks[number]? := by
    intro same
    cases here.symm.trans (same.symm.trans there)
    cases running.symm.trans finished
  by_cases own : ∃ other, event = .finish other
  · obtain ⟨other, rfl⟩ := own
    simp only [step?] at went
    split at went
    next block found =>
      cases went
      by_cases same : other = number
      · rw [same]
      · exact absurd ((getElem?_of_set found rfl number).trans (if_neg same)) moved
    · cases went
  · rcases tasks_of_step? went (not_exists.1 own) with same | ⟨other, task, changed, found, set, unfinished⟩
    · exact absurd (congrArg (·[number]?) same) moved
    · rw [getElem?_of_set found set] at there moved
      by_cases same : other = number
      · rw [if_pos same] at there
        cases there
        exact absurd finished unfinished
      · exact absurd (if_neg same) moved

theorem turns_of_step? {event : PoolEvent} (went : pool.step? twice outcome event = some next) {number : Nat}
    {after : RenderTask} (there : next.tasks[number]? = some after) :
    ∃ before, pool.tasks[number]? = some before ∧ Turns pool event number before.stage after.stage := by
  have step := step_of_step? went
  cases step with
  | submit phase here => exact turns_of_set here rfl (.sends _ phase) there
  | start here => exact turns_of_set here rfl .starts there
  | @finish other block here =>
    have set : (pool.setTask other ⟨block, .finished⟩).tasks[other]? = some ⟨block, .finished⟩ := by
      rw [getElem?_of_set here rfl, if_pos rfl]
    exact turns_of_set here rfl (.finishes (eq_finish_of_step? went here rfl set rfl)) there
  | collect phase here => exact turns_of_set here rfl .collects there
  | fail phase here => exact turns_of_set here rfl .collects there
  | cancel phase here => exact turns_of_set here rfl .cancels there
  | submitted | gather | pass | cancelled | leave => exact ⟨after, there, .stays _⟩

end Pool

namespace Shop

variable {σ : Type} {craft : Craft σ} {shop next final : Shop σ} {blocks : List Block}

inductive Step (craft : Craft σ) (shop : Shop σ) : Shop σ → Prop
  | pool {event : PoolEvent} {next : Pool Failure} {bench : Bench σ} : shop.permits craft event = true →
      shop.pool.step? assignedTwice (shop.outcome craft) event = some next →
      (bench = shop.bench ∨ ∃ message, bench = shop.bench.noted message) → Step craft shop ⟨next, bench⟩
  | work {number : Nat} {held block : Block} {station : σ} :
      shop.pool.tasks[number]? = some ⟨held, .running⟩ → shop.bench.works[number]? = some (block, station) →
      craft.result? block station = none →
      Step craft shop { shop with bench := shop.bench.advance craft number block station }

theorem step_of_step? {event : ShopEvent} (went : shop.step? craft event = some next) : Step craft shop next := by
  cases event with
  | pool event =>
    simp only [step?] at went
    split at went
    next permitted =>
      obtain ⟨pool, moved, rfl⟩ := Option.map_eq_some_iff.1 went
      refine .pool permitted moved ?_
      cases remark? shop.pool pool with
      | none => exact .inl rfl
      | some message => exact .inr ⟨message, rfl⟩
    · cases went
  | work number =>
    simp only [step?] at went
    split at went
    next running here =>
      split at went
      next goesOn =>
        cases went
        exact .work running here (Option.isNone_iff_eq_none.1 goesOn)
      · cases went
    · cases went

theorem Step.reaches (step : Step craft shop next) : shop.bench.Reaches craft next.bench := by
  cases step with
  | pool _ _ bench =>
    rcases bench with rfl | ⟨message, rfl⟩
    · exact .refl _
    · exact .single (.note message)
  | work _ here goesOn => exact .single (.work here goesOn)

theorem run?_reaches {events : List ShopEvent} (went : shop.run? craft events = some final) :
    shop.bench.Reaches craft final.bench := by
  induction events generalizing shop with
  | nil =>
    cases went
    exact .refl _
  | cons event events ih =>
    obtain ⟨between, moved, rest⟩ := Option.bind_eq_some_iff.1 went
    exact (step_of_step? moved).reaches.trans (ih rest)

/-! ### Seen from the pool -/

theorem outcome_eq (reached : shop.bench.Reaches craft final.bench) {number : Nat}
    (finished : (shop.bench.result? craft number).isSome) : shop.outcome craft number = final.outcome craft number := by
  obtain ⟨result, came⟩ := Option.isSome_iff_exists.1 finished
  rw [outcome, outcome, came, reached.result?_eq came]

/-- The pool cannot tell what the works have come to from what they will have come to in the end. -/
theorem step?_eq (reached : shop.bench.Reaches craft final.bench) {event : PoolEvent}
    (permitted : shop.permits craft event = true) :
    shop.pool.step? assignedTwice (shop.outcome craft) event =
      shop.pool.step? assignedTwice (final.outcome craft) event := by
  cases event with
  | collect number => simp only [Pool.step?, outcome_eq reached permitted]
  | submit | start | finish | gather | cancel | leave => rfl

/-- The works of tasks that wait or were cancelled have not begun; those of tasks that have finished are over. -/
structure Matches (craft : Craft σ) (shop : Shop σ) : Prop where
  idle : ∀ (number : Nat) (task : RenderTask) (work : Block × σ), shop.pool.tasks[number]? = some task →
    shop.bench.works[number]? = some work → task.stage.begun = false → work.2 = craft.first
  finished : ∀ (number : Nat) (task : RenderTask), shop.pool.tasks[number]? = some task →
    task.stage = .finished ∨ task.stage = .collected → (shop.bench.result? craft number).isSome

theorem matches_start (workers : Int) (blocks : List Block) (world : World) :
    (start craft workers blocks world).Matches craft where
  idle number task work _ here _ := by
    obtain ⟨block, _, rfl⟩ := List.mem_map.1 (List.mem_of_getElem? here)
    rfl
  finished number task here late := by
    obtain ⟨block, _, rfl⟩ := List.mem_map.1 (List.mem_of_getElem? here)
    simp at late

theorem Step.matches {outcome : Nat → Except Failure String} (step : Step craft shop next)
    (sound : Pool.Sound assignedTwice outcome blocks shop.pool) (fits : shop.Matches craft) : next.Matches craft := by
  cases step with
  | @pool event pool bench permitted moved noted =>
    -- What is noted leaves the works alone.
    have works : bench.works = shop.bench.works := by
      rcases noted with rfl | ⟨message, rfl⟩ <;> rfl
    have results (number : Nat) : bench.result? craft number = shop.bench.result? craft number := by
      rw [Bench.result?, Bench.result?, works]
    constructor
    case idle =>
      intro number after work there here unbegun
      obtain ⟨before, was, turns⟩ := Pool.turns_of_step? moved there
      rw [works] at here
      refine fits.idle number before work was here ?_
      have allowed := sound.allows was
      generalize before.stage = early at turns allowed ⊢
      generalize after.stage = late at turns unbegun
      cases turns with
      | stays => exact unbegun
      | sends _ phase =>
        have unsent : early = .unsent := by simpa [phase, Phase.Allows] using allowed
        rw [unsent]
        rfl
      | starts | finishes | collects => cases unbegun
      | cancels => rfl
    case finished =>
      intro number after there late
      obtain ⟨before, was, turns⟩ := Pool.turns_of_step? moved there
      rw [results]
      have known := fits.finished number before was
      generalize before.stage = early at turns known
      generalize after.stage = last at turns late
      cases turns with
      | stays => exact known late
      | finishes own =>
        -- A task may finish only when its work is over.
        rw [own] at permitted
        exact permitted
      | collects => exact known (.inl rfl)
      | sends | starts | cancels => simp at late
  | @work number held block station running here goesOn =>
    have move : shop.bench.Moves craft (shop.bench.advance craft number block station) := .work here goesOn
    constructor
    case idle =>
      intro other task work there stands unbegun
      rw [Bench.getElem?_advance here] at stands
      split at stands
      next equal =>
        -- The work that took the step belongs to a running task.
        subst equal
        cases running.symm.trans there
        cases unbegun
      · exact fits.idle other task work there stands unbegun
    case finished =>
      intro other task there late
      obtain ⟨result, came⟩ := Option.isSome_iff_exists.1 (fits.finished other task there late)
      exact Option.isSome_iff_exists.2 ⟨result, move.result?_eq came⟩

theorem run?_sound {events : List ShopEvent} (went : shop.run? craft events = some final)
    (sound : Pool.Sound assignedTwice (final.outcome craft) blocks shop.pool) (fits : shop.Matches craft) :
    Pool.Sound assignedTwice (final.outcome craft) blocks final.pool ∧ final.Matches craft := by
  induction events generalizing shop with
  | nil =>
    cases went
    exact ⟨sound, fits⟩
  | cons event events ih =>
    obtain ⟨between, moved, rest⟩ := Option.bind_eq_some_iff.1 went
    have step := step_of_step? moved
    refine ih rest ?_ (step.matches sound fits)
    have reached := step.reaches.trans (run?_reaches rest)
    cases step with
    | pool permitted turned =>
      rw [step?_eq reached permitted] at turned
      exact (Pool.step_of_step? turned).sound sound
    | work => exact sound

/-! ### When the run has ended -/

theorem accounts_of_ended {failure : Option Failure}
    (sound : Pool.Sound assignedTwice (final.outcome craft) blocks final.pool) (fits : final.Matches craft)
    (same : final.bench.works.map Prod.fst = blocks) (ended : final.pool.phase = .ended failure) :
    final.bench.Accounts craft failure := by
  have sizes : final.bench.works.length = blocks.length := by rw [← same, List.length_map]
  have came {number : Nat} {work : Block × σ} (here : final.bench.works[number]? = some work) :
      final.bench.result? craft number = craft.result? work.1 work.2 := by rw [Bench.result?, here, Option.bind_some]
  have blockOf {number : Nat} {work : Block × σ} (here : final.bench.works[number]? = some work) :
      blocks[number]? = some work.1 := by rw [← same, List.getElem?_map, here, Option.map_some]
  constructor
  case quiet =>
    intro work member
    obtain ⟨number, here⟩ := List.getElem?_of_mem member
    obtain ⟨task, there, _⟩ := sound.task_at (blockOf here)
    have allowed := sound.allows there
    rw [ended] at allowed
    by_cases late : task.stage = .finished ∨ task.stage = .collected
    · exact .inr (came here ▸ fits.finished number task there late)
    · -- Only cancelled tasks are left, and none of them was started.
      refine .inl (fits.idle number task work there here ?_)
      have cancelled : task.stage = .cancelled := by
        cases failure with
        | none => exact absurd (.inr allowed) late
        | some cause => exact (or_assoc.2 allowed).resolve_left late
      rw [cancelled]
      rfl
  case fine =>
    rintro rfl work member
    obtain ⟨number, here⟩ := List.getElem?_of_mem member
    obtain ⟨task, there, _⟩ := sound.task_at (blockOf here)
    have collected : task.stage = .collected := by simpa [ended, Phase.Allows] using sound.allows there
    obtain ⟨result, finished⟩ := Option.isSome_iff_exists.1 (fits.finished number task there (.inr collected))
    obtain ⟨_, _, _, locator, fine, _⟩ := (sound.completed ended).2.gets number work.1 (blockOf here)
    rw [outcome, finished, Option.getD_some] at fine
    exact ⟨locator, by rw [← came here, finished, fine]⟩
  case blamed =>
    rintro cause rfl
    obtain ⟨number, _, block, there, blamed⟩ := sound.blamed cause (by rw [ended]; rfl)
    have inside := (List.getElem?_eq_some_iff.1 there).1
    have here := List.getElem?_eq_getElem (sizes ▸ inside : number < final.bench.works.length)
    refine ⟨_, List.mem_of_getElem? here, ?_⟩
    rw [← came here]
    rcases blamed with failed | ⟨located, twice⟩
    · left
      rw [outcome] at failed
      cases finished : final.bench.result? craft number with
      | none =>
        -- A work that is not over has nothing that could be a failure.
        rw [finished] at failed
        cases failed
      | some result =>
        rw [finished, Option.getD_some] at failed
        rw [failed]
    · right
      cases (blockOf here).symm.trans there
      exact ⟨located, twice⟩

end Shop

/-- A run of a pool is one of the ways in which the works can take their steps. -/
theorem ShopEnds.reaches {σ : Type} {craft : Craft σ} {workers : Int} {blocks : List Block} {ready last : World}
    {progress : Progress Failure} (ends : ShopEnds craft workers blocks ready progress last) :
    ∃ bench, (Bench.start craft blocks ready).Reaches craft bench ∧ bench.world = last ∧
      bench.Accounts craft progress.failure := by
  cases ends with
  | @ended events shop failure went ended =>
    have reached : (Bench.start craft blocks ready).Reaches craft shop.bench := Shop.run?_reaches went
    obtain ⟨sound, fits⟩ := Shop.run?_sound went (Pool.sound_start workers) (Shop.matches_start workers blocks ready)
    have same := reached.blocks_eq.trans (Bench.blocks_start craft blocks ready)
    exact ⟨shop.bench, reached, rfl, Shop.accounts_of_ended sound fits same ended⟩

end DiagramWeave
