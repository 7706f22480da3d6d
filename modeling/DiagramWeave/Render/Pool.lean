import DiagramWeave.Render.Assign

/-!
# Rendering side by side

A run over several blocks hands one task for each block to a pool of workers and then collects what comes of them. The
workers start waiting tasks whenever one of them is free, in any order, and finish them in any order; the collector
takes finished tasks in any order and gives their blocks the locators. The first failure that the collector meets ends
the collecting: tasks that still wait are cancelled one by one, while the workers go on, and the failure surfaces when
the workers have nothing left to do.

What happens is a list of events. A step is possible or not, so that the lists of possible steps are all the ways a
run can go. Every entry of the list is a block of its own.
-/
namespace DiagramWeave

/-- Gives a block what its work came to. `twice` is the failure of a block that already has a locator. -/
def Block.assign {ε : Type} (twice : Block → ε) (outcome : Except ε String) (block : Block) : Except ε Block :=
  match outcome with
  | .error failure => .error failure
  | .ok locator =>
    match block.locate? locator with
    | none => .error (twice block)
    | some located => .ok located

/-- How far a task has come. -/
inductive Stage where
  /-- Not yet handed to the pool. -/
  | unsent
  | waiting
  | running
  | finished
  /-- Taken by the collector. -/
  | collected
  | cancelled
  deriving DecidableEq, Repr

/-- The work on one block. -/
structure RenderTask where
  block : Block
  stage : Stage
  deriving DecidableEq, Repr

/-- What the collector is doing. -/
inductive Phase (ε : Type) where
  /-- The tasks before `sent` have been handed to the pool. -/
  | submitting (sent : Nat)
  | collecting
  /-- The tasks before `checked` have been cancelled where they waited. -/
  | cancelling (checked : Nat) (failure : ε)
  /-- It waits for the workers. -/
  | closing (failure : Option ε)
  /-- The run has ended, and its failure has surfaced if there is one. -/
  | ended (failure : Option ε)
  deriving DecidableEq, Repr

structure Pool (ε : Type) where
  /-- How many tasks may run at once. -/
  room : Nat
  tasks : List RenderTask
  /-- The tasks whose work was started, in the order of the starts. -/
  started : List Nat
  phase : Phase ε
  deriving DecidableEq, Repr

inductive PoolEvent where
  | submit
  | start (number : Nat)
  | finish (number : Nat)
  | collect (number : Nat)
  /-- The collector has collected every task. -/
  | gather
  | cancel
  /-- The collector leaves the pool. -/
  | leave
  deriving DecidableEq, Repr

namespace Pool

variable {ε : Type}

/-- The pool before anything has happened. -/
def start (workers : Int) (blocks : List Block) : Pool ε where
  room := min workers.toNat blocks.length
  tasks := blocks.map fun block => ⟨block, .unsent⟩
  started := []
  phase := .submitting 0

/-- The blocks as they are now. -/
def blocks (pool : Pool ε) : List Block :=
  pool.tasks.map RenderTask.block

/-- How many tasks are at a stage. -/
def count (pool : Pool ε) (stage : Stage) : Nat :=
  pool.tasks.countP fun task => task.stage = stage

/-- The pool with a task as it has become. -/
def setTask (pool : Pool ε) (number : Nat) (task : RenderTask) : Pool ε :=
  { pool with tasks := pool.tasks.set number task }

/-- The pool after an event, if the event is possible. The work on the block with a number comes to
    `outcome number`. -/
def step? (twice : Block → ε) (outcome : Nat → Except ε String) (pool : Pool ε) :
    PoolEvent → Option (Pool ε)
  | .submit =>
    match pool.phase with
    | .submitting sent =>
      match pool.tasks[sent]? with
      | some task => some { pool.setTask sent ⟨task.block, .waiting⟩ with phase := .submitting (sent + 1) }
      | none => some { pool with phase := .collecting }
    | _ => none
  | .start number =>
    match pool.tasks[number]? with
    | some ⟨block, .waiting⟩ =>
      if pool.count .running < pool.room then
        some { pool.setTask number ⟨block, .running⟩ with started := pool.started ++ [number] }
      else none
    | _ => none
  | .finish number =>
    match pool.tasks[number]? with
    | some ⟨block, .running⟩ => some (pool.setTask number ⟨block, .finished⟩)
    | _ => none
  | .collect number =>
    match pool.phase, pool.tasks[number]? with
    | .collecting, some ⟨block, .finished⟩ =>
      match block.assign twice (outcome number) with
      | .ok located => some (pool.setTask number ⟨located, .collected⟩)
      | .error failure =>
        some { pool.setTask number ⟨block, .collected⟩ with phase := .cancelling 0 failure }
    | _, _ => none
  | .gather =>
    match pool.phase with
    | .collecting =>
      if pool.count .collected = pool.tasks.length then some { pool with phase := .closing none } else none
    | _ => none
  | .cancel =>
    match pool.phase with
    | .cancelling checked failure =>
      match pool.tasks[checked]? with
      | some ⟨block, .waiting⟩ =>
        some { pool.setTask checked ⟨block, .cancelled⟩ with phase := .cancelling (checked + 1) failure }
      | some _ => some { pool with phase := .cancelling (checked + 1) failure }
      | none => some { pool with phase := .closing (some failure) }
    | _ => none
  | .leave =>
    match pool.phase with
    | .closing failure =>
      -- The workers take what waits before they stop.
      if pool.count .waiting = 0 ∧ pool.count .running = 0 then some { pool with phase := .ended failure }
      else none
    | _ => none

/-- The pool after events that are possible one after the other. -/
def run? (twice : Block → ε) (outcome : Nat → Except ε String) (pool : Pool ε) :
    List PoolEvent → Option (Pool ε)
  | [] => some pool
  | event :: events => (pool.step? twice outcome event).bind fun next => next.run? twice outcome events

end Pool

/-- Work that comes to `outcome number` when it is the work on the block with that number, and notes the
    numbers. The blocks are worked on in turn, so the number is how many there were before. -/
def workInTurn {ε : Type} (outcome : Nat → Except ε String) (_ : Block) :
    StateM (List Nat) (Except ε String) := do
  let started ← get
  set (started ++ [started.length])
  return outcome started.length

/-- What a run over blocks may come to, with the blocks whose work was started: blocks are worked on in turn or, where
    there are two or more of both blocks and workers, by a pool. -/
inductive RunEnds {ε : Type} (twice : Block → ε) (outcome : Nat → Except ε String) (workers : Int)
    (blocks : List Block) : Progress ε → List Nat → Prop
  | inTurn {progress : Progress ε} {started : List Nat} : sideBySide workers blocks = false →
      (runBlocks twice (workInTurn outcome) blocks).run [] = (progress, started) →
      RunEnds twice outcome workers blocks progress started
  | pooled {events : List PoolEvent} {pool : Pool ε} {failure : Option ε} : sideBySide workers blocks = true →
      (Pool.start workers blocks).run? twice outcome events = some pool → pool.phase = .ended failure →
      RunEnds twice outcome workers blocks ⟨pool.blocks, failure⟩ pool.started

end DiagramWeave
