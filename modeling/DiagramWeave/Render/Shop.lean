import DiagramWeave.Pipeline
import DiagramWeave.Render.Pool
import DiagramWeave.Render.Stations

/-!
# A pool at work

The pool says which works may go on, and the works change the world step by step: a work that runs may take its next
step at any time, and it has finished when it has a result. The collector takes the results as they are then. In this
way a run over blocks is a list of events again, now with the world that it leaves.
-/
namespace DiagramWeave

variable {σ : Type}

/-- Blocks with the stations of the works on them, in a world. -/
structure Bench (σ : Type) where
  works : List (Block × σ)
  world : World

namespace Bench

/-- All works are at their first stations. -/
def start (craft : Craft σ) (blocks : List Block) (world : World) : Bench σ :=
  ⟨blocks.map fun block => (block, craft.first), world⟩

/-- What the work with a number has come to, if it is over. -/
def result? (craft : Craft σ) (bench : Bench σ) (number : Nat) : Option (Except Failure String) :=
  bench.works[number]?.bind fun work => craft.result? work.1 work.2

/-- The bench when the work on a block has taken its next step. -/
def advance (craft : Craft σ) (bench : Bench σ) (number : Nat) (block : Block) (station : σ) : Bench σ :=
  let (next, world) := (craft.step block station).run bench.world
  ⟨bench.works.set number (block, next), world⟩

/-- The bench when a detail of the run has been noted. -/
def noted (bench : Bench σ) (message : String) : Bench σ :=
  { bench with world := ((World.debug message).run bench.world).2 }

end Bench

structure Shop (σ : Type) where
  pool : Pool Failure
  bench : Bench σ

inductive ShopEvent where
  | pool (event : PoolEvent)
  /-- The work with this number takes its next step. -/
  | work (number : Nat)
  deriving DecidableEq, Repr

namespace Shop

def start (craft : Craft σ) (workers : Int) (blocks : List Block) (world : World) : Shop σ :=
  ⟨.start workers blocks, .start craft blocks world⟩

/-- What the works have come to. That of a work which is not over is never asked for. -/
def outcome (craft : Craft σ) (shop : Shop σ) (number : Nat) : Except Failure String :=
  (shop.bench.result? craft number).getD (.ok "")

/-- A task finishes, and is collected, when its work is over. -/
def permits (craft : Craft σ) (shop : Shop σ) : PoolEvent → Bool
  | .finish number | .collect number => (shop.bench.result? craft number).isSome
  | .submit | .start _ | .gather | .cancel | .leave => true

/-- What the collector notes when the pool has become `next`: how many tasks it has cancelled, if there are any. -/
def remark? (pool next : Pool Failure) : Option String :=
  match pool.phase, next.phase with
  | .cancelling _ _, .closing _ =>
    if next.count .cancelled = 0 then none
    else some s!"Cancelled {next.count .cancelled} pending block renders"
  | _, _ => none

/-- The shop after an event, if the event is possible. -/
def step? (craft : Craft σ) (shop : Shop σ) : ShopEvent → Option (Shop σ)
  | .pool event =>
    if shop.permits craft event then
      (shop.pool.step? assignedTwice (shop.outcome craft) event).map fun next =>
        ⟨next, (remark? shop.pool next).elim shop.bench shop.bench.noted⟩
    else none
  | .work number =>
    match shop.pool.tasks[number]?, shop.bench.works[number]? with
    | some ⟨_, .running⟩, some (block, station) =>
      if (craft.result? block station).isNone then
        some { shop with bench := shop.bench.advance craft number block station }
      else none
    | _, _ => none

/-- The shop after events that are possible one after the other. -/
def run? (craft : Craft σ) (shop : Shop σ) : List ShopEvent → Option (Shop σ)
  | [] => some shop
  | event :: events => (shop.step? craft event).bind fun next => next.run? craft events

end Shop

/-- What a pool may come to when it renders blocks in a world, with the world that it leaves. -/
inductive ShopEnds (craft : Craft σ) (workers : Int) (blocks : List Block) (world : World) :
    Progress Failure → World → Prop
  | ended {events : List ShopEvent} {shop : Shop σ} {failure : Option Failure} :
      (Shop.start craft workers blocks world).run? craft events = some shop → shop.pool.phase = .ended failure →
      ShopEnds craft workers blocks world ⟨shop.pool.blocks, failure⟩ shop.bench.world

/-- What a pool may come to by the strategy of a configuration. Links are not made by a pool. -/
def Config.PooledEnds (config : Config) (client : HttpClient) (blocks : List Block) (world : World) :
    Progress Failure → World → Prop :=
  match config.strategy with
  | .localCommand =>
    ShopEnds (LocalRender.craft (commandWords config) config) config.workersFor blocks world
  | .remoteFetch =>
    ShopEnds (RemoteRender.craft client (config.server.getD "") config) config.workersFor blocks world
  | .remoteUrl => fun _ _ => False

/-- The span of a run over blocks when it ends. -/
def renderSpan (config : Config) (blocks : List Block) (progress : Progress Failure) : Span :=
  let span : Span := ⟨"plantmark.render." ++ config.strategy.name, [("blocks", .int blocks.length)]⟩
  if progress.failure.isSome then span else span.add none [("rendered", .int (locatedCount progress.blocks))]

/-- What rendering blocks in a world may come to, with the world after it. Blocks are rendered in turn or, where there
    are two or more of both blocks and workers, by a pool. -/
inductive RenderEnds (config : Config) (client : HttpClient) (blocks : List Block) (world : World) :
    Progress Failure → World → Prop
  | inTurn : RenderEnds config client blocks world ((render config client blocks).run world).1
      ((render config client blocks).run world).2
  | pooled {ready last : World} {progress : Progress Failure} : sideBySide config.workersFor blocks = true →
      (makeOutputDirectory config.outputDir).run { world with readings := world.readings + 1 } = (.ok (), ready) →
      config.PooledEnds client blocks ready progress last →
      RenderEnds config client blocks world progress
        ((World.endSpan (renderSpan config blocks progress) (world.clock world.readings) progress.failure).run last).2

end DiagramWeave
