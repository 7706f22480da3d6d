import DiagramWeave.Proofs.Pipeline.Links
import DiagramWeave.Proofs.Pipeline.Moments
import DiagramWeave.Proofs.Render.Results

/-!
# What rendering comes to

By each of the three strategies a block has one locator only, whichever world it is rendered in. So it is known what
the blocks of a run look like when it is over, in turn or side by side, and what failures it may end with.
-/
namespace DiagramWeave

variable {config : Config} {client : HttpClient} {blocks : List Block} {world after : World}
  {progress : Progress Failure}

namespace Config

/-- The locator that a block gets, if it gets one. -/
def locatorFor (config : Config) (block : Block) : String :=
  match config.strategy with
  | .localCommand | .remoteFetch => config.locatorOf block
  | .remoteUrl => blockUrl config.linkServer block

/-- What the work on a block may come to. -/
inductive Comes (config : Config) (block : Block) : Except Failure String → Prop
  | located : Comes config block (.ok (config.locatorFor block))
  | foreseen (cause : RenderCause) : Comes config block (.error (.rendering ⟨some block.title, cause⟩))
  | unnamed : config.strategy = .remoteFetch → '\x00' ∈ (config.targetOf block).text.toList →
      Comes config block (.error (.breakdown (.disk .nullCharacter)))

theorem locatorFor_of_images (images : config.strategy ≠ .remoteUrl) : config.locatorFor = config.locatorOf := by
  funext block
  cases strategy : config.strategy with
  | remoteUrl => exact absurd strategy images
  | localCommand | remoteFetch => simp only [locatorFor, strategy]

theorem exists_crafted (client : HttpClient) (images : config.strategy ≠ .remoteUrl) :
    ∃ (σ : Type) (craft : Craft σ) (stays : Block → σ → Prop),
      config.Crafted client craft ∧ craft.Yields stays config.Comes := by
  have own (block : Block) : config.Comes block (.ok (config.locatorOf block)) := by
    rw [← locatorFor_of_images images]
    exact .located
  cases strategy : config.strategy with
  | remoteUrl => exact absurd strategy images
  | localCommand =>
    refine ⟨_, _, _, crafted_command client strategy, (LocalRender.yields (commandWords config) config).mono ?_⟩
    rintro block result (rfl | ⟨cause, rfl⟩)
    · exact own block
    · exact .foreseen cause
  | remoteFetch =>
    refine ⟨_, _, _, crafted_fetch client strategy, (RemoteRender.yields client (config.server.getD "") config).mono ?_⟩
    rintro block result ⟨came, fetches, rfl⟩
    cases fetches with
    | fine => exact own block
    | foreseen cause => exact .foreseen cause
    | unnamed null => exact .unnamed strategy null

theorem step_comes (config : Config) (client : HttpClient) (block : Block) (world : World) :
    config.Comes block ((config.step client block).run world).1 := by
  by_cases links : config.strategy = .remoteUrl
  · have linked : ((config.step client block).run world).1 = .ok (config.locatorFor block) := by
      rw [step, locatorFor, links]
      rfl
    exact linked ▸ .located
  · obtain ⟨_, _, _, crafted, yields⟩ := exists_crafted client links
    obtain ⟨last, finished, goes⟩ := crafted.goes block world
    exact yields.of_goes goes finished

theorem Comes.locator_eq {block : Block} {locator : String} (comes : config.Comes block (.ok locator)) :
    locator = config.locatorFor block := by
  cases comes
  rfl

end Config

theorem renderBy_locates (unlocated : ∀ block ∈ blocks, block.locator = none) (world : World) :
    Locates config.locatorFor blocks ((renderBy config client blocks).run world).1 := by
  have inTurn (ready : World) :
      Locates config.locatorFor blocks ((runBlocks assignedTwice (config.step client) blocks).run ready).1 := by
    refine runBlocks_locates (fun block before locator came => ?_) unlocated ready
    have comes := config.step_comes client block before
    rw [came] at comes
    exact comes.locator_eq
  by_cases links : config.strategy = .remoteUrl
  · have linked : renderBy config client blocks = runBlocks assignedTwice (config.step client) blocks := by
      simp only [renderBy, Config.step, links]
    rw [linked]
    exact inTurn world
  · rw [renderBy_eq_renderInto links, renderInto, run_bind]
    cases ((makeOutputDirectory config.outputDir).run world).1 with
    | error failure => exact .unmoved failure
    | ok => exact inTurn _

/-- However a run over blocks has gone, the blocks have the locators that they are due. -/
theorem RenderEnds.locates (unlocated : ∀ block ∈ blocks, block.locator = none)
    (ends : RenderEnds config client blocks world progress after) : Locates config.locatorFor blocks progress := by
  cases ends with
  | inTurn => exact (render_run config client blocks world).1 ▸ renderBy_locates unlocated world.ticked
  | pooled several made pooled =>
    by_cases links : config.strategy = .remoteUrl
    · rw [Config.PooledEnds, links] at pooled
      exact pooled.elim
    · obtain ⟨_, _, _, crafted, yields⟩ := Config.exists_crafted client links
      exact (crafted.pooled _ _ _ _ pooled).locates yields fun block locator comes => comes.locator_eq

end DiagramWeave
