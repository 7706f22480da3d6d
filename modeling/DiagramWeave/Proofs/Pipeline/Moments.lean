import DiagramWeave.Proofs.Pipeline.InOrder
import DiagramWeave.Proofs.Render.Shop

/-!
# What the world is like during a run

However the works on the blocks interrupt each other, and wherever a run is or has stopped, the world is one of those
that the bench gets to from the world in which the output directory was made. What is shown of all these worlds holds
of a run at any time.
-/
namespace DiagramWeave

variable {config : Config} {client : HttpClient} {blocks : List Block} {world before after : World}
  {progress : Progress Failure}

/-- The second world differs from the first in the clock and in further records of the log. -/
def World.Noted (before after : World) : Prop :=
  ∃ readings records, after = { before with readings := readings, log := before.log ++ records }

theorem World.Noted.refl (world : World) : World.Noted world world :=
  ⟨world.readings, [], by rw [List.append_nil]⟩

theorem World.Noted.trans {first second third : World} (one : World.Noted first second)
    (two : World.Noted second third) : World.Noted first third := by
  obtain ⟨_, early, rfl⟩ := one
  obtain ⟨readings, late, rfl⟩ := two
  exact ⟨readings, early ++ late, by rw [List.append_assoc]⟩

theorem World.Noted.logged {first second : World} (noted : World.Noted first second) : World.Logged first second := by
  obtain ⟨readings, records, rfl⟩ := noted
  exact ⟨readings, _, rfl⟩

/-- The craft is that of the configuration. -/
structure Config.Crafted {σ : Type} (config : Config) (client : HttpClient) (craft : Craft σ) : Prop where
  images : config.strategy ≠ .remoteUrl
  goes : ∀ block world, ∃ last, craft.result? block last = some ((config.step client block).run world).1 ∧
    craft.Goes block craft.first world last ((config.step client block).run world).2
  pooled : ∀ blocks ready progress last, config.PooledEnds client blocks ready progress last →
    ShopEnds craft config.workersFor blocks ready progress last

theorem Config.crafted_command (client : HttpClient) (commands : config.strategy = .localCommand) :
    config.Crafted client (LocalRender.craft (commandWords config) config) where
  images := by rw [commands]; nofun
  goes block world := by
    rw [Config.step, commands]
    exact LocalRender.goes_work (commandWords config) config block world
  pooled blocks ready progress last ends := by
    rw [Config.PooledEnds, commands] at ends
    exact ends

theorem Config.crafted_fetch (client : HttpClient) (fetches : config.strategy = .remoteFetch) :
    config.Crafted client (RemoteRender.craft client (config.server.getD "") config) where
  images := by rw [fetches]; nofun
  goes block world := by
    rw [Config.step, fetches]
    exact RemoteRender.goes_work client (config.server.getD "") config block world
  pooled blocks ready progress last ends := by
    rw [Config.PooledEnds, fetches] at ends
    exact ends

theorem renderBy_eq_renderInto (images : config.strategy ≠ .remoteUrl) :
    renderBy config client blocks = renderInto config.outputDir (config.step client) blocks := by
  cases strategy : config.strategy with
  | remoteUrl => exact absurd strategy images
  | localCommand | remoteFetch => simp only [renderBy, Config.step, strategy]

/-- Either there is no output directory and nothing is rendered, or the works take their steps in the directory. -/
inductive MadeOrWorks {σ : Type} (config : Config) (craft : Craft σ) (blocks : List Block) (before : World) :
    Option Failure → World → Prop
  | unmade {failure : Failure} {ready after : World} :
      (makeOutputDirectory config.outputDir).run before = (.error failure, ready) → World.Noted ready after →
      MadeOrWorks config craft blocks before (some failure) after
  | works {failure : Option Failure} {ready after : World} {bench : Bench σ} :
      (makeOutputDirectory config.outputDir).run before = (.ok (), ready) →
      (Bench.start craft blocks ready).Reaches craft bench → World.Noted bench.world after →
      bench.Accounts craft failure → MadeOrWorks config craft blocks before failure after

section

variable {σ : Type} {craft : Craft σ}

theorem MadeOrWorks.noted {failure : Option Failure} {one other : World}
    (settled : MadeOrWorks config craft blocks before failure one) (noted : World.Noted one other) :
    MadeOrWorks config craft blocks before failure other := by
  cases settled with
  | unmade made last => exact .unmade made (last.trans noted)
  | works made reached last accounts => exact .works made reached (last.trans noted) accounts

theorem renderBy_madeOrWorks (crafted : config.Crafted client craft) (blocks : List Block) (before : World) :
    MadeOrWorks config craft blocks before ((renderBy config client blocks).run before).1.failure
      ((renderBy config client blocks).run before).2 := by
  cases made : (makeOutputDirectory config.outputDir).run before with
  | mk result ready =>
    cases result with
    | error failure =>
      have stopped : (renderBy config client blocks).run before = (⟨blocks, some failure⟩, ready) := by
        rw [renderBy_eq_renderInto crafted.images, renderInto, run_bind, made]
        rfl
      rw [stopped]
      exact .unmade made (.refl ready)
    | ok =>
      have there : ((makeOutputDirectory config.outputDir).run before).1 = .ok () := by rw [made]
      have ran : (renderBy config client blocks).run before = _ := renderBy_run crafted.images there blocks
      obtain ⟨bench, reached, ended, accounts⟩ := Bench.runBlocks_reaches crafted.goes blocks ready
      rw [ran, made]
      exact .works made reached (ended ▸ .refl _) accounts

theorem RenderEnds.madeOrWorks (crafted : config.Crafted client craft)
    (ends : RenderEnds config client blocks world progress after) :
    MadeOrWorks config craft blocks world.ticked progress.failure after := by
  cases ends with
  | inTurn =>
    rw [(render_run config client blocks world).1]
    exact (renderBy_madeOrWorks crafted blocks world.ticked).noted ⟨_, _, rfl⟩
  | pooled several made pooled =>
    obtain ⟨bench, reached, rfl, accounts⟩ := (crafted.pooled _ _ _ _ pooled).reaches
    exact .works made reached ⟨_, _, rfl⟩ accounts

end

/-- What the world may be like at some time of a run over blocks. -/
inductive Passes (config : Config) (client : HttpClient) (blocks : List Block) (world : World) : World → Prop
  /-- Nothing has been rendered. -/
  | noted {now : World} : World.Logged world now → Passes config client blocks world now
  | prepared {before now : World} : config.strategy ≠ .remoteUrl → World.Logged world before →
      World.Logged ((makeOutputDirectory config.outputDir).run before).2 now → Passes config client blocks world now
  | commanded {before ready now : World} {bench : Bench LocalRender.Station} : config.strategy = .localCommand →
      World.Logged world before → (makeOutputDirectory config.outputDir).run before = (.ok (), ready) →
      (Bench.start (LocalRender.craft (commandWords config) config) blocks ready).Reaches
        (LocalRender.craft (commandWords config) config) bench →
      World.Logged bench.world now → Passes config client blocks world now
  | fetched {before ready now : World} {bench : Bench RemoteRender.Station} : config.strategy = .remoteFetch →
      World.Logged world before → (makeOutputDirectory config.outputDir).run before = (.ok (), ready) →
      (Bench.start (RemoteRender.craft client (config.server.getD "") config) blocks ready).Reaches
        (RemoteRender.craft client (config.server.getD "") config) bench →
      World.Logged bench.world now → Passes config client blocks world now

theorem Passes.logged {one other : World} (passes : Passes config client blocks world one)
    (logged : World.Logged one other) : Passes config client blocks world other := by
  cases passes with
  | noted sooner => exact .noted (sooner.trans logged)
  | prepared images start made => exact .prepared images start (made.trans logged)
  | commanded commands start made reached last => exact .commanded commands start made reached (last.trans logged)
  | fetched fetches start made reached last => exact .fetched fetches start made reached (last.trans logged)

theorem runBlocks_linkWork_snd (server : String) (blocks : List Block) (world : World) :
    ((runBlocks assignedTwice (RemoteRender.linkWork server) blocks).run world).2 = world := by
  induction blocks with
  | nil => rfl
  | cons block blocks ih =>
    have worked : (RemoteRender.linkWork server block).run world = (.ok (blockUrl server block), world) := rfl
    simp only [runBlocks_run_cons, worked]
    split
    · rfl
    · exact ih

theorem MadeOrWorks.passes_of_command {failure : Option Failure} (commands : config.strategy = .localCommand)
    (logged : World.Logged world before)
    (settled : MadeOrWorks config (LocalRender.craft (commandWords config) config) blocks before failure after) :
    Passes config client blocks world after := by
  cases settled with
  | unmade made closed => exact .prepared (by rw [commands]; nofun) logged (by rw [made]; exact closed.logged)
  | works made reached closed => exact .commanded commands logged made reached closed.logged

theorem MadeOrWorks.passes_of_fetch {failure : Option Failure} (fetches : config.strategy = .remoteFetch)
    (logged : World.Logged world before)
    (settled : MadeOrWorks config (RemoteRender.craft client (config.server.getD "") config) blocks before failure
      after) : Passes config client blocks world after := by
  cases settled with
  | unmade made closed => exact .prepared (by rw [fetches]; nofun) logged (by rw [made]; exact closed.logged)
  | works made reached closed => exact .fetched fetches logged made reached closed.logged

theorem passes_renderBy (client : HttpClient) (blocks : List Block) (logged : World.Logged world before) :
    Passes config client blocks world ((renderBy config client blocks).run before).2 := by
  cases strategy : config.strategy with
  | localCommand =>
    exact (renderBy_madeOrWorks (config.crafted_command client strategy) blocks before).passes_of_command strategy logged
  | remoteFetch =>
    exact (renderBy_madeOrWorks (config.crafted_fetch client strategy) blocks before).passes_of_fetch strategy logged
  | remoteUrl =>
    have still : ((renderBy config client blocks).run before).2 = before := by
      simp only [renderBy, strategy]
      exact runBlocks_linkWork_snd _ _ _
    rw [still]
    exact .noted logged

/-- The end of rendering is one of the times of a run. -/
theorem passes_of_renderEnds (logged : World.Logged world before)
    (ends : RenderEnds config client blocks before progress after) : Passes config client blocks world after := by
  have ticked : World.Logged world before.ticked := logged.trans (World.logged_ticked before)
  cases ends with
  | inTurn => exact (passes_renderBy client blocks ticked).logged (render_run config client blocks before).2
  | pooled several made pooled =>
    have ends := RenderEnds.pooled several made pooled
    cases strategy : config.strategy with
    | localCommand =>
      exact (ends.madeOrWorks (config.crafted_command client strategy)).passes_of_command strategy ticked
    | remoteFetch => exact (ends.madeOrWorks (config.crafted_fetch client strategy)).passes_of_fetch strategy ticked
    | remoteUrl =>
      rw [Config.PooledEnds, strategy] at pooled
      exact pooled.elim

/-- The end of a run is one of its times. -/
theorem passes_preprocess (config : Config) (client : HttpClient) (text : String) (world : World) :
    Passes config client (scan text config.format.name) world ((preprocess config client text).run world).2 := by
  by_cases absent : scan text config.format.name = []
  · exact .noted (preprocess_of_no_blocks absent).2
  · -- Behind the rendering there is only the rewriting, which the log alone shows.
    have rendered : Passes config client _ world _ := passes_renderBy client (scan text config.format.name)
      (World.logged_scanned config text world)
    exact rendered.logged (preprocess_of_blocks absent).2

end DiagramWeave
