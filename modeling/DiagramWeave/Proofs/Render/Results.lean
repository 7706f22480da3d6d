import DiagramWeave.Proofs.Render.FetchSteps
import DiagramWeave.Proofs.Render.Shop
import DiagramWeave.Proofs.Rewrite.Splice

/-!
# What works come to

What holds of a work at its first station and is kept by each of its steps holds of the work in every run, with or
without interruptions. So it is known what works come to: the locator of the block, a failure that names the block, or
a path with a null character, which the writing of a fetched image does not expect. A run gives its blocks nothing but
what their works have come to.
-/
namespace DiagramWeave

variable {σ : Type} {craft : Craft σ} {blocks : List Block}

/-- Works stay where `stays` holds, and there they come to what `comes` allows. -/
structure Craft.Yields (craft : Craft σ) (stays : Block → σ → Prop) (comes : Block → Except Failure String → Prop) :
    Prop where
  first : ∀ block, stays block craft.first
  step : ∀ {block station} world, stays block station → craft.result? block station = none →
    stays block ((craft.step block station).run world).1
  result : ∀ {block station result}, stays block station → craft.result? block station = some result →
    comes block result

namespace Craft.Yields

variable {stays : Block → σ → Prop} {comes : Block → Except Failure String → Prop}

theorem stays_of_goes (yields : craft.Yields stays comes) {block : Block} {station last : σ} {world after : World}
    (goes : craft.Goes block station world last after) (here : stays block station) : stays block last := by
  induction goes with
  | stays => exact here
  | steps goesOn _ ih => exact ih (yields.step _ here goesOn)

theorem of_goes (yields : craft.Yields stays comes) {block : Block} {last : σ} {result : Except Failure String}
    {world after : World} (goes : craft.Goes block craft.first world last after)
    (finished : craft.result? block last = some result) : comes block result :=
  yields.result (yields.stays_of_goes goes (yields.first block)) finished

theorem mono {more : Block → Except Failure String → Prop} (yields : craft.Yields stays comes)
    (weaker : ∀ block result, comes block result → more block result) : craft.Yields stays more where
  first := yields.first
  step := yields.step
  result here finished := weaker _ _ (yields.result here finished)

theorem of_reaches (yields : craft.Yields stays comes) {ready : World} {bench : Bench σ}
    (reached : (Bench.start craft blocks ready).Reaches craft bench) {work : Block × σ} (member : work ∈ bench.works)
    {result : Except Failure String} (finished : craft.result? work.1 work.2 = some result) :
    comes work.1 result := by
  -- A move takes one work on, any of them, so the invariant is about all works at once.
  have everywhere : ∀ work ∈ bench.works, stays work.1 work.2 := by
    refine reached.preserves (P := fun bench => ∀ work ∈ bench.works, stays work.1 work.2) ?_ ?_
    · intro one other move here
      cases move with
      | note message => exact here
      | @work number block station found goesOn =>
        intro work member
        rw [Bench.advance_works] at member
        rcases List.mem_or_eq_of_mem_set member with member | rfl
        · exact here work member
        · exact yields.step _ (here _ (List.mem_of_getElem? found)) goesOn
    · intro work member
      obtain ⟨block, _, rfl⟩ := List.mem_map.1 member
      exact yields.first block
  exact yields.result (everywhere work member) finished

end Craft.Yields

/-! ### The two kinds of works -/

theorem LocalRender.yields (command : List String) (config : Config) :
    (LocalRender.craft command config).Yields (fun _ _ => True) fun block result =>
      result = .ok (fileLocator config.baseRef block.outputName) ∨
        ∃ cause, result = .error (.rendering ⟨some block.title, cause⟩) where
  first _ := trivial
  step _ _ _ := trivial
  result {block station result} _ finished := by
    cases station with
    | ended came =>
      cases finished
      cases came with
      | ok code => exact .inl rfl
      | error cause => exact .inr ⟨cause, rfl⟩
    | waiting | opened | made | written | ran | closing => cases finished

namespace RemoteRender

variable {client : HttpClient} {server : String} {config : Config} {block : Block}

/-- What fetching an image may come to. -/
inductive Fetches (config : Config) (block : Block) : Except Failure Unit → Prop
  | fine : Fetches config block (.ok ())
  | foreseen (cause : RenderCause) : Fetches config block (.error (.rendering ⟨some block.title, cause⟩))
  | unnamed : '\x00' ∈ (config.targetOf block).text.toList →
      Fetches config block (.error (.breakdown (.disk .nullCharacter)))

/-- The work has come to nothing that fetching may not come to. -/
def Stays (config : Config) (block : Block) : Station → Prop
  | .closing _ _ result => Fetches config block result
  | .ended result => ∃ came, Fetches config block came ∧
      result = came.map fun _ => fileLocator config.baseRef block.outputName
  | .waiting | .asking _ _ _ | .storing _ _ _ => True

theorem stays_answered (start : Float) (url : String) (left : Nat) (response : Response) :
    Stays config block (answered client server block start url left response) := by
  cases response with
  | failed cause => exact .foreseen _
  | answer status location body =>
    rw [answered]
    split
    · trivial
    · split
      · trivial
      · exact .foreseen _

theorem stays_store (start : Float) (status : Nat) (body : ByteArray) (world : World) :
    Stays config block ((store server config block start status body).run world).1 := by
  simp only [store, run_bind, World.writeFile_run]
  have same : config.outputDir.join (FilePath.ofText block.outputName) = config.targetOf block := rfl
  rw [same]
  cases written : world.disk.write world.home (config.targetOf block) body with
  | ok disk => exact .fine
  | error fault =>
    cases fault with
    | refused code path => exact .foreseen _
    | nullCharacter => exact .unnamed (Disk.write_eq_null.1 written)

theorem yields (client : HttpClient) (server : String) (config : Config) :
    (RemoteRender.craft client server config).Yields (Stays config) fun block result =>
      ∃ came, Fetches config block came ∧ result = came.map fun _ => fileLocator config.baseRef block.outputName where
  first _ := trivial
  step {block station} world here goesOn := by
    cases station with
    | waiting => trivial
    | asking start url left =>
      cases left with
      | zero => exact .foreseen _
      | succ left =>
        have asked : (((RemoteRender.craft client server config).step block (.asking start url (left + 1))).run world).1 =
            answered client server block start url left (world.answerRequest url) := rfl
        rw [asked]
        exact stays_answered start url left (world.answerRequest url)
    | storing start status body =>
      have stored : (RemoteRender.craft client server config).step block (.storing start status body) =
          store server config block start status body := rfl
      rw [stored]
      exact stays_store start status body world
    | closing start span result => exact ⟨result, here, rfl⟩
    | ended result => cases goesOn
  result {block station result} here finished := by
    cases station with
    | ended came =>
      cases finished
      exact here
    | waiting | asking | storing | closing => cases finished

end RemoteRender

/-! ### What blocks get -/

/-- Each block is as it was or has got its locator, and all have got theirs unless the run has failed. -/
structure Locates (locators : Block → String) (blocks : List Block) (progress : Progress Failure) : Prop where
  kept : List.Forall₂ (fun block result => result = block ∨ result = block.located locators) blocks progress.blocks
  whole : progress.failure = none → progress.blocks = blocks.map (Block.located locators)

variable {locators : Block → String}

theorem Locates.unmoved (failure : Failure) : Locates locators blocks ⟨blocks, some failure⟩ where
  kept := List.forall₂_same.2 fun _ _ => .inl rfl
  whole := nofun

theorem runBlocks_locates {work : Block → Action (Except Failure String)}
    (locates : ∀ block world locator, ((work block).run world).1 = .ok locator → locator = locators block)
    (unlocated : ∀ block ∈ blocks, block.locator = none) (world : World) :
    Locates locators blocks ((runBlocks assignedTwice work blocks).run world).1 := by
  induction blocks generalizing world with
  | nil => exact ⟨.nil, fun _ => rfl⟩
  | cons block blocks ih =>
    rw [runBlocks_run_cons]
    cases assigned : block.assign assignedTwice ((work block).run world).1 with
    | error failure => exact .unmoved failure
    | ok located =>
      obtain ⟨_, locator, came, rfl⟩ := Block.assign_eq_ok.1 assigned
      have own : { block with locator := some locator } = block.located locators := by
        rw [Block.located, locates block world locator came]
      have rest := ih (fun block member => unlocated block (List.mem_cons_of_mem _ member)) ((work block).run world).2
      exact ⟨.cons (.inr own) rest.kept, fun fine => List.cons_eq_cons.2 ⟨own, rest.whole fine⟩⟩

/-- When a run of a pool has ended, a block has what its own work has come to, or the run has failed and the block is as
    it was. -/
theorem Shop.block_of_ended {final : Shop σ} {failure : Option Failure}
    (sound : Pool.Sound assignedTwice (final.outcome craft) blocks final.pool) (fits : final.Matches craft)
    (ended : final.pool.phase = .ended failure) {number : Nat} {block : Block} (here : blocks[number]? = some block) :
    ∃ result, final.pool.blocks[number]? = some result ∧
      (result = block ∧ failure ≠ none ∨
        ∃ locator, final.bench.result? craft number = some (.ok locator) ∧
          result = { block with locator := some locator }) := by
  obtain ⟨task, there, known⟩ := sound.task_at here
  refine ⟨task.block, Pool.getElem?_blocks there, ?_⟩
  rcases known.held with ⟨same, failed⟩ | ⟨collected, _, locator, came, located⟩
  · left
    refine ⟨same, ?_⟩
    rintro rfl
    have collected : task.stage = .collected := by simpa [ended, Phase.Allows] using known.allowed
    exact failed collected (by rw [ended]; rfl)
  · right
    obtain ⟨result, finished⟩ := Option.isSome_iff_exists.1 (fits.finished number task there (.inr collected))
    rw [outcome, finished, Option.getD_some] at came
    exact ⟨locator, came ▸ finished, located⟩

theorem ShopEnds.locates {workers : Int} {ready last : World} {progress : Progress Failure} {stays : Block → σ → Prop}
    {comes : Block → Except Failure String → Prop} (yields : craft.Yields stays comes)
    (own : ∀ block locator, comes block (.ok locator) → locator = locators block)
    (ends : ShopEnds craft workers blocks ready progress last) : Locates locators blocks progress := by
  cases ends with
  | @ended events shop failure went ended =>
    have reached : (Bench.start craft blocks ready).Reaches craft shop.bench := Shop.run?_reaches went
    obtain ⟨sound, fits⟩ := Shop.run?_sound went (Pool.sound_start workers) (Shop.matches_start workers blocks ready)
    have same := reached.blocks_eq.trans (Bench.blocks_start craft blocks ready)
    have size : shop.pool.blocks.length = blocks.length := Pool.length_blocks.trans sound.size
    have located {number : Nat} {block : Block} (here : blocks[number]? = some block) :
        ∃ result, shop.pool.blocks[number]? = some result ∧
          (result = block ∧ failure ≠ none ∨ result = block.located locators) := by
      obtain ⟨result, there, held⟩ := Shop.block_of_ended sound fits ended here
      refine ⟨result, there, held.imp_right ?_⟩
      rintro ⟨locator, finished, rfl⟩
      obtain ⟨work, worked, finished⟩ := Option.bind_eq_some_iff.1 finished
      -- Works keep the order of the blocks, so the work of this number is the block's own.
      have mine : work.1 = block := by
        rw [← same, List.getElem?_map, worked] at here
        exact Option.some.inj here
      have came := yields.of_reaches reached (List.mem_of_getElem? worked) finished
      rw [mine] at came
      rw [Block.located, own block locator came]
    constructor
    case kept =>
      refine List.forall₂_iff_get.2 ⟨size.symm, fun number inside inside' => ?_⟩
      obtain ⟨result, there, held⟩ := located (List.getElem?_eq_getElem inside)
      rw [List.getElem?_eq_getElem inside'] at there
      rw [List.get_eq_getElem, List.get_eq_getElem, Option.some.inj there]
      exact held.imp_left And.left
    case whole =>
      rintro rfl
      refine List.ext_getElem? fun number => ?_
      rw [List.getElem?_map]
      cases here : blocks[number]? with
      | none => exact List.getElem?_eq_none (size ▸ List.getElem?_eq_none_iff.1 here)
      | some block =>
        obtain ⟨result, there, held⟩ := located here
        rw [there, held.resolve_left fun stays => stays.2 rfl]
        rfl

end DiagramWeave
