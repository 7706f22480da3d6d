import DiagramWeave.Proofs.Pipeline.Links
import DiagramWeave.Proofs.Pipeline.Moments
import DiagramWeave.Proofs.Render.FetchSteps
import DiagramWeave.Proofs.World.Paths

/-!
# Which files a run touches

A run touches temporary files, which stand directly in the output directory whatever the blocks are called, and the
images that it fetches. Those are written where the title of their block says: below the output directory, unless the
title is read as an absolute path or its double points lead out of the directory.
-/
namespace DiagramWeave

variable {config : Config} {client : HttpClient} {text : String} {world base now : World} {blocks : List Block}
  {place : Place}

open FilePath (resolve Inside LeadsOut)

/-- Wherever a file has been made, changed or removed between the two worlds is allowed. -/
def World.TouchesOnly (allowed : Place → Prop) (before after : World) : Prop :=
  ∀ place, after.disk.fileAt? place ≠ before.disk.fileAt? place → allowed place

theorem World.TouchesOnly.trans {allowed : Place → Prop} {first second third : World}
    (one : World.TouchesOnly allowed first second) (two : World.TouchesOnly allowed second third) :
    World.TouchesOnly allowed first third := by
  intro place changed
  by_cases same : second.disk.fileAt? place = first.disk.fileAt? place
  · exact two place (same ▸ changed)
  · exact one place same

theorem World.TouchesOnly.refl (allowed : Place → Prop) (world : World) : World.TouchesOnly allowed world world :=
  fun _ changed => absurd rfl changed

theorem World.Prepared.touchesOnly {before after : World} (allowed : Place → Prop)
    (prepared : World.Prepared before after) : World.TouchesOnly allowed before after := by
  obtain ⟨_, _, _, rfl⟩ := prepared
  exact .refl allowed before

namespace LocalRender

theorem temporaryName_ne (index : Int) (random : String) : temporaryName index random ≠ ".." := by
  intro same
  have letters := congrArg (fun name => name.toList[1]?) same
  simp only [temporaryName, String.toList_append, List.append_assoc] at letters
  rw [List.getElem?_append_left (by decide)] at letters
  exact absurd letters (by decide)

/-- A temporary file stands directly in the output directory. -/
theorem placeOf_temporaryPath (rooted : ".." ∉ base.home) (config : Config) (block : Block) (drawn : Nat) :
    base.placeOf (temporaryPath base config block drawn) =
      base.placeOf config.outputDir ++ [temporaryName block.index (base.randomNames drawn)] := by
  have plain : ".." ∉ resolve [] (base.homePath.join config.outputDir).names :=
    FilePath.plain_resolve List.not_mem_nil _
  have absolute : (temporaryPath base config block drawn).isAbsolute = true := by
    simp only [temporaryPath, collapse, FilePath.join, FilePath.isAbsolute, World.homePath]
    split <;> simp_all
  have collapsed : resolve [] (base.homePath.join config.outputDir).names = base.placeOf config.outputDir := by
    rw [FilePath.join, World.placeOf]
    by_cases relative : config.outputDir.root = .relative
    · have home : resolve [] base.homePath.names = base.home := FilePath.resolve_of_plain [] rooted
      rw [if_pos relative, FilePath.resolve_append, home]
      simp [FilePath.isAbsolute, relative]
    · rw [if_neg relative]
      simp [FilePath.isAbsolute, relative]
  have names : (temporaryPath base config block drawn).names =
      resolve [] (base.homePath.join config.outputDir).names ++
        [temporaryName block.index (base.randomNames drawn)] := rfl
  rw [World.placeOf, if_pos absolute, names, FilePath.resolve_of_plain [], List.nil_append, collapsed]
  simp [plain, (temporaryName_ne _ _).symm]

/-- A step touches no file but the one of its work. -/
theorem Changes.touches {command : List String} {block : Block} {station later : Station} {after : World}
    (changes : Changes command config block world station later after)
    (changed : after.disk.fileAt? place ≠ world.disk.fileAt? place) :
    ∃ input, (station.input? = some input ∨ later.input? = some input) ∧
      world.disk.locate world.home input = .ok place := by
  cases changes with
  | opens | makesNothing | closes => exact absurd rfl changed
  | makes made =>
    obtain ⟨target, located, _, rfl⟩ := made
    rw [Disk.fileAt?_setFile] at changed
    obtain rfl : place = target := by
      by_contra apart
      exact changed (if_neg apart)
    exact ⟨_, .inr rfl, located⟩
  | @fills start input | @breaksOff start input =>
    exact ⟨input, .inl rfl, (world.fileAt?_diskFilled input _ place).resolve_left changed⟩
  | @runs start input source message call same =>
    rcases world.losesAt_diskAfter call (world.runProcess call) place with kept | ⟨located, _⟩
    · exact absurd kept changed
    · exact ⟨input, .inl rfl, by rwa [same] at located⟩
  | @tidies start input came =>
    rcases world.losesAt_diskWithout input place with kept | ⟨located, _⟩
    · exact absurd kept changed
    · exact ⟨input, .inl rfl, located⟩

theorem touchesOnly_reaches {command : List String} {bench : Bench Station}
    (reached : (Bench.start (craft command config) blocks base).Reaches (craft command config) bench)
    (rooted : ".." ∉ base.home) :
    World.TouchesOnly (Inside (base.placeOf config.outputDir)) base bench.world := by
  refine placed_preserves (P := fun bench => World.TouchesOnly (Inside (base.placeOf config.outputDir)) base bench.world)
    reached ?_ (.refl _ base)
  intro one other placed move touches
  have next := placed.moves move
  refine touches.trans fun place changed => ?_
  rcases changes_of_moves move with ⟨message, rfl⟩ | ⟨number, block, station, later, after, here, changes, rfl⟩
  · exact absurd rfl changed
  · obtain ⟨input, held, located⟩ := changes.touches changed
    -- Before or after the step the file is the one of its work.
    have named : ∃ drawn, input = temporaryPath base config block drawn := by
      rcases held with held | held
      · exact placed.named _ (List.mem_of_getElem? here) input held
      · exact next.named (block, later) (List.mem_set (List.getElem?_eq_some_iff.1 here).1 _) input held
    obtain ⟨drawn, rfl⟩ := named
    rw [placed.steady.home_eq] at located
    rw [World.eq_placeOf_of_locate located, placeOf_temporaryPath rooted]
    exact ⟨_, List.cons_ne_nil _ _, rfl⟩

end LocalRender

namespace RemoteRender

variable {server : String}

/-- Where the image of a block is written. -/
theorem placeOf_targetOf (base : World) (config : Config) (block : Block) :
    Inside (base.placeOf config.outputDir) (base.placeOf (config.targetOf block)) ∨ LeadsOut block.outputName := by
  by_cases out : LeadsOut block.outputName
  · exact .inr out
  · left
    simp only [LeadsOut, not_or, Bool.not_eq_true, Bool.not_eq_false] at out
    obtain ⟨relative, below⟩ := out
    have root : (FilePath.ofText block.outputName).root = .relative := by
      simpa [FilePath.isAbsolute] using relative
    have target : base.placeOf (config.targetOf block) =
        resolve (base.placeOf config.outputDir) (FilePath.ofText block.outputName).names := by
      rw [Config.targetOf, FilePath.join, if_pos root, World.placeOf, FilePath.resolve_append]
      rfl
    have start : FilePath.staysBelow ([] : Place).length (FilePath.ofText block.outputName).names = true := below
    have inside := FilePath.inside_of_staysBelow (base.placeOf config.outputDir) start
    rwa [List.append_nil, ← target] at inside

theorem Changes.touches {block : Block} {station later : Station} {after : World}
    (changes : Changes client server config block world station later after)
    (changed : after.disk.fileAt? place ≠ world.disk.fileAt? place) :
    world.disk.locate world.home (config.targetOf block) = .ok place := by
  cases changes with
  | closes logged =>
    obtain ⟨_, _, rfl⟩ := logged
    exact absurd rfl changed
  | opens | givesUp | asks | storesNothing => exact absurd rfl changed
  | @stores start status body span result target leads =>
    rw [Disk.fileAt?_setFile] at changed
    obtain rfl : place = target := by
      by_contra apart
      exact changed (if_neg apart)
    exact leads.1

/-- The place is below the output directory, or it is where the title of a block leads out of it. -/
def Allowed (config : Config) (base : World) (blocks : List Block) (place : Place) : Prop :=
  Inside (base.placeOf config.outputDir) place ∨
    ∃ block ∈ blocks, LeadsOut block.outputName ∧ place = base.placeOf (config.targetOf block)

theorem touchesOnly_reaches {bench : Bench Station}
    (reached : (Bench.start (craft client server config) blocks base).Reaches (craft client server config) bench) :
    World.TouchesOnly (Allowed config base blocks) base bench.world := by
  refine (reached.preserves (P := fun bench => World.Steady base bench.world ∧ bench.works.map Prod.fst = blocks ∧
    World.TouchesOnly (Allowed config base blocks) base bench.world) ?_
    ⟨.refl base, Bench.blocks_start _ blocks base, .refl _ base⟩).2.2
  rintro one other move ⟨steady, same, touches⟩
  have kept : other.works.map Prod.fst = blocks := (Bench.Reaches.blocks_eq (.single move)).trans same
  rcases changes_of_moves move with ⟨message, rfl⟩ | ⟨number, block, station, later, after, here, changes, rfl⟩
  · exact ⟨steady.trans (one.noted_world message).steady, kept, touches⟩
  · refine ⟨steady.trans changes.steady, kept, touches.trans fun place changed => ?_⟩
    have located := changes.touches changed
    rw [steady.home_eq] at located
    obtain rfl := World.eq_placeOf_of_locate located
    refine (placeOf_targetOf base config block).imp_right fun out => ⟨block, ?_, out, rfl⟩
    exact same ▸ List.mem_map_of_mem (List.mem_of_getElem? here)

end RemoteRender

/-- A title without a slash names a file in the output directory. -/
theorem not_leadsOut_of_mem_scan {format : ImageFormat} {block : Block} (found : block ∈ scan text format.name)
    (slashless : '/' ∉ block.title.toList) : ¬ LeadsOut block.outputName := by
  obtain ⟨named, extension⟩ := exists_format_of_mem_scan found
  have plain : '/' ∉ named.name.toList := by cases named <;> decide
  have long : 3 ≤ named.name.toList.length := by cases named <;> decide
  have letters : block.outputName.toList = block.title.toList ++ '.' :: named.name.toList := by
    simp [Block.outputName, extension]
  have size : 4 ≤ block.outputName.toList.length := by
    rw [letters, List.length_append, List.length_cons]
    omega
  refine FilePath.not_leadsOut_of_slashless ?_ ?_ ?_
  · rw [letters]
    simp [slashless, plain]
  · simp only [FilePath.leads, Bool.and_eq_true, decide_eq_true_eq, ne_eq]
    constructor <;> intro short <;> rw [short] at size <;> simp at size
  · intro short
    rw [short] at size
    exact absurd size (by decide)

theorem touches_of_passes (rooted : ".." ∉ world.home) (passes : Passes config client blocks world now) :
    World.TouchesOnly (fun place => Inside (world.placeOf config.outputDir) place ∨
      config.strategy = .remoteFetch ∧ ∃ block ∈ blocks,
        LeadsOut block.outputName ∧ place = world.placeOf (config.targetOf block)) world now := by
  cases passes with
  | noted logged => exact logged.prepared.touchesOnly _
  | prepared images logged closed =>
    have prepared := logged.prepared.trans (makeOutputDirectory_run_snd config.outputDir _)
    exact (prepared.trans closed.prepared).touchesOnly _
  | @commanded before ready now bench commands logged made reached closed =>
    have prepared := logged.prepared.trans (makeOutputDirectory_run_snd config.outputDir _)
    rw [made] at prepared
    refine ((prepared.touchesOnly _).trans ?_).trans (closed.prepared.touchesOnly _)
    obtain ⟨_, _, _, rfl⟩ := prepared
    exact fun place changed => .inl (LocalRender.touchesOnly_reaches reached rooted place changed)
  | @fetched before ready now bench fetches logged made reached closed =>
    have prepared := logged.prepared.trans (makeOutputDirectory_run_snd config.outputDir _)
    rw [made] at prepared
    refine ((prepared.touchesOnly _).trans ?_).trans (closed.prepared.touchesOnly _)
    obtain ⟨_, _, _, rfl⟩ := prepared
    exact fun place changed => (RemoteRender.touchesOnly_reaches reached place changed).imp_right fun out => ⟨fetches, out⟩

/-- Every file that a run touches, however far it has come, lies below the output directory, but for images that are
    fetched for a title that leads out of it. A title without a slash does not. -/
theorem preprocess_touches_only (rooted : ".." ∉ world.home) (config : Config) (client : HttpClient) (text : String) :
    let blocks := scan text config.format.name
    Passes config client blocks world ((preprocess config client text).run world).2 ∧
    (∀ before progress after, World.Logged world before → RenderEnds config client blocks before progress after →
      Passes config client blocks world after) ∧
    (∀ now, Passes config client blocks world now →
      ∀ place, now.disk.fileAt? place ≠ world.disk.fileAt? place →
        Inside (world.placeOf config.outputDir) place ∨
          config.strategy = .remoteFetch ∧ ∃ block ∈ blocks,
            LeadsOut block.outputName ∧ place = world.placeOf (config.targetOf block)) ∧
    ∀ block ∈ blocks, '/' ∉ block.title.toList → ¬ LeadsOut block.outputName := by
  intro blocks
  refine ⟨passes_preprocess config client text world, fun before progress after => passes_of_renderEnds,
    fun now passes => touches_of_passes rooted passes, fun block found => not_leadsOut_of_mem_scan found⟩

/-- Images are fetched one after the other into a directory of their own. -/
def fetchingAlone : Config :=
  ⟨.image, none, some "http://x", ⟨.relative, ["out"]⟩, ".", .png, 60.0, 1, .remoteFetch⟩

theorem preprocess_touches_only_titled :
    ".." ∉ World.still.home ∧
      ∀ place, ((preprocess fetchingAlone HttpClient.shared "@startuml a\nA\n@enduml").run World.still).2.disk.fileAt?
          place ≠ World.still.disk.fileAt? place → Inside ["home", "out"] place := by
  have rooted : ".." ∉ World.still.home := by decide
  obtain ⟨ends, _, touches, slashless⟩ :=
    preprocess_touches_only rooted fetchingAlone HttpClient.shared "@startuml a\nA\n@enduml"
  refine ⟨rooted, fun place changed => (touches _ ends place changed).resolve_right ?_⟩
  rintro ⟨_, block, found, out, _⟩
  have titles : ∀ block ∈ scan "@startuml a\nA\n@enduml" "png", '/' ∉ block.title.toList := by decide +kernel
  exact slashless block found (titles block found) out

/-- The title of a block can name a file outside of the output directory. -/
theorem preprocess_touches_outside :
    Config.ofOptions World.still.homePath
        [("server_url", .text "http://x"), ("output_dir", .text "out"), ("max_concurrent", .int 1)] = .ok fetchingAlone ∧
      ((preprocess fetchingAlone HttpClient.shared "@startuml ../a\nA\n@enduml").run World.still).2.disk.fileAt?
        ["home", "a.png"] ≠ World.still.disk.fileAt? ["home", "a.png"] ∧
      ¬ Inside (World.still.placeOf fetchingAlone.outputDir) ["home", "a.png"] := by
  refine ⟨rfl, ?_, ?_⟩
  · have written : (((preprocess fetchingAlone HttpClient.shared "@startuml ../a\nA\n@enduml").run
        World.still).2.disk.fileAt? ["home", "a.png"]).isSome = true := by
      decide +kernel
    intro same
    rw [same] at written
    exact absurd written (by decide)
  · rintro ⟨names, _, same⟩
    have directory : World.still.placeOf fetchingAlone.outputDir = ["home", "out"] := rfl
    rw [directory] at same
    simp at same

end DiagramWeave
