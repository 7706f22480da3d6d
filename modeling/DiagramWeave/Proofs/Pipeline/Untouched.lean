import DiagramWeave.Proofs.Config.Layers
import DiagramWeave.Proofs.Pipeline.Links
import DiagramWeave.Proofs.Pipeline.Moments

/-!
# Runs that leave the world alone

Nothing is asked of the world before it is needed. Options that are refused end a run where it begins, a document
without blocks comes back as it is, and links are made without a process, a request or a file. What links look like is
settled by the mode, the server and the format, so no other option and nothing in the world shows in the document.
-/
namespace DiagramWeave

variable {config other : Config} {client : HttpClient} {text : String} {world after : World}
  {outcome : Except Failure String}

theorem World.Logged.symm {first second : World} (logged : World.Logged first second) : World.Logged second first := by
  obtain ⟨_, _, rfl⟩ := logged
  exact ⟨first.readings, first.log, rfl⟩

/-- What a run over a document may come to, and the world that it leaves. Blocks are rendered in turn or by a pool, and
    the scan before and the rewriting behind show in the log alone. -/
inductive PreprocessEnds (config : Config) (client : HttpClient) (text : String) (world : World) :
    Except Failure String → World → Prop
  | unchanged {after : World} : scan text config.format.name = [] → World.Logged world after →
      PreprocessEnds config client text world (.ok text) after
  | rendered {before between after : World} {progress : Progress Failure} : scan text config.format.name ≠ [] →
      World.Logged world before → RenderEnds config client (scan text config.format.name) before progress between →
      World.Logged between after → PreprocessEnds config client text world (settle text progress) after

/-- A run with the blocks in turn is one of them. -/
theorem preprocess_ends (config : Config) (client : HttpClient) (text : String) (world : World) :
    let ran := (preprocess config client text).run world
    PreprocessEnds config client text world ran.1 ran.2 := by
  intro ran
  by_cases absent : scan text config.format.name = []
  · have same : ran.1 = .ok text ∧ World.Logged world ran.2 := preprocess_of_no_blocks absent
    rw [same.1]
    exact .unchanged absent same.2
  · have came : ran.1 = _ ∧ World.Logged _ ran.2 := preprocess_of_blocks absent
    have start : World.Logged world ((scanLogged text config.format.name).run world.ticked).2 := ⟨_, _, rfl⟩
    have rendered := render_run config client (scan text config.format.name)
      ((scanLogged text config.format.name).run world.ticked).2
    rw [came.1, World.scanned, ← rendered.1]
    -- The rendering closes its span before the rewriting starts, and both write to the log.
    exact .rendered absent start .inTurn (rendered.2.symm.trans came.2)

theorem PreprocessEnds.eq_text (ends : PreprocessEnds config client text world outcome after)
    (absent : scan text config.format.name = []) : outcome = .ok text := by
  cases ends with
  | unchanged => rfl
  | rendered present => exact absurd absent present

theorem Passes.logged_of_links {blocks : List Block} {now : World} (links : config.strategy = .remoteUrl)
    (passes : Passes config client blocks world now) : World.Logged world now := by
  cases passes with
  | noted logged => exact logged
  | prepared images => exact absurd links images
  | commanded commands => cases links.symm.trans commands
  | fetched fetches => cases links.symm.trans fetches

/-- Without blocks, and where blocks become links, a run leaves nothing but its log. -/
theorem PreprocessEnds.logged (ends : PreprocessEnds config client text world outcome after)
    (idle : scan text config.format.name = [] ∨ config.strategy = .remoteUrl) : World.Logged world after := by
  cases ends with
  | unchanged _ logged => exact logged
  | rendered present start rendered last =>
    -- There are blocks, so they become links, and no time of that shows anything but the log.
    have links : config.strategy = .remoteUrl := idle.resolve_left present
    have passes := passes_of_renderEnds start rendered
    exact (passes.logged_of_links links).trans last

/-! ### Links -/

/-- The document with links in place of its blocks, or why there is none. -/
def Config.linked (config : Config) (text : String) : Except Failure String :=
  (rewrite text (config.linkedBlocks text)).mapError .rewriting

theorem PreprocessEnds.eq_linked (ends : PreprocessEnds config client text world outcome after)
    (links : config.strategy = .remoteUrl) : outcome = config.linked text := by
  cases ends with
  | unchanged absent =>
    rw [Config.linked, Config.linkedBlocks, renderedBlocks, absent, List.map_nil, rewrite_nil]
    rfl
  | rendered _ _ rendered =>
    cases rendered with
    | inTurn =>
      rw [(render_run ..).1, renderBy_run_of_links links]
      rfl
    | pooled _ _ pooled =>
      rw [Config.PooledEnds, links] at pooled
      exact pooled.elim

theorem Config.linked_congr (server : config.server = other.server) (format : config.format = other.format) :
    config.linked text = other.linked text := by
  simp only [Config.linked, Config.linkedBlocks, Config.linkServer, server, format]

/-- The options say the same about mode, server and format. -/
def AgreeOnLinks (options others : Entries) : Prop :=
  ∀ name ∈ ["output_mode", "server_url", "image_format"], options.present.get? name = others.present.get? name

theorem Config.readOr_congr {α : Type} {options others : Entries} {name : String} (fallback : α)
    (read : Value → Except OptionFault α) (same : options.get? name = others.get? name) :
    readOr options name fallback read = readOr others name fallback read := by
  rw [readOr, readOr, same]

/-- Links are made in the links mode, and only there. -/
theorem Config.chooseStrategy_links_iff {mode : OutputMode} {command server : Option String} {strategy : Strategy}
    (chosen : chooseStrategy mode command server = .ok strategy) : strategy = .remoteUrl ↔ mode = .urlOnly := by
  cases mode <;> cases command <;> cases server <;> cases chosen <;> simp

theorem configFor_none_eq_ok {home : FilePath} {options : Entries} :
    configFor home none options = .ok config ↔ Config.ofOptions home options = .ok config := by
  simp only [configFor]
  cases Config.ofOptions home options <;> simp

/-- Two configurations of options that agree on links make the same links. -/
theorem Config.linked_of_agree {options others : Entries} {home home' : FilePath} (agree : AgreeOnLinks options others)
    (accepted : ofOptions home options = .ok config) (accepted' : ofOptions home' others = .ok other) :
    (config.strategy = .remoteUrl ↔ other.strategy = .remoteUrl) ∧ config.linked text = other.linked text := by
  have one := ofOptions_eq_ok.1 accepted
  have two := ofOptions_eq_ok.1 accepted'
  have mode : config.outputMode = other.outputMode := by
    have same := readOr_congr .image readMode (agree "output_mode" (by simp))
    exact Except.ok.inj (one.mode.symm.trans (same.trans two.mode))
  have server : config.server = other.server := by
    have same := readOr_congr none readServer (agree "server_url" (by simp))
    exact Except.ok.inj (one.server.symm.trans (same.trans two.server))
  have format : config.format = other.format := by
    have same := readOr_congr .png readFormat (agree "image_format" (by simp))
    exact Except.ok.inj (one.format.symm.trans (same.trans two.format))
  constructor
  · rw [chooseStrategy_links_iff one.strategy, chooseStrategy_links_iff two.strategy, mode]
  · exact linked_congr server format

/-! ### Runs by options -/

/-- Options that are refused leave the world as it is. Without blocks the document comes back, and without blocks or
    with links the world is as it was but for the clock and the log, when a run ends and, with links, at any time of it.
    With links, options that agree on mode, server and format come to the same, whatever the other options and the
    worlds are. -/
theorem preprocess_leaves_alone (text : String) :
    (∀ given options client world failure, configFor world.homePath given options = .error failure →
      (preprocessWith given options client text).run world = (.error failure, world)) ∧
    (∀ given options client world config, configFor world.homePath given options = .ok config →
      let blocks := scan text config.format.name
      let ran := (preprocessWith given options client text).run world
      PreprocessEnds config client text world ran.1 ran.2 ∧
      (∀ outcome after, PreprocessEnds config client text world outcome after →
        (blocks = [] → outcome = .ok text) ∧ (blocks = [] ∨ config.strategy = .remoteUrl → World.Logged world after)) ∧
      (config.strategy = .remoteUrl → ∀ now, Passes config client blocks world now → World.Logged world now)) ∧
    ∀ options others, AgreeOnLinks options others → ∀ here there config other,
      configFor here.homePath none options = .ok config → configFor there.homePath none others = .ok other →
      config.strategy = .remoteUrl → ∀ client client',
        ((preprocessWith none options client text).run here).1 =
          ((preprocessWith none others client' text).run there).1 := by
  refine ⟨?_, ?_, ?_⟩
  -- Options are read before anything is done.
  · intro given options client world failure refused
    rw [preprocessWith_run, refused]
  · intro given options client world config accepted blocks ran
    have same : ran = (preprocess config client text).run world := by
      simp only [ran, preprocessWith_run, accepted]
    rw [same]
    refine ⟨preprocess_ends config client text world, ?_, fun links now passes => passes.logged_of_links links⟩
    intro outcome after ends
    exact ⟨ends.eq_text, ends.logged⟩
  · intro options others agree here there config other accepted accepted' links client client'
    -- Either run comes to the links of its own configuration, and these are the same.
    obtain ⟨both, linked⟩ : _ ∧ config.linked text = other.linked text :=
      Config.linked_of_agree agree (configFor_none_eq_ok.1 accepted) (configFor_none_eq_ok.1 accepted')
    rw [preprocessWith_run, preprocessWith_run, accepted, accepted']
    have one := (preprocess_ends config client text here).eq_linked links
    have two := (preprocess_ends other client' text there).eq_linked (both.1 links)
    exact one.trans (linked.trans two.symm)

/-- Links by as few options as can be. -/
def plainly : Entries :=
  [("output_mode", .text "url-only"), ("server_url", .text "http://x")]

/-- The same links, with an option of each kind that does not count. -/
def ornately : Entries :=
  [("exec", .text "plantuml"), ("server_url", .text "http://x"), ("base_ref", .text "img"), ("image_format", .null),
    ("output_dir", .text "/out"), ("timeout", .int 5), ("max_concurrent", .int 9), ("output_mode", .text "url-only")]

theorem preprocess_leaves_alone_ornately :
    AgreeOnLinks plainly ornately ∧
      (∃ config, configFor World.still.homePath none plainly = .ok config ∧ config.strategy = .remoteUrl) ∧
      (∃ config, configFor World.still.homePath none ornately = .ok config) ∧
      ((preprocessWith none plainly HttpClient.shared "@startuml a\nA\n@enduml").run World.still).1 =
        ((preprocessWith none ornately HttpClient.shared "@startuml a\nA\n@enduml").run World.still).1 := by
  have agree : AgreeOnLinks plainly ornately := by
    intro name member
    simp only [List.mem_cons, List.not_mem_nil, or_false] at member
    rcases member with rfl | rfl | rfl <;> rfl
  obtain ⟨config, accepted, links⟩ : ∃ config, configFor World.still.homePath none plainly = .ok config ∧
      config.strategy = .remoteUrl := ⟨_, rfl, rfl⟩
  obtain ⟨other, accepted'⟩ : ∃ config, configFor World.still.homePath none ornately = .ok config := ⟨_, rfl⟩
  obtain ⟨_, _, alike⟩ := preprocess_leaves_alone "@startuml a\nA\n@enduml"
  exact ⟨agree, ⟨config, accepted, links⟩, ⟨other, accepted'⟩,
    alike plainly ornately agree World.still World.still config other accepted accepted' links _ _⟩

end DiagramWeave
