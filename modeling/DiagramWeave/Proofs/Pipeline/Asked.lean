import DiagramWeave.Proofs.Config.Layers
import DiagramWeave.Proofs.Pipeline.Links
import DiagramWeave.Proofs.Pipeline.Moments
import DiagramWeave.Proofs.Render.FetchSteps
import DiagramWeave.Proofs.Token.Letters

/-!
# What a document can put on a command line or into an address

A document chooses among the formats and has its diagrams encoded, and nothing else of it gets to a process or to a
server. The words of a command line come from the configuration, its file is named by the place of the block and by
chance, and an address ends in the name of a format and a token.
-/
namespace DiagramWeave

variable {config : Config} {client : HttpClient} {text : String} {world now : World} {home : FilePath}
  {options : Entries}

/-! ### Tokens -/

/-- Groups of four letters of the alphabet of sixty-four. -/
structure IsToken (text : String) : Prop where
  groups : 4 ∣ text.length
  letters : ∀ c ∈ text.toList, ∃ value < 64, c = tokenLetter value

theorem isToken_encode (text : String) : IsToken (encode text) where
  groups := by
    rw [encode, String.length_ofList, length_encode64]
    exact Nat.dvd_mul_right 4 _
  letters c member := by
    rw [encode, String.toList_ofList] at member
    exact mem_alphabet.1 (mem_encode64 member)

/-- The address of an image: the server, the name of a format and a token. -/
def IsAddress (server url : String) : Prop :=
  ∃ (format : ImageFormat) (token : String), IsToken token ∧ url = server ++ "/" ++ format.name ++ "/" ++ token

theorem isAddress_blockUrl (server : String) {format : ImageFormat} {block : Block}
    (found : block ∈ scan text format.name) : IsAddress server (blockUrl server block) := by
  obtain ⟨named, extension⟩ := exists_format_of_mem_scan found
  exact ⟨named, _, isToken_encode block.payload, by rw [blockUrl, extension]⟩

/-! ### What a strategy can rely on -/

namespace Config

theorem exists_command_of_chosen {mode : OutputMode} {command server : Option String}
    (chosen : chooseStrategy mode command server = .ok .localCommand) : ∃ line, command = some line := by
  cases mode <;> cases command <;> cases server <;> simp_all [chooseStrategy]

theorem exists_server_of_chosen {mode : OutputMode} {command server : Option String} {strategy : Strategy}
    (chosen : chooseStrategy mode command server = .ok strategy) (remote : strategy ≠ .localCommand) :
    ∃ address, server = some address := by
  cases mode <;> cases command <;> cases server <;> simp_all [chooseStrategy]

/-- The command of a valid configuration has words. -/
theorem exists_words (valid : ofOptions home options = .ok config) (commands : config.strategy = .localCommand) :
    ∃ line, config.command = some line ∧ Shell.words line = .ok (commandWords config) := by
  have reads := ofOptions_eq_ok.1 valid
  obtain ⟨line, given⟩ := exists_command_of_chosen (commands ▸ reads.strategy)
  have command := reads.command
  rw [given] at command
  rcases readOr_eq_ok.1 command with ⟨_, same⟩ | ⟨value, _, read⟩
  · cases same
  · obtain ⟨_, _, words, split, _⟩ := readCommand_eq_some.1 read
    refine ⟨line, given, ?_⟩
    simp only [commandWords, given, Option.getD_some, split]

theorem exists_server (valid : ofOptions home options = .ok config) (remote : config.strategy ≠ .localCommand) :
    ∃ server, config.server = some server :=
  exists_server_of_chosen (ofOptions_eq_ok.1 valid).strategy remote

end Config

/-! ### What is asked -/

/-- A call whose words are those of the configured command, the name of a format and the path of a temporary file of a
    block. -/
def IsCommandLine (config : Config) (world : World) (text : String) (call : ProcessCall) : Prop :=
  ∃ line words, config.command = some line ∧ Shell.words line = .ok words ∧
    ∃ block ∈ scan text config.format.name, ∃ (format : ImageFormat) (drawn : Nat),
      call.input = LocalRender.temporaryPath world config block drawn ∧
      call.arguments = words ++ ["-t" ++ format.name, call.input.text]

/-- The requests for one block: the first one has the address of its image, and a server has sent the client on to the
    others. -/
def AreRequestsFor (config : Config) (client : HttpClient) (world : World) (block : Block) (requests : List Request) :
    Prop :=
  ∃ first later server, requests = first :: later ∧ config.server = some server ∧
    first = ⟨blockUrl server block, config.timeout⟩ ∧ IsAddress server first.url ∧
    requests.IsChain (client.Follows world)

/-- What was asked of processes and servers between the two worlds is spelled by the configuration. -/
structure AsksOnly (config : Config) (client : HttpClient) (text : String) (world now : World) : Prop where
  commands : ∃ calls, now.processes = world.processes ++ calls ∧
    ∀ call ∈ calls, IsCommandLine config world text call
  requests : ∃ sent : List (Nat × Request), now.requests = world.requests ++ sent.map Prod.snd ∧
    ∀ entry ∈ sent, ∃ block, (scan text config.format.name)[entry.1]? = some block ∧
      AreRequestsFor config client world block (RemoteRender.requestsOf sent entry.1)

theorem asksOnly_of_same (processes : now.processes = world.processes) (requests : now.requests = world.requests) :
    AsksOnly config client text world now where
  commands := ⟨[], by simp [processes], nofun⟩
  requests := ⟨[], by simp [requests], nofun⟩

/-- What a bench has done is judged by the worlds before and after it, whatever happened to directories and the log. -/
theorem AsksOnly.of_prepared {ready last : World} (asks : AsksOnly config client text ready last)
    (prepared : World.Prepared world ready) (logged : World.Logged last now) :
    AsksOnly config client text world now := by
  obtain ⟨_, _, _, rfl⟩ := prepared
  obtain ⟨_, _, rfl⟩ := logged
  exact ⟨asks.commands, asks.requests⟩

section

variable {ready : World}

theorem asksOnly_of_command (valid : Config.ofOptions home options = .ok config)
    (commands : config.strategy = .localCommand) {bench : Bench LocalRender.Station}
    (reached : (Bench.start (LocalRender.craft (commandWords config) config) (scan text config.format.name) ready).Reaches
      (LocalRender.craft (commandWords config) config) bench) : AsksOnly config client text ready bench.world := by
  obtain ⟨line, given, split⟩ := Config.exists_words valid commands
  obtain ⟨calls, processes, spelled⟩ := LocalRender.called_reaches reached
  rw [reached.blocks_eq, Bench.blocks_start] at spelled
  refine ⟨⟨calls, processes, fun call member => ?_⟩, [], by simp [LocalRender.requests_reaches reached], nofun⟩
  obtain ⟨block, found, drawn, source, rfl⟩ := spelled call member
  obtain ⟨format, extension⟩ := exists_format_of_mem_scan found
  refine ⟨line, _, given, split, block, found, format, drawn, rfl, ?_⟩
  simp only [LocalRender.callWith, extension]

theorem asksOnly_of_fetch (valid : Config.ofOptions home options = .ok config)
    (fetches : config.strategy = .remoteFetch) {bench : Bench RemoteRender.Station}
    (reached : (Bench.start (RemoteRender.craft client (config.server.getD "") config) (scan text config.format.name)
      ready).Reaches (RemoteRender.craft client (config.server.getD "") config) bench) :
    AsksOnly config client text ready bench.world := by
  obtain ⟨server, given⟩ := Config.exists_server valid (by rw [fetches]; nofun)
  rw [given, Option.getD_some] at reached
  obtain ⟨sent, asked⟩ := RemoteRender.asked_reaches reached
  have same := reached.blocks_eq
  rw [Bench.blocks_start] at same
  refine ⟨⟨[], by simp [RemoteRender.processes_reaches reached], nofun⟩, sent, asked.requests, fun entry member => ?_⟩
  have owned : entry.1 < bench.works.length := asked.owned entry member
  have here := List.getElem?_eq_getElem owned
  have found : (scan text config.format.name)[entry.1]? = some bench.works[entry.1].1 := by
    rw [← same, List.getElem?_map, here, Option.map_some]
  have trail := asked.trail entry.1 _ _ here
  refine ⟨_, found, ?_⟩
  -- The entry itself is a request of its work, so there is a first one.
  have own : entry.2 ∈ RemoteRender.requestsOf sent entry.1 :=
    List.mem_map.2 ⟨entry, List.mem_filter.2 ⟨member, by simp⟩, rfl⟩
  cases requests : RemoteRender.requestsOf sent entry.1 with
  | nil => rw [requests] at own; cases own
  | cons first later =>
    rw [requests] at trail
    obtain rfl := trail.first first rfl
    exact ⟨_, later, server, rfl, given, rfl, isAddress_blockUrl server (List.mem_of_getElem? found), trail.onward⟩

end

theorem asksOnly_of_passes (valid : Config.ofOptions home options = .ok config)
    (passes : Passes config client (scan text config.format.name) world now) :
    AsksOnly config client text world now := by
  cases passes with
  | noted logged =>
    obtain ⟨_, _, rfl⟩ := logged
    exact asksOnly_of_same rfl rfl
  | prepared images logged closed =>
    have prepared := logged.prepared.trans (makeOutputDirectory_run_snd config.outputDir _)
    exact (asksOnly_of_same rfl rfl).of_prepared prepared closed
  | @commanded before ready now bench commands logged made reached closed =>
    have prepared := logged.prepared.trans (makeOutputDirectory_run_snd config.outputDir _)
    rw [made] at prepared
    exact (asksOnly_of_command valid commands reached).of_prepared prepared closed
  | fetched fetches logged made reached closed =>
    have prepared := logged.prepared.trans (makeOutputDirectory_run_snd config.outputDir _)
    rw [made] at prepared
    exact (asksOnly_of_fetch valid fetches reached).of_prepared prepared closed

/-- Whatever a document says, and however far a run over it has come, every process was started with the words of the
    configured command, the name of a format and a temporary file in the output directory, and every first request and
    every link is the address of an image. -/
theorem preprocess_asks_only (valid : Config.ofOptions home options = .ok config) (client : HttpClient)
    (text : String) (world : World) :
    let blocks := scan text config.format.name
    Passes config client blocks world ((preprocess config client text).run world).2 ∧
    (∀ before progress after, World.Logged world before → RenderEnds config client blocks before progress after →
      Passes config client blocks world after) ∧
    (∀ now, Passes config client blocks world now → AsksOnly config client text world now) ∧
    (config.strategy = .remoteUrl →
      ((preprocess config client text).run world).1 =
        (rewrite text (config.linkedBlocks text)).mapError .rewriting ∧
      ∃ server, config.server = some server ∧
        ∀ block ∈ config.linkedBlocks text, ∃ url, block.locator = some url ∧ IsAddress server url) := by
  intro blocks
  refine ⟨passes_preprocess config client text world, fun before progress after => passes_of_renderEnds,
    fun now => asksOnly_of_passes valid, fun links => ⟨preprocess_of_links links, ?_⟩⟩
  obtain ⟨server, given⟩ := Config.exists_server valid (by rw [links]; nofun)
  refine ⟨server, given, fun block member => ?_⟩
  obtain ⟨scanned, found, rfl⟩ := List.mem_map.1 member
  refine ⟨_, rfl, ?_⟩
  rw [Config.linkServer, given, Option.getD_some]
  exact isAddress_blockUrl server found

theorem preprocess_asks_only_drawing :
    Config.ofOptions World.still.homePath [("exec", .text "plantuml -charset 'UTF-8'")] = .ok drawing ∧
      AsksOnly drawing HttpClient.shared "@startuml a b -o /tmp\nA\n@enduml" World.still
        ((preprocess drawing HttpClient.shared "@startuml a b -o /tmp\nA\n@enduml").run World.still).2 := by
  have valid : Config.ofOptions World.still.homePath [("exec", .text "plantuml -charset 'UTF-8'")] = .ok drawing := rfl
  obtain ⟨ends, _, asks, _⟩ :=
    preprocess_asks_only valid HttpClient.shared "@startuml a b -o /tmp\nA\n@enduml" World.still
  exact ⟨valid, asks _ ends⟩

end DiagramWeave
