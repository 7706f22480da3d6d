import DiagramWeave.Proofs.Locator.Percent
import DiagramWeave.Proofs.Pipeline.Stages
import DiagramWeave.Proofs.Render.InTurn
import DiagramWeave.Proofs.Rewrite.Rescan
import DiagramWeave.Proofs.Rewrite.Success

/-!
# Links, and documents that have been through a run already

When blocks become links nothing is asked of the world, so a run comes to what rewriting comes to. A second run over
its result changes nothing exactly when the result has no block. What can put one there is known from rewriting: an
opening delimiter inside a reference, that is in a title or in the server's address. Nothing else of a link holds an
at sign.
-/
namespace DiagramWeave

variable {config : Config} {client : HttpClient} {text : String} {world : World}

theorem runBlocks_linkWork (server : String) (world : World) {blocks : List Block}
    (unlocated : ∀ block ∈ blocks, block.locator = none) :
    (runBlocks assignedTwice (RemoteRender.linkWork server) blocks).run world =
      (⟨blocks.map (Block.located (blockUrl server)), none⟩, world) := by
  induction blocks with
  | nil => rfl
  | cons block blocks ih =>
    have later := ih fun block member => unlocated block (List.mem_cons_of_mem _ member)
    have first := unlocated block List.mem_cons_self
    have assigned : block.assign assignedTwice (.ok (blockUrl server block)) = .ok (block.located (blockUrl server)) :=
      Block.assign_eq_ok.2 ⟨first, _, rfl, rfl⟩
    have worked : (RemoteRender.linkWork server block).run world = (.ok (blockUrl server block), world) := rfl
    simp only [runBlocks_run_cons, worked, assigned, later, List.map_cons]

/-- The server of a configuration as its links show it. -/
def Config.linkServer (config : Config) : String :=
  config.server.getD ""

/-- The blocks of a document with their links. -/
def Config.linkedBlocks (config : Config) (text : String) : List Block :=
  renderedBlocks text config.format.name (blockUrl config.linkServer)

theorem renderBy_run_of_links (links : config.strategy = .remoteUrl) :
    (renderBy config client (scan text config.format.name)).run world = (⟨config.linkedBlocks text, none⟩, world) := by
  have linked := runBlocks_linkWork config.linkServer world
    fun block (member : block ∈ scan text config.format.name) => unlocated_of_mem_scan member
  rw [Config.linkServer] at linked
  simp only [renderBy, links]
  exact linked

theorem preprocess_of_links (links : config.strategy = .remoteUrl) :
    ((preprocess config client text).run world).1 =
      (rewrite text (config.linkedBlocks text)).mapError .rewriting := by
  by_cases absent : scan text config.format.name = []
  · rw [(preprocess_of_no_blocks absent).1, Config.linkedBlocks, renderedBlocks, absent, List.map_nil, rewrite_nil]
    rfl
  · rw [(preprocess_of_blocks absent).1, renderBy_run_of_links links]
    rfl

theorem preprocess_of_links_eq_ok (links : config.strategy = .remoteUrl) {result : String} :
    ((preprocess config client text).run world).1 = .ok result ↔
      rewrite text (config.linkedBlocks text) = .ok result := by
  rw [preprocess_of_links links]
  cases rewrite text (config.linkedBlocks text) <;> simp [Except.mapError]

/-! ### Where a link can hold an opening delimiter -/

theorem tokenLetter_ne_at (value : Nat) : tokenLetter value ≠ '@' := by
  by_cases low : value < 64
  · have checked : ∀ low < 64, tokenLetter low ≠ '@' := by decide
    exact checked value low
  · simp [tokenLetter, show ¬ value < 10 by omega, show ¬ value < 36 by omega, show ¬ value < 62 by omega,
      show value ≠ 62 by omega]

theorem at_not_mem_encode64 (bytes : List UInt8) : '@' ∉ encode64 bytes := by
  have group (a b c : UInt8) : '@' ∉ tokenGroup a b c := by
    simp [tokenGroup, (tokenLetter_ne_at _).symm]
  fun_induction encode64 bytes with
  | case1 => simp
  | case2 a => exact group a 0 0
  | case3 a b => exact group a b 0
  | case4 a b c rest ih =>
    rw [List.mem_append]
    exact fun member => member.elim (group a b c) ih

theorem at_mem_of_openMark_within {text : List Char} (inside : openMark <:+: text) : '@' ∈ text :=
  inside.subset (by decide)

theorem ImageFormat.at_not_mem_name (format : ImageFormat) : '@' ∉ format.name.toList := by
  cases format <;> decide

/-- A block takes its format from the document or from the configuration, and either names one. -/
theorem exists_format_of_mem_scan {format : ImageFormat} {block : Block} (found : block ∈ scan text format.name) :
    ∃ named : ImageFormat, block.extension = named.name := by
  obtain ⟨_, _, parts, _, _, rfl⟩ := (BlocksFrom.of_scan text format.name).exists_of_mem block found
  simp only [BlockParts.toBlock, splitHeader]
  split
  · split
    · split
      · exact ⟨format, rfl⟩
      · exact ⟨_, rfl⟩
    · exact ⟨format, rfl⟩
  · exact ⟨format, rfl⟩

/-- The link to a block shows an opening delimiter only where the server's address does. -/
theorem openMark_infix_server {server : String} {format : ImageFormat} {block : Block}
    (found : block ∈ scan text format.name)
    (inside : openMark <:+: (escapeLocator (blockUrl server block)).toList) : openMark <:+: server.toList := by
  rw [escapeLocator] at inside
  split at inside
  · obtain ⟨named, extension⟩ := exists_format_of_mem_scan found
    have split : (blockUrl server block).toList =
        server.toList ++ '/' :: (named.name.toList ++ '/' :: (encode block.payload).toList) := by
      simp [blockUrl, extension]
    rw [split] at inside
    refine (openMark_infix_append_cons _ (by decide) inside).resolve_right fun behind => ?_
    rcases openMark_infix_append_cons _ (by decide) behind with name | token
    · exact named.at_not_mem_name (at_mem_of_openMark_within name)
    · rw [encode, String.toList_ofList] at token
      exact at_not_mem_encode64 _ (at_mem_of_openMark_within token)
  · rw [String.toList_ofList] at inside
    exact absurd (at_mem_of_openMark_within inside) (not_mem_percentEncode (by decide) _)

/-! ### The second run -/

theorem preprocess_again_eq_ok_iff (links : config.strategy = .remoteUrl) :
    ((preprocess config client text).run world).1 = .ok text ↔ scan text config.format.name = [] := by
  constructor
  · intro unchanged
    by_contra present
    rw [preprocess_of_links_eq_ok links] at unchanged
    -- A reference would stand where the first block starts, and the two begin differently.
    have spliced := toList_eq_spliceFrom (.refl _) unchanged
    exact (BlocksFrom.of_scan text config.format.name).spliceFrom_ne present spliced.symm
  · exact fun absent => (preprocess_of_no_blocks absent).1

/-- A run that makes links leaves no block behind, and a second run changes nothing, exactly when no reference holds
    an opening delimiter that takes a closing delimiter left behind it. That is so whenever neither a title nor the
    server's address shows an opening delimiter. -/
theorem preprocess_settles_iff {result : String} (links : config.strategy = .remoteUrl)
    (first : ((preprocess config client text).run world).1 = .ok result) (again : World) :
    (∀ format, scan result format = [] ↔ ¬ Reopened (config.linkedBlocks text) result) ∧
      (((preprocess config client result).run again).1 = .ok result ↔
        ¬ Reopened (config.linkedBlocks text) result) ∧
      ((∀ block ∈ scan text config.format.name, ¬ openMark <:+: block.title.toList) →
        ¬ openMark <:+: config.linkServer.toList → ¬ Reopened (config.linkedBlocks text) result) := by
  have spliced := toList_eq_spliceFrom (.refl _) ((preprocess_of_links_eq_ok links).1 first)
  have settled := scan_eq_nil_iff_not_reopened spliced
  refine ⟨settled, ?_, ?_⟩
  · rw [preprocess_again_eq_ok_iff links]
    exact settled config.format.name
  · intro untitled unserved reopened
    obtain ⟨block, scanned, shown⟩ := openMark_shown_of_reopened spliced reopened
    exact shown.elim (untitled block scanned) fun located => unserved (openMark_infix_server scanned located)

/-- Links to a server, and all else by default. -/
def linksTo (server : String) : Config :=
  ⟨.urlOnly, none, some server, World.still.homePath, ".", .png, 60.0, 4, .remoteUrl⟩

theorem exists_result_of_pointless (config : Config) (client : HttpClient) (text : String) (world : World)
    (links : config.strategy = .remoteUrl)
    (pointless : ∀ block ∈ scan text config.format.name, '.' ∉ block.header) :
    ∃ result, ((preprocess config client text).run world).1 = .ok result := by
  have padded : ∀ block ∈ scan text config.format.name, PaddedPoint block.header := by
    intro block member stem suffix format cut _
    exact absurd ((splitLast?_eq_some.1 cut).1 ▸ List.mem_append_right _ List.mem_cons_self)
      (pointless block member)
  obtain ⟨replaced, rewritten⟩ := (rewriteFrom_succeeds_iff (.of_scan text config.format.name)
    (blockUrl config.linkServer)).2 padded
  refine ⟨String.ofList replaced, (preprocess_of_links_eq_ok links).2 ?_⟩
  rw [List.drop_zero] at rewritten
  rw [Config.linkedBlocks, rewrite, inIndexOrder_renderedBlocks (.refl _), renderedBlocks, rewritten]
  rfl

/-- Delimiters are left over on both sides of two blocks of one title. -/
def leftOver : String :=
  "@startuml\n@startuml a\nA\n@enduml @startuml\n@startuml a\nB\n@enduml\n@enduml"

theorem preprocess_settles_iff_left_over :
    ∃ result, (linksTo "http://x").strategy = .remoteUrl ∧
      ((preprocess (linksTo "http://x") HttpClient.shared leftOver).run World.still).1 = .ok result ∧
      (∀ format, scan result format = [] ↔ ¬ Reopened ((linksTo "http://x").linkedBlocks leftOver) result) ∧
      (((preprocess (linksTo "http://x") HttpClient.shared result).run World.still).1 = .ok result ↔
        ¬ Reopened ((linksTo "http://x").linkedBlocks leftOver) result) ∧
      ((∀ block ∈ scan leftOver (linksTo "http://x").format.name, ¬ openMark <:+: block.title.toList) →
        ¬ openMark <:+: (linksTo "http://x").linkServer.toList →
          ¬ Reopened ((linksTo "http://x").linkedBlocks leftOver) result) := by
  obtain ⟨result, first⟩ := exists_result_of_pointless (linksTo "http://x") HttpClient.shared leftOver
    World.still rfl (by decide +kernel)
  exact ⟨result, rfl, first, preprocess_settles_iff rfl first World.still⟩

/-- The title of the block holds an opening delimiter, and a closing delimiter is left behind the block. -/
def reopening : String :=
  "@startuml @startuml a\nA\n@enduml\n@enduml"

theorem reopened_of_reopening {result : String}
    (spliced : result.toList = spliceFrom reopening.toList 0 ((linksTo "http://x").linkedBlocks reopening)) :
    Reopened ((linksTo "http://x").linkedBlocks reopening) result := by
  have scanned : scan reopening "png" =
      [⟨0, "@startuml @startuml a\nA\n@enduml", "@startuml a", "png", "A", 0, 31, none⟩] := by
    decide +kernel
  obtain ⟨block, listed, title, start, stop⟩ : ∃ block : Block,
      (linksTo "http://x").linkedBlocks reopening = [block] ∧ block.title = "@startuml a" ∧
        block.start = 0 ∧ block.stop = 31 := by
    refine ⟨_, congrArg (List.map (Block.located (blockUrl "http://x"))) scanned, rfl, rfl, rfl⟩
  obtain ⟨shown, reference⟩ : ∃ shown, block.reference.toList =
      ['!', '['] ++ (openMark ++ ([' '] ++ ('a' :: shown))) := by
    rw [block.reference_toList, title]
    exact ⟨_, rfl⟩
  have rest : reopening.toList.drop 31 = '\n' :: closeMark := by decide +kernel
  rw [listed, spliceFrom, start, stop, spliceFrom, reference, rest] at spliced
  rw [listed]
  refine ⟨⟨block, 0⟩, by simp [inserted, insertedFrom, start], 2, ⟨Nat.zero_le _, ?_⟩, ?_⟩
  · rw [Inserted.stop, reference]
    simp only [List.length_append, List.length_cons, List.length_nil]
    omega
  · refine ⟨[' '], shown, [], [], 'a', '\n', ?_, by simp, List.forall_mem_singleton.2 rfl, rfl, rfl, ?_⟩
    · rw [spliced]
      simp
    · intro c first
      cases first

/-- The title of a block can start a block of the result. -/
theorem links_reopened_by_title :
    ∃ config result, Config.ofOptions World.still.homePath
        [("output_mode", .text "url-only"), ("server_url", .text "http://x")] = .ok config ∧
      ((preprocess config HttpClient.shared "@startuml @startuml a\nA\n@enduml\n@enduml").run
        World.still).1 = .ok result ∧
      scan result config.format.name ≠ [] ∧
      ((preprocess config HttpClient.shared result).run World.still).1 ≠ .ok result := by
  have links : (linksTo "http://x").strategy = .remoteUrl := rfl
  obtain ⟨result, first⟩ := exists_result_of_pointless (linksTo "http://x") HttpClient.shared reopening
    World.still rfl (by decide +kernel)
  have spliced := toList_eq_spliceFrom (.refl _) ((preprocess_of_links_eq_ok links).1 first)
  have found : scan result "png" ≠ [] := fun absent =>
    (scan_eq_nil_iff_not_reopened spliced "png").1 absent (reopened_of_reopening spliced)
  refine ⟨linksTo "http://x", result, rfl, first, found, ?_⟩
  rw [Ne, preprocess_again_eq_ok_iff links]
  exact found

end DiagramWeave
