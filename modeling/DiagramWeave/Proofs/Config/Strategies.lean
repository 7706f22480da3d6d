import DiagramWeave.Proofs.Config.Faults
import DiagramWeave.Proofs.Pipeline.Asked

/-!
# The settled strategy

With options that are each valid, a configuration comes about just when its mode has what it needs: links need a server,
image files a command or a server, and a command goes before a server. Whatever configuration comes about, the renderer
of its strategy finds what it takes for granted: a server, or a command line with a first word.
-/
namespace DiagramWeave

namespace Config

variable {home : FilePath} {given options : Entries} {config : Config} {mode : OutputMode} {command server : Option String}

/-! ### What options say -/

/-- A text as names of modes are compared: in small letters and without blanks around it. -/
def spelling (text : String) : String :=
  String.ofList (Text.lower (Text.trim Text.isBlank text.toList))

/-- The options ask for a mode: by one of its names or, if it is image files, by naming none. -/
inductive AsksFor (options : Entries) : OutputMode → Prop
  | unsaid : options.get? "output_mode" = none → AsksFor options .image
  | image {text : String} : options.get? "output_mode" = some (.text text) → spelling text = "image" →
      AsksFor options .image
  | links {text : String} : options.get? "output_mode" = some (.text text) →
      spelling text ∈ ["url-only", "url", "url_only"] → AsksFor options .urlOnly

/-- The option has a text that is not blank. -/
def Gives (options : Entries) (name : String) : Prop :=
  ∃ text : String, options.get? name = some (.text text) ∧ ∃ c ∈ text.toList, Text.isBlank c = false

/-- The option, if there is one, is a text. -/
def TextOrAbsent (options : Entries) (name : String) : Prop :=
  ∀ value, options.get? name = some value → ∃ text, value = .text text

theorem readMode_text (text : String) : readMode (.text text) =
    if spelling text = "image" then .ok .image
    else if spelling text ∈ ["url-only", "url", "url_only"] then .ok .urlOnly
    else .error .unknownMode := by
  simp [readMode, spelling]

theorem readMode_eq_ok {value : Value} : readMode value = .ok mode ↔ ∃ text, value = .text text ∧
    (mode = .image ∧ spelling text = "image" ∨ mode = .urlOnly ∧ spelling text ∈ ["url-only", "url", "url_only"]) := by
  constructor
  · intro read
    cases value with
    | text content =>
      refine ⟨content, rfl, ?_⟩
      rw [readMode_text] at read
      split at read
      next named =>
        cases read
        exact .inl ⟨rfl, named⟩
      · split at read
        next named =>
          cases read
          exact .inr ⟨rfl, named⟩
        · cases read
    | _ => cases read
  · rintro ⟨content, rfl, ⟨rfl, named⟩ | ⟨rfl, named⟩⟩
    · rw [readMode_text, if_pos named]
    · have other : spelling content ≠ "image" := by
        intro same
        rw [same] at named
        simp at named
      rw [readMode_text, if_neg other, if_pos named]

/-- The options ask for the mode that is read, and for no other. -/
theorem asksFor_iff {other : OutputMode} (read : readOr options "output_mode" .image readMode = .ok mode) :
    AsksFor options other ↔ other = mode := by
  rcases readOr_eq_ok.1 read with ⟨absent, rfl⟩ | ⟨value, found, own⟩
  · constructor
    · intro asks
      cases asks with
      | unsaid _ => rfl
      | image found _ => exact nomatch absent.symm.trans found
      | links found _ => exact nomatch absent.symm.trans found
    · rintro rfl
      exact .unsaid absent
  · obtain ⟨text, rfl, named⟩ := readMode_eq_ok.1 own
    constructor
    · intro asks
      cases asks with
      | unsaid absent => exact nomatch absent.symm.trans found
      | image found' name =>
        rw [found] at found'
        cases found'
        rcases named with ⟨rfl, _⟩ | ⟨_, name'⟩
        · rfl
        · rw [name] at name'
          simp at name'
      | links found' name =>
        rw [found] at found'
        cases found'
        rcases named with ⟨_, name'⟩ | ⟨rfl, _⟩
        · rw [name'] at name
          simp at name
        · rfl
    · rintro rfl
      rcases named with ⟨rfl, name⟩ | ⟨rfl, name⟩
      · exact .image found name
      · exact .links found name

/-- An option that is read as none where its text is blank, and only there, is given when it is read as something. -/
theorem gives_iff {name : String} {result : Option String} {read : Value → Except OptionFault (Option String)}
    (was : readOr options name none read = .ok result) (texts : TextOrAbsent options name)
    (blank : ∀ text, read (.text text) = .ok none ↔ Text.allBlank text.toList = true) :
    Gives options name ↔ ∃ line, result = some line := by
  have shown (text : String) : (∃ c ∈ text.toList, Text.isBlank c = false) ↔ ¬ Text.allBlank text.toList = true := by
    simp [Text.allBlank]
  rcases readOr_eq_ok.1 was with ⟨absent, rfl⟩ | ⟨value, found, own⟩
  · refine iff_of_false ?_ (by simp)
    rintro ⟨text, found, _⟩
    rw [absent] at found
    cases found
  · obtain ⟨text, rfl⟩ := texts value found
    have given : Gives options name ↔ ¬ Text.allBlank text.toList = true := by
      rw [← shown]
      constructor
      · rintro ⟨text', found', visible⟩
        rw [found] at found'
        cases found'
        exact visible
      · exact fun visible => ⟨text, found, visible⟩
    rw [given, ← blank, own]
    cases result <;> simp

/-! ### What becomes of it -/

theorem exists_map_eq_ok {ε α β : Type} {first : Except ε α} {f : α → β} :
    (∃ result, first.map f = .ok result) ↔ ∃ value, first = .ok value := by
  cases first <;> simp [Except.map]

theorem chooseStrategy_eq_ok_iff : (∃ strategy, chooseStrategy mode command server = .ok strategy) ↔
    mode = .urlOnly ∧ (∃ address, server = some address) ∨
      mode = .image ∧ ((∃ line, command = some line) ∨ ∃ address, server = some address) := by
  cases mode <;> cases command <;> cases server <;> simp [chooseStrategy]

theorem strategy_of_chosen {strategy : Strategy} (chosen : chooseStrategy mode command server = .ok strategy) :
    (strategy = .remoteUrl ↔ mode = .urlOnly) ∧
    (strategy = .localCommand ↔ mode = .image ∧ ∃ line, command = some line) ∧
    (strategy = .remoteFetch ↔ mode = .image ∧ ¬ ∃ line, command = some line) := by
  cases mode <;> cases command <;> cases server <;> cases chosen <;> simp

theorem reportOf_eq_nil (valid : ∀ entry ∈ given, faultUnder? entry.1 entry.2 = none) : reportOf given = [] := by
  refine List.eq_nil_iff_forall_not_mem.2 fun entry member => ?_
  obtain ⟨value, found, fault⟩ := mem_reportOf.1 member
  obtain ⟨⟨name, own⟩, place, same⟩ := Option.map_eq_some_iff.1 found
  have named : name = entry.1 := by simpa using List.find?_some place
  have fine := valid _ (List.mem_of_find?_eq_some place)
  simp only at same
  rw [named, same, fault] at fine
  cases fine

theorem exists_first_word (valid : ofOptions home given = .ok config) (commands : config.strategy = .localCommand) :
    ∃ line word more, config.command = some line ∧ Shell.words line = .ok (word :: more) ∧ word ≠ "" := by
  have reads := ofOptions_eq_ok.1 valid
  obtain ⟨line, stands⟩ := exists_command_of_chosen (commands ▸ reads.strategy)
  have command := reads.command
  rw [stands] at command
  rcases readOr_eq_ok.1 command with ⟨_, absent⟩ | ⟨value, _, read⟩
  · cases absent
  · obtain ⟨_, _, words, split, named⟩ := readCommand_eq_some.1 read
    -- The words of an accepted command begin with one that is not empty.
    cases words with
    | nil => simp at named
    | cons word more => exact ⟨line, word, more, stands, split, by simpa using named⟩

/-- Options that are valid one by one are accepted just when the mode that they ask for has what it needs, and the mode
    and the command settle the strategy. In every accepted configuration the renderer finds its server, or a command line
    with a first word that begins every process of every run. -/
theorem strategy_settled (home : FilePath) :
    (∀ given : Entries, given.names.Nodup → (∀ entry ∈ given, faultUnder? entry.1 entry.2 = none) →
      TextOrAbsent given.present "exec" → TextOrAbsent given.present "server_url" →
      let options := given.present
      ((∃ config, ofOptions home given = .ok config) ↔
        AsksFor options .urlOnly ∧ Gives options "server_url" ∨
          AsksFor options .image ∧ (Gives options "exec" ∨ Gives options "server_url")) ∧
      ∀ config, ofOptions home given = .ok config →
        (config.strategy = .remoteUrl ↔ AsksFor options .urlOnly) ∧
        (config.strategy = .localCommand ↔ AsksFor options .image ∧ Gives options "exec") ∧
        (config.strategy = .remoteFetch ↔ AsksFor options .image ∧ ¬ Gives options "exec")) ∧
    ∀ (given : Entries) (config : Config), ofOptions home given = .ok config →
      (config.strategy ≠ .localCommand → ∃ server, config.server = some server) ∧
      (config.strategy = .localCommand → ∃ line word more, config.command = some line ∧
        Shell.words line = .ok (word :: more) ∧ word ≠ "" ∧ commandWords config = word :: more ∧
        ∀ (client : HttpClient) (text : String) (world now : World),
          Passes config client (scan text config.format.name) world now →
          ∃ calls, now.processes = world.processes ++ calls ∧
            ∀ call ∈ calls, ∃ rest, call.arguments = word :: (more ++ rest)) := by
  constructor
  · intro given once valid textCommand textServer options
    obtain ⟨mode, command, server, readMode, readCommand, readServer, _, _, _, _, _, settled⟩ :=
      ofOptions_of_unreported home once (reportOf_eq_nil valid)
    have asks (other : OutputMode) : AsksFor options other ↔ other = mode := asksFor_iff readMode
    have commands := gives_iff readCommand textCommand fun _ => readCommand_text_eq_none
    have servers := gives_iff readServer textServer fun _ => readServer_text_eq_none
    rw [asks, asks, commands, servers, settled]
    constructor
    · rw [exists_map_eq_ok, chooseStrategy_eq_ok_iff, @eq_comm _ mode, @eq_comm _ mode]
    · intro config accepted
      obtain ⟨strategy, rfl, chosen⟩ := map_eq_ok.1 accepted
      rw [@eq_comm _ _ mode, @eq_comm _ _ mode]
      exact strategy_of_chosen chosen
  · intro given config accepted
    refine ⟨exists_server accepted, fun commands => ?_⟩
    obtain ⟨line, word, more, stands, split, named⟩ := exists_first_word accepted commands
    have words : commandWords config = word :: more := by
      obtain ⟨line', stands', split'⟩ := exists_words accepted commands
      rw [stands] at stands'
      cases stands'
      rw [split] at split'
      exact (Except.ok.inj split').symm
    refine ⟨line, word, more, stands, split, named, words, fun client text world now passes => ?_⟩
    obtain ⟨calls, processes, spelled⟩ := (asksOnly_of_passes accepted passes).commands
    refine ⟨calls, processes, fun call member => ?_⟩
    obtain ⟨line', words', stands', split', _, _, _, _, _, arguments⟩ := spelled call member
    rw [stands] at stands'
    cases stands'
    rw [split] at split'
    cases split'
    exact ⟨_, arguments⟩

/-- The mode is spelled in capitals, a server is given that is not needed, and one word of the command holds a blank. -/
def jarred : Entries := [
  ("output_mode", .text " IMAGE\n"), ("exec", .text "java -jar 'plant uml.jar'"), ("server_url", .text "/"),
  ("timeout", .null)]

theorem strategy_settled_jarred : jarred.names.Nodup ∧ (∀ entry ∈ jarred, faultUnder? entry.1 entry.2 = none) ∧
    TextOrAbsent jarred.present "exec" ∧ TextOrAbsent jarred.present "server_url" ∧
    ∃ config, ofOptions World.still.homePath jarred = .ok config ∧ config.strategy = .localCommand ∧
      ∃ line word more, config.command = some line ∧ Shell.words line = .ok (word :: more) ∧ word ≠ "" ∧
        ∃ calls, ((preprocess config HttpClient.shared "@startuml a\nA\n@enduml").run World.still).2.processes = calls ∧
          ∀ call ∈ calls, ∃ rest, call.arguments = word :: (more ++ rest) := by
  have once : jarred.names.Nodup := by decide
  have valid : ∀ entry ∈ jarred, faultUnder? entry.1 entry.2 = none := by decide +kernel
  have command : jarred.present.get? "exec" = some (.text "java -jar 'plant uml.jar'") := rfl
  have server : jarred.present.get? "server_url" = some (.text "/") := rfl
  have textCommand : TextOrAbsent jarred.present "exec" := fun value found => ⟨_, Option.some.inj (found.symm.trans command)⟩
  have textServer : TextOrAbsent jarred.present "server_url" :=
    fun value found => ⟨_, Option.some.inj (found.symm.trans server)⟩
  obtain ⟨settles, reliable⟩ := strategy_settled World.still.homePath
  obtain ⟨accepts, strategies⟩ := settles jarred once valid textCommand textServer
  have asks : AsksFor jarred.present .image := @AsksFor.image _ " IMAGE\n" rfl (by decide +kernel)
  have gives : Gives jarred.present "exec" := ⟨_, command, 'j', by decide, by decide⟩
  obtain ⟨config, accepted⟩ := accepts.2 (.inr ⟨asks, .inl gives⟩)
  have commands : config.strategy = .localCommand := (strategies config accepted).2.1.2 ⟨asks, gives⟩
  obtain ⟨line, word, more, stands, split, named, _, runs⟩ := (reliable jarred config accepted).2 commands
  have asked := runs HttpClient.shared _ World.still _ (passes_preprocess config _ "@startuml a\nA\n@enduml" World.still)
  exact ⟨once, valid, textCommand, textServer, config, accepted, commands, line, word, more, stands, split, named, asked⟩

end Config

end DiagramWeave
