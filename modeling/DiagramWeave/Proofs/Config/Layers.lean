import DiagramWeave.Pipeline
import DiagramWeave.Proofs.Config.Entries
import DiagramWeave.Proofs.Failure
import DiagramWeave.Proofs.Pipeline.Stages
import DiagramWeave.Proofs.World.Paths
import Mathlib.Data.List.DropRight

/-!
# Options over a configuration

A configuration is written as options and read again when further options are given over it. Every reader takes back
what it has made, but for one case: a command or a server of blanks only, which no text option leads to directly, reads
as none. Apart from that case options over a configuration do what all of them do together.
-/
namespace DiagramWeave

variable {home : FilePath} {options further : Entries} {config : Config}

namespace Config

/-! ### Readers take back what they have made -/

theorem readMode_name (mode : OutputMode) : readMode (.text mode.name) = .ok mode := by
  cases mode <;> decide +kernel

theorem readFormat_name (format : ImageFormat) : readFormat (.text format.name) = .ok format := by
  cases format <;> decide +kernel

theorem readCommand_eq_some {value : Value} {line : String} : readCommand value = .ok (some line) ↔
    isBlankText value = false ∧ Coerce.text value = .ok line ∧
      ∃ words, Shell.words line = .ok words ∧ words.head?.all String.isEmpty = false := by
  rw [readCommand]
  cases isBlankText value with
  | true => simp
  | false =>
    rw [if_neg Bool.false_ne_true, bind_eq_ok]
    constructor
    · rintro ⟨given, text, read⟩
      split at read
      · cases read
      next words split =>
        split at read
        · cases read
        next named =>
          cases read
          exact ⟨rfl, text, words, split, by simpa using named⟩
    · rintro ⟨_, text, words, split, named⟩
      exact ⟨line, text, by simp [split, named]⟩

theorem readServer_eq_some {value : Value} {server : String} : readServer value = .ok (some server) ↔
    isBlankText value = false ∧
      ∃ given, Coerce.text value = .ok given ∧ server = String.ofList (Text.trimEnd (· == '/') given.toList) := by
  rw [readServer]
  cases isBlankText value with
  | true => simp
  | false => cases Coerce.text value <;> simp [Except.map, eq_comm]

theorem readCommand_text_eq_none {text : String} :
    readCommand (.text text) = .ok none ↔ Text.allBlank text.toList = true := by
  cases blank : Text.allBlank text.toList with
  | true =>
    rw [readCommand, isBlankText, if_pos blank]
    exact iff_of_true rfl rfl
  | false =>
    rw [readCommand, isBlankText, if_neg (by simp [blank]), bind_eq_ok]
    refine iff_of_false ?_ Bool.false_ne_true
    rintro ⟨line, _, read⟩
    split at read
    · cases read
    · split at read <;> cases read

theorem readServer_text_eq_none {text : String} :
    readServer (.text text) = .ok none ↔ Text.allBlank text.toList = true := by
  cases blank : Text.allBlank text.toList with
  | true =>
    rw [readServer, isBlankText, if_pos blank]
    exact iff_of_true rfl rfl
  | false =>
    rw [readServer, isBlankText, if_neg (by simp [blank])]
    exact iff_of_false nofun Bool.false_ne_true

theorem readTimeout_eq_ok {value : Value} {seconds : Float} : readTimeout value = .ok seconds ↔
    Coerce.number value = .ok seconds ∧ seconds ≤ 600.0 ∧ ¬ seconds < 1.0 := by
  rw [readTimeout, bind_eq_ok]
  constructor
  · rintro ⟨given, number, read⟩
    split at read
    · cases read
    next small =>
      split at read
      · cases read
      next large =>
        cases read
        exact ⟨number, by simpa using small, large⟩
  · rintro ⟨number, small, large⟩
    exact ⟨seconds, number, by simp [small, large]⟩

theorem readWorkers_eq_ok {value : Value} {count : Nat} : readWorkers value = .ok count ↔
    Coerce.integer value = .ok (count : Int) ∧ 1 ≤ count ∧ count ≤ workersLimit := by
  rw [readWorkers, bind_eq_ok]
  constructor
  · rintro ⟨given, number, read⟩
    split at read
    · cases read
    next few =>
      split at read
      · cases read
      next some =>
        cases read
        have same : ((given.toNat : Nat) : Int) = given := Int.toNat_of_nonneg (by omega)
        exact ⟨by rw [same]; exact number, by omega, by omega⟩
  · rintro ⟨number, some, few⟩
    exact ⟨count, number, by rw [if_neg (by omega), if_neg (by omega), Int.toNat_natCast]⟩

theorem readCommand_again {value : Value} {line : String} (read : readCommand value = .ok (some line)) :
    readCommand (.text line) = .ok (some line) ↔ Text.allBlank line.toList = false := by
  obtain ⟨_, _, words⟩ := readCommand_eq_some.1 read
  rw [readCommand_eq_some]
  exact ⟨And.left, fun shown => ⟨shown, rfl, words⟩⟩

theorem readServer_again {value : Value} {server : String} (read : readServer value = .ok (some server)) :
    readServer (.text server) = .ok (some server) ↔ Text.allBlank server.toList = false := by
  obtain ⟨_, given, _, rfl⟩ := readServer_eq_some.1 read
  rw [readServer_eq_some]
  refine ⟨And.left, fun shown => ⟨shown, _, rfl, ?_⟩⟩
  -- Slashes that have been taken off cannot be taken off again.
  simp [Text.trimEnd, List.dropWhile_idempotent]

theorem normal_of_path {value : Value} {path : FilePath} (read : Coerce.path value = .ok path) : path.Normal := by
  cases value with
  | text content =>
    cases read
    exact FilePath.normal_ofText content
  | _ => cases read

/-! ### What options are read as -/

theorem readOr_eq_ok {α : Type} {name : String} {fallback result : α} {read : Value → Except OptionFault α} :
    readOr options name fallback read = .ok result ↔
      options.get? name = none ∧ result = fallback ∨ ∃ value, options.get? name = some value ∧ read value = .ok result := by
  rw [readOr]
  cases options.get? name with
  | none => simp [eq_comm]
  | some value => simp

/-- The options, none of them null, are read as what the configuration holds. -/
structure Reads (home : FilePath) (options : Entries) (config : Config) : Prop where
  mode : readOr options "output_mode" .image readMode = .ok config.outputMode
  command : readOr options "exec" none readCommand = .ok config.command
  server : readOr options "server_url" none readServer = .ok config.server
  outputDir : readOr options "output_dir" home Coerce.path = .ok config.outputDir
  baseRef : readOr options "base_ref" "." Coerce.text = .ok config.baseRef
  format : readOr options "image_format" .png readFormat = .ok config.format
  timeout : readOr options "timeout" 60.0 readTimeout = .ok config.timeout
  workers : readOr options "max_concurrent" 4 readWorkers = .ok config.workers
  unknown : unknownOptions options = []
  strategy : chooseStrategy config.outputMode config.command config.server = .ok config.strategy

theorem Reads.normal_outputDir (normal : home.Normal) (reads : Reads home options config) : config.outputDir.Normal := by
  rcases readOr_eq_ok.1 reads.outputDir with ⟨_, same⟩ | ⟨given, _, came⟩
  · rw [same]
    exact normal
  · exact normal_of_path came

theorem ofOptions_eq_ok : ofOptions home options = .ok config ↔ Reads home options.present config := by
  constructor
  · intro accepted
    simp only [ofOptions] at accepted
    split at accepted
    next mode command server outputDir baseRef format timeout workers unknown =>
      cases chosen : chooseStrategy _ _ _ with
      | error fault =>
        rw [chosen] at accepted
        cases accepted
      | ok strategy =>
        rw [chosen] at accepted
        cases accepted
        exact ⟨mode, command, server, outputDir, baseRef, format, timeout, workers, unknown, chosen⟩
    · cases accepted
  · intro reads
    simp only [ofOptions, reads.mode, reads.command, reads.server, reads.outputDir, reads.baseRef, reads.format,
      reads.timeout, reads.workers, reads.unknown, reads.strategy]
    rfl

/-- The readers of the single options cannot tell the options from each other. -/
structure ReadAlike (home : FilePath) (options other : Entries) : Prop where
  mode : readOr options "output_mode" .image readMode = readOr other "output_mode" .image readMode
  command : readOr options "exec" none readCommand = readOr other "exec" none readCommand
  server : readOr options "server_url" none readServer = readOr other "server_url" none readServer
  outputDir : readOr options "output_dir" home Coerce.path = readOr other "output_dir" home Coerce.path
  baseRef : readOr options "base_ref" "." Coerce.text = readOr other "base_ref" "." Coerce.text
  format : readOr options "image_format" .png readFormat = readOr other "image_format" .png readFormat
  timeout : readOr options "timeout" 60.0 readTimeout = readOr other "timeout" 60.0 readTimeout
  workers : readOr options "max_concurrent" 4 readWorkers = readOr other "max_concurrent" 4 readWorkers

theorem ofOptions_congr {other : Entries} (alike : ReadAlike home options.present other.present)
    (unknown : unknownOptions options.present = unknownOptions other.present) :
    ofOptions home options = ofOptions home other := by
  simp only [ofOptions, alike.mode, alike.command, alike.server, alike.outputDir, alike.baseRef, alike.format,
    alike.timeout, alike.workers, unknown]

/-- The outcomes are the same, but for the order in which unknown options are listed. -/
def SameButOrder (one other : Except ConfigError Config) : Prop :=
  one = other ∨ ∃ faults others, faults.Perm others ∧ one = .error (.badOptions faults) ∧ other = .error (.badOptions others)

theorem ofOptions_of_perm {other : Entries} (alike : ReadAlike home options.present other.present)
    (unknown : (unknownOptions options.present).Perm (unknownOptions other.present)) :
    SameButOrder (ofOptions home options) (ofOptions home other) := by
  cases ours : unknownOptions options.present with
  | nil =>
    rw [ours] at unknown
    exact .inl (ofOptions_congr alike (ours.trans unknown.nil_eq))
  | cons fault faults =>
    cases theirs : unknownOptions other.present with
    | nil =>
      rw [ours, theirs] at unknown
      exact absurd unknown.length_eq nofun
    | cons fault' faults' =>
      -- Both are refused, and the faults of the known options are the same.
      right
      simp only [ofOptions, alike.mode, alike.command, alike.server, alike.outputDir, alike.baseRef, alike.format,
        alike.timeout, alike.workers]
      rw [ours, theirs] at unknown ⊢
      split
      next empty => cases empty
      · split
        next empty => cases empty
        · exact ⟨_, _, unknown.append_left _, rfl, rfl⟩

/-! ### A configuration written as options -/

theorem get?_toOptions (config : Config) :
    let written := config.toOptions.present
    written.get? "output_mode" = some (.text config.outputMode.name) ∧
    written.get? "exec" = config.command.map .text ∧
    written.get? "server_url" = config.server.map .text ∧
    written.get? "output_dir" = some (.text config.outputDir.text) ∧
    written.get? "base_ref" = some (.text config.baseRef) ∧
    written.get? "image_format" = some (.text config.format.name) ∧
    written.get? "timeout" = some (.float config.timeout) ∧
    written.get? "max_concurrent" = some (.int config.workers) := by
  simp only [toOptions]
  cases config.command <;> cases config.server <;> simp [Entries.present, Value.isNull, Entries.get?]

/-- A command or a server that the further options leave in place is not blank. -/
structure LastsUnder (config : Config) (further : Entries) : Prop where
  command : "exec" ∉ further.names → ∀ line, config.command = some line → Text.allBlank line.toList = false
  server : "server_url" ∉ further.names → ∀ server, config.server = some server → Text.allBlank server.toList = false

theorem readOr_update {α : Type} {other : Entries} {name : String} {fallback : α}
    {read : Value → Except OptionFault α} (there : further.AllPresent)
    (same : name ∉ further.names →
      readOr options.present name fallback read = readOr other.present name fallback read) :
    readOr (options.update further).present name fallback read =
      readOr (other.update further).present name fallback read := by
  rw [readOr, readOr, Entries.get?_present_update there, Entries.get?_present_update there]
  cases last : Entries.get? further.reverse name with
  | none => exact same (Entries.get?_reverse_eq_none_iff.1 last)
  | some value => rfl

def isUnknown (name : String) : Bool :=
  !optionNames.contains name

theorem unknownOptions_present (options : Entries) : unknownOptions options.present =
    (options.ofKind isUnknown).present.map fun entry => (entry.1, .unknownOption) := by
  rw [unknownOptions, Entries.present, Entries.present, Entries.ofKind, List.filter_filter, List.filter_filter]
  refine congrArg (List.map _) (List.filter_congr fun entry _ => ?_)
  rw [isUnknown, Bool.and_comm]

theorem ofKind_isUnknown_toOptions (config : Config) : config.toOptions.ofKind isUnknown = [] := by
  refine List.filter_eq_nil_iff.2 fun entry member => ?_
  have known : entry.1 ∈ optionNames := List.mem_map_of_mem (f := Prod.fst) member
  simp [isUnknown, known]

/-- No unknown option that was given without a value is among the further options. -/
def Apart (options further : Entries) : Prop :=
  ∀ entry ∈ options, entry.1 ∉ optionNames → entry.1 ∉ further.names

theorem readOr_written {α : Type} {written : Entries} {name : String} {fallback result : α}
    {read : Value → Except OptionFault α} {value : Value} (stands : written.get? name = some value)
    (was : readOr options name fallback read = .ok result)
    (again : result = fallback ∨ (∃ given, read given = .ok result) → read value = .ok result) :
    readOr written name fallback read = readOr options name fallback read := by
  have how : result = fallback ∨ ∃ given, read given = .ok result := by
    rcases readOr_eq_ok.1 was with ⟨_, same⟩ | ⟨given, _, came⟩
    · exact .inl same
    · exact .inr ⟨given, came⟩
  rw [was, readOr, stands]
  exact again how

theorem readOr_written_optional {written : Entries} {name : String} {result : Option String}
    {read : Value → Except OptionFault (Option String)} (stands : written.get? name = result.map .text)
    (was : readOr options name none read = .ok result)
    (again : ∀ line given, result = some line → read given = .ok (some line) → read (.text line) = .ok (some line)) :
    readOr written name none read = readOr options name none read := by
  cases result with
  | none =>
    rw [was, readOr, stands]
    rfl
  | some line =>
    refine readOr_written stands was ?_
    rintro (absent | ⟨given, came⟩)
    · cases absent
    · exact again line given rfl came

theorem readAlike_update (normal : home.Normal) (reads : Reads home options.present config)
    (there : further.AllPresent) (lasts : config.LastsUnder further) :
    ReadAlike home (config.toOptions.update further).present (options.update further).present := by
  obtain ⟨mode, command, server, outputDir, baseRef, format, timeout, workers⟩ := get?_toOptions config
  constructor
  case mode => exact readOr_update there fun _ => readOr_written mode reads.mode fun _ => readMode_name config.outputMode
  case command =>
    refine readOr_update there fun unnamed => readOr_written_optional command reads.command ?_
    intro line given stands came
    exact (readCommand_again came).2 (lasts.command unnamed line stands)
  case server =>
    refine readOr_update there fun unnamed => readOr_written_optional server reads.server ?_
    intro address given stands came
    exact (readServer_again came).2 (lasts.server unnamed address stands)
  case outputDir =>
    -- A path is read back from its text when it is written as paths are.
    have path := FilePath.ofText_text (reads.normal_outputDir normal)
    exact readOr_update there fun _ => readOr_written outputDir reads.outputDir fun _ => congrArg Except.ok path
  case baseRef => exact readOr_update there fun _ => readOr_written baseRef reads.baseRef fun _ => rfl
  case format =>
    exact readOr_update there fun _ => readOr_written format reads.format fun _ => readFormat_name config.format
  case timeout =>
    refine readOr_update there fun _ => readOr_written timeout reads.timeout fun how => readTimeout_eq_ok.2 ⟨rfl, ?_⟩
    rcases how with same | ⟨given, came⟩
    · rw [same]
      decide
    · exact (readTimeout_eq_ok.1 came).2
  case workers =>
    refine readOr_update there fun _ => readOr_written workers reads.workers fun how => readWorkers_eq_ok.2 ⟨rfl, ?_⟩
    rcases how with same | ⟨given, came⟩
    · rw [same]
      decide
    · exact (readWorkers_eq_ok.1 came).2

/-- What the options held besides those of a configuration are nulls. -/
theorem Reads.nulls (reads : Reads home options.present config) : (options.ofKind isUnknown).present = [] := by
  have none := reads.unknown
  rwa [unknownOptions_present, List.map_eq_nil_iff] at none

theorem unknownOptions_update (reads : Reads home options.present config) (apart : Apart options further) :
    unknownOptions (config.toOptions.update further).present = unknownOptions (options.update further).present := by
  have free : ∀ name ∈ Entries.names (further.ofKind isUnknown), name ∉ Entries.names (options.ofKind isUnknown) := by
    intro name changed held
    obtain ⟨change, member, rfl⟩ := List.mem_map.1 changed
    obtain ⟨entry, given, same⟩ := List.mem_map.1 held
    obtain ⟨given, strange⟩ := List.mem_filter.1 given
    have unnamed := apart entry given (by simpa [isUnknown] using strange)
    rw [same] at unnamed
    exact unnamed (List.mem_map_of_mem (List.mem_filter.1 member).1)
  rw [unknownOptions_present, unknownOptions_present, Entries.ofKind_update, Entries.ofKind_update,
    ofKind_isUnknown_toOptions, Entries.present_update_of_disjoint reads.nulls free]

theorem unknownOptions_update_perm (reads : Reads home options.present config) (once : options.names.Nodup)
    (there : further.AllPresent) :
    (unknownOptions (config.toOptions.update further).present).Perm
      (unknownOptions (options.update further).present) := by
  have among : (Entries.names (options.ofKind isUnknown)).Nodup := once.sublist (List.filter_sublist.map _)
  have present : (further.ofKind isUnknown).AllPresent := fun entry member => there entry (List.mem_filter.1 member).1
  rw [unknownOptions_present, unknownOptions_present, Entries.ofKind_update, Entries.ofKind_update,
    ofKind_isUnknown_toOptions]
  have none : (Entries.names []).Nodup := List.nodup_nil
  refine (Entries.present_update_perm present none among ?_).map _
  rw [reads.nulls]
  exact .refl _

/-- A configuration is read back from its own options just when neither its command nor its server is blank. -/
theorem ofOptions_toOptions_iff (normal : home.Normal) (accepted : ofOptions home options = .ok config) :
    ofOptions home config.toOptions = .ok config ↔ config.LastsUnder [] := by
  constructor
  · intro again
    have reads := ofOptions_eq_ok.1 again
    obtain ⟨_, command, server, _⟩ := get?_toOptions config
    refine ⟨fun _ line stands => ?_, fun _ address stands => ?_⟩
    · have read := reads.command
      rw [readOr, command, stands] at read
      exact (readCommand_eq_some.1 read).1
    · have read := reads.server
      rw [readOr, server, stands] at read
      exact (readServer_eq_some.1 read).1
  · intro lasts
    have reads := ofOptions_eq_ok.1 accepted
    have none : Entries.AllPresent [] := nofun
    have apart : Apart options [] := fun _ _ _ => List.not_mem_nil
    have alike := readAlike_update normal reads none lasts
    have unknown := unknownOptions_update reads apart
    exact (ofOptions_congr alike unknown).trans accepted

end Config

/-! ### Runs -/

variable {world : World}

/-- The runs do the same and come to the same, or neither does anything and the faults they report are the same but for
    the order in which unknown options are listed. -/
def AlikeButOrder (world : World) (one other : Action (Except Failure String)) : Prop :=
  one.run world = other.run world ∨ ∃ faults others, faults.Perm others ∧
    one.run world = (.error (.configuration (.badOptions faults)), world) ∧
    other.run world = (.error (.configuration (.badOptions others)), world)

theorem preprocessWith_run (given : Option Config) (options : Entries) (client : HttpClient) (text : String)
    (world : World) :
    (preprocessWith given options client text).run world =
      match configFor world.homePath given options with
      | .error failure => (.error failure, world)
      | .ok config => (preprocess config client text).run world := by
  rw [preprocessWith, run_bind, run_get]
  cases configFor world.homePath given options <;> rfl

/-- Options over a configuration mean the same as all options at once. A configuration is read back from its own
    options just when its command and its server are not blank, and where the further options replace what is blank the
    two ways of giving options cannot be told apart, whether they are accepted or not. -/
theorem preprocessWith_over (homed : world.Homed)
    (accepted : Config.ofOptions world.homePath options = .ok config) :
    (Config.ofOptions world.homePath config.toOptions = .ok config ↔ config.LastsUnder []) ∧
    ∀ further : Entries, further.AllPresent → (further ≠ [] → config.LastsUnder further) → ∀ client text,
      (options.names.Nodup → AlikeButOrder world (preprocessWith (some config) further client text)
        (preprocessWith none (options.update further) client text)) ∧
      (Config.Apart options further → (preprocessWith (some config) further client text).run world =
        (preprocessWith none (options.update further) client text).run world) := by
  refine ⟨Config.ofOptions_toOptions_iff homed.1 accepted, fun further there lasts client text => ?_⟩
  have reads := Config.ofOptions_eq_ok.1 accepted
  cases further with
  | nil =>
    -- Without further options the configuration is taken as it is.
    have same : (preprocessWith (some config) [] client text).run world =
        (preprocessWith none (options.update []) client text).run world := by
      rw [preprocessWith_run, preprocessWith_run]
      simp only [configFor, Entries.update, List.foldl_nil, List.isEmpty_nil, if_true, accepted]
    exact ⟨fun _ => .inl same, fun _ => same⟩
  | cons change changes =>
    have alike := Config.readAlike_update homed.1 reads there (lasts nofun)
    have left : configFor world.homePath (some config) (change :: changes) =
        (Config.ofOptions world.homePath (config.toOptions.update (change :: changes))).mapError .configuration := by
      simp only [configFor, List.isEmpty_cons, Bool.false_eq_true, if_false]
      cases Config.ofOptions world.homePath (config.toOptions.update (change :: changes)) <;> rfl
    have right : configFor world.homePath none (options.update (change :: changes)) =
        (Config.ofOptions world.homePath (options.update (change :: changes))).mapError .configuration := by
      simp only [configFor]
      cases Config.ofOptions world.homePath (options.update (change :: changes)) <;> rfl
    rw [AlikeButOrder, preprocessWith_run, preprocessWith_run, left, right]
    constructor
    · intro once
      rcases Config.ofOptions_of_perm alike (Config.unknownOptions_update_perm reads once there) with
        same | ⟨faults, others, perm, refused, refusedToo⟩
      · exact .inl (by rw [same])
      · exact .inr ⟨faults, others, perm, by rw [refused]; rfl, by rw [refusedToo]; rfl⟩
    · intro apart
      rw [Config.ofOptions_congr alike (Config.unknownOptions_update reads apart)]

/-- Every option is spelled in a way of its own, and one that nobody knows is null. -/
def spelled : Entries := [
  ("output_mode", .text " URL "), ("theme", .null), ("server_url", .text "http://x//"), ("image_format", .text ".SVG"),
  ("timeout", .int 5), ("max_concurrent", .text "2")]

def relocated : Entries :=
  [("base_ref", .text "img"), ("max_concurrent", .flag true)]

theorem preprocessWith_over_spelled :
    ∃ config, World.still.Homed ∧ Config.ofOptions World.still.homePath spelled = .ok config ∧
      relocated.AllPresent ∧ config.LastsUnder relocated ∧ Config.Apart spelled relocated ∧
      (preprocessWith (some config) relocated HttpClient.shared "@startuml a\nA\n@enduml").run World.still =
        (preprocessWith none (spelled.update relocated) HttpClient.shared "@startuml a\nA\n@enduml").run World.still := by
  obtain ⟨config, accepted, command, server⟩ : ∃ config, Config.ofOptions World.still.homePath spelled = .ok config ∧
      config.command = none ∧ config.server = some "http://x" := ⟨_, rfl, rfl, rfl⟩
  have there : relocated.AllPresent := by simp [Entries.AllPresent, relocated, Value.isNull]
  have lasts : config.LastsUnder relocated := by
    refine ⟨fun _ line stands => ?_, fun _ address stands => ?_⟩
    · rw [command] at stands
      cases stands
    · rw [server] at stands
      cases stands
      decide +kernel
  have apart : Config.Apart spelled relocated := by
    simp [Config.Apart, spelled, relocated, Config.optionNames, Entries.names]
  obtain ⟨_, agree⟩ := preprocessWith_over World.homed_still accepted
  exact ⟨config, World.homed_still, accepted, there, lasts, apart, (agree relocated there (fun _ => lasts) _ _).2 apart⟩

/-- A server of nothing but slashes is accepted and is none when the configuration is read again. -/
theorem preprocessWith_over_slashes :
    ∃ config, Config.ofOptions World.still.homePath [("output_mode", .text "url-only"), ("server_url", .text "/")] =
        .ok config ∧
      Config.ofOptions World.still.homePath config.toOptions = .error .linksNeedServer ∧
      ((preprocessWith (some config) [("base_ref", .text "img")] HttpClient.shared "plain").run World.still).1 =
        .error (.configuration .linksNeedServer) ∧
      ((preprocessWith none (Entries.update [("output_mode", .text "url-only"), ("server_url", .text "/")]
        [("base_ref", .text "img")]) HttpClient.shared "plain").run World.still).1 = .ok "plain" := by
  refine ⟨_, rfl, rfl, rfl, ?_⟩
  obtain ⟨together, accepted, format⟩ : ∃ config, configFor World.still.homePath none
      (Entries.update [("output_mode", .text "url-only"), ("server_url", .text "/")] [("base_ref", .text "img")]) =
        .ok config ∧ config.format = .png := ⟨_, rfl, rfl⟩
  have absent : scan "plain" together.format.name = [] := by
    rw [format]
    decide +kernel
  rw [preprocessWith_run, accepted]
  exact (preprocess_of_no_blocks absent).1

end DiagramWeave
