import DiagramWeave.Proofs.Config.Leaves
import DiagramWeave.Proofs.World.Files

/-!
# Failures of loading a configuration

Whether loading comes to a configuration or to an error that says so is settled by the option file and the environment
alone: the caller's options can make it fail, but not break off. It breaks off where the path of the file cannot even be
looked up, where the file is no text, where its markup has a fault of another kind than bad syntax, and where an option
holds itself or has no name.
-/
namespace DiagramWeave

variable {world : World} {named : Option String}

/-- The option file that the caller names, or else the environment. -/
def World.namedFile? (world : World) (named : Option String) : Option FilePath :=
  (named.or ((world.environment.get? configVariable).filter fun name => !name.isEmpty)).map .ofText

/-- The path at which an option file is looked for. -/
def World.optionPath (world : World) (named : Option String) : FilePath :=
  (world.namedFile? named).getD (world.homePath.join (.ofText usualConfigName))

/-- The option file is a mapping with these options. -/
def World.Options (world : World) (named : Option String) (options : List (Value × Value)) : Prop :=
  ∃ (text : String) (entries : List (Value × Value)),
    world.disk.read world.home (world.optionPath named) = .ok text.toUTF8 ∧
      Yaml.read (unifyBreaks text.toList) = .ok (.mapping entries) ∧ options = optionsOf entries

/-- Why loading breaks off. -/
inductive LoadBreaks (named : Option String) (world : World) : Breakdown → Prop
  | tooLong {text : String} :
      world.disk.locate world.home (world.optionPath named) = .error (.refused .nameTooLong text) →
      LoadBreaks named world (.disk (.refused .nameTooLong text))
  | undecodable {content : ByteArray} : world.disk.read world.home (world.optionPath named) = .ok content →
      ¬ content.IsValidUTF8 → LoadBreaks named world .undecodable
  | markup {text : String} {fault : Yaml.Fault} :
      world.disk.read world.home (world.optionPath named) = .ok text.toUTF8 →
      Yaml.read (unifyBreaks text.toList) = .error fault → fault ≠ .malformed →
      LoadBreaks named world (.markup fault)
  | endless {options : List (Value × Value)} {before after : List Value} : world.Options named options →
      entryLeaves options = before ++ .circle :: after →
      (∀ leaf ∈ before, leafFault? world.environment leaf = none) → LoadBreaks named world .endlessValue
  | unnamed {options : List (Value × Value)} {entry : Value × Value} : world.Options named options →
      (∀ leaf ∈ entryLeaves options, leafFault? world.environment leaf = none) → entry ∈ options →
      entry.1.text? = none → LoadBreaks named world .unnamedOption

/-! ### The file -/

theorem Disk.exists?_eq_error {disk : Disk} {home : Place} {path : FilePath} {fault : DiskFault} :
    disk.exists? home path = .error fault ↔
      ∃ text, fault = .refused .nameTooLong text ∧ disk.locate home path = .error (.refused .nameTooLong text) := by
  rw [exists?]
  rcases disk.locate home path with ⟨_ | ⟨code, text⟩⟩ | place
  · simp
  · cases code <;> simp [eq_comm]
  · simp

theorem Disk.exists?_of_read {disk : Disk} {home : Place} {path : FilePath} {content : ByteArray}
    (holds : disk.read home path = .ok content) : disk.exists? home path = .ok true := by
  rw [read] at holds
  rw [exists?]
  cases located : disk.locate home path with
  | error fault =>
    rw [located] at holds
    cases holds
  | ok place =>
    rw [located] at holds
    cases stands : disk.at? place with
    | some entry => simp only [stands, Option.isSome_some]
    | none =>
      simp only [bind, Except.bind, stands] at holds
      cases holds

/-- What a file that is there holds for options. -/
def optionsIn (world : World) (path : FilePath) : Except Failure (List (Value × Value)) :=
  match world.disk.read world.home path with
  | .error fault => .error (.configuration (.unreadable path fault.text))
  | .ok content =>
    match String.fromUTF8? content with
    | none => .error (.breakdown .undecodable)
    | some text => parseOptions path (String.ofList (unifyBreaks text.toList))

theorem readOptions_run (path : FilePath) (world : World) :
    (readOptions path).run world =
      (match world.disk.exists? world.home path with
        | .error fault => .error (.breakdown (.disk fault))
        | .ok false => .error (.configuration (.fileNotFound path))
        | .ok true => optionsIn world path, world) := by
  rw [readOptions, run_bind, run_get]
  rcases world.disk.exists? world.home path with fault | there
  · rfl
  · cases there with
    | false => rfl
    | true =>
      simp only [World.readText, World.readFile, run_bind, run_get, run_pure, optionsIn]
      rcases world.disk.read world.home path with fault | content
      · rfl
      · simp only
        cases String.fromUTF8? content <;> rfl

theorem chooseFile_run (named : Option String) (world : World) :
    (chooseFile named).run world =
      (match world.namedFile? named with
        | some path => .ok (some path)
        | none => chooseFile.usual world, world) := by
  rw [chooseFile, run_bind, run_get]
  cases named with
  | some name => rfl
  | none =>
    simp only [World.namedFile?, Option.none_or]
    cases world.environment.get? configVariable with
    | none => rfl
    | some name =>
      cases empty : name.isEmpty <;> simp [empty, Option.filter] <;> rfl

/-- Reading a file of options and replacing their references. -/
theorem expanded_run (message : String) (path : FilePath) (world : World) :
    let reading : Action (Except Failure (List (Value × Value))) := do
      World.debug message
      match ← readOptions path with
      | .error failure => return .error failure
      | .ok entries => return expandEntries (← get).environment entries
    (reading.run world).1 =
        (match world.disk.exists? world.home path with
          | .error fault => .error (.breakdown (.disk fault))
          | .ok false => .error (.configuration (.fileNotFound path))
          | .ok true => optionsIn world path >>= expandEntries world.environment) ∧
      World.Logged world (reading.run world).2 := by
  -- That the reading has been noted makes no difference to what is read.
  obtain ⟨readings, log, noted⟩ : World.Logged world ((World.debug message).run world).2 := ⟨_, _, rfl⟩
  have same : optionsIn { world with readings := readings, log := log } path = optionsIn world path := rfl
  simp only [run_bind, noted, readOptions_run, same]
  rcases world.disk.exists? world.home path with fault | there
  · exact ⟨rfl, readings, log, rfl⟩
  · cases there with
    | false => exact ⟨rfl, readings, log, rfl⟩
    | true =>
      simp only
      cases optionsIn world path <;> exact ⟨rfl, readings, log, rfl⟩

/-- What the option file holds for options. There need be none unless it is named. -/
theorem fileOptions_run (named : Option String) (world : World) :
    ((fileOptions named).run world).1 =
        (match world.disk.exists? world.home (world.optionPath named) with
          | .error fault => .error (.breakdown (.disk fault))
          | .ok false =>
            if (world.namedFile? named).isSome then .error (.configuration (.fileNotFound (world.optionPath named)))
            else .ok []
          | .ok true => optionsIn world (world.optionPath named) >>= expandEntries world.environment) ∧
      World.Logged world ((fileOptions named).run world).2 := by
  rw [fileOptions, run_bind, chooseFile_run]
  cases which : world.namedFile? named with
  | some path =>
    have here : world.optionPath named = path := by rw [World.optionPath, which, Option.getD_some]
    rw [here]
    exact expanded_run _ path world
  | none =>
    have here : world.optionPath named = world.homePath.join (.ofText usualConfigName) := by
      rw [World.optionPath, which, Option.getD_none]
    rw [here]
    simp only [chooseFile.usual]
    rcases found : world.disk.exists? world.home (world.homePath.join (.ofText usualConfigName)) with fault | there
    · exact ⟨rfl, .refl world⟩
    · cases there with
      | false => exact ⟨rfl, _, _, rfl⟩
      | true =>
        have expanded := expanded_run s!"Loading config from {(world.homePath.join (.ofText usualConfigName)).text}"
          (world.homePath.join (.ofText usualConfigName)) world
        rw [found] at expanded
        exact expanded

theorem loadConfig_run_fst (named : Option String) (overrides : Entries) (world : World) :
    ((loadConfig named overrides).run world).1 =
      ((fileOptions named).run world).1 >>= fun fromFile => combine world.homePath fromFile overrides := by
  obtain ⟨readings, log, same⟩ := (fileOptions_run named world).2
  rw [loadConfig, run_bind]
  cases ((fileOptions named).run world).1 with
  | error failure => rfl
  | ok fromFile =>
    simp only [run_bind, run_get, same]
    have home : World.homePath { world with readings := readings, log := log } = world.homePath := rfl
    rw [home]
    cases combined : combine world.homePath fromFile overrides with
    | error failure => simp only [run_pure, bind, Except.bind, combined]
    | ok config =>
      simp only [bind, Except.bind, combined]
      rfl

/-! ### Where loading breaks off -/

theorem fromUTF8?_toUTF8 (text : String) : String.fromUTF8? text.toUTF8 = some text :=
  dif_pos text.isValidUTF8

theorem optionsIn_of_read {path : FilePath} {text : String}
    (read : world.disk.read world.home path = .ok text.toUTF8) :
    optionsIn world path = parseOptions path (String.ofList (unifyBreaks text.toList)) := by
  simp only [optionsIn, read, fromUTF8?_toUTF8]

theorem World.Options.optionsIn_eq {options : List (Value × Value)} (holds : world.Options named options) :
    world.disk.exists? world.home (world.optionPath named) = .ok true ∧
      optionsIn world (world.optionPath named) = .ok options := by
  obtain ⟨text, entries, read, markup, rfl⟩ := holds
  refine ⟨Disk.exists?_of_read read, ?_⟩
  simp only [optionsIn_of_read read, parseOptions, String.toList_ofList, markup]

theorem load_of_breaks {breakdown : Breakdown} (breaks : LoadBreaks named world breakdown) (overrides : Entries) :
    ((loadConfig named overrides).run world).1 = .error (.breakdown breakdown) := by
  rw [loadConfig_run_fst, (fileOptions_run named world).1]
  cases breaks with
  | tooLong located =>
    rw [Disk.exists?_eq_error.2 ⟨_, rfl, located⟩]
    rfl
  | undecodable read invalid =>
    have undecoded : String.fromUTF8? _ = none := dif_neg invalid
    simp only [Disk.exists?_of_read read, optionsIn, read, undecoded]
    rfl
  | @markup text fault read faulty other =>
    simp only [Disk.exists?_of_read read, optionsIn_of_read read, parseOptions, String.toList_ofList, faulty]
    cases fault with
    | malformed => exact absurd rfl other
    | beyondUnicode | notNumber | emptyNumber | notTruthValue | notMoment | impossibleMoment | endless => rfl
  | @endless options before after holds leaves fine =>
    have stops : expandEntries world.environment options = .error (.breakdown .endlessValue) :=
      expandEntries_eq_error.2 ⟨before, .circle, after, leaves, rfl, fine⟩
    rw [holds.optionsIn_eq.1, holds.optionsIn_eq.2]
    exact congrArg (· >>= fun fromFile => combine world.homePath fromFile overrides) stops
  | @unnamed options entry holds fine member nameless =>
    obtain ⟨expanded, expands⟩ := expandEntries_eq_ok.2 fine
    have none : named? expanded = none := (named?_of_expandEntries expands).2 ⟨entry, member, nameless⟩
    rw [holds.optionsIn_eq.1, holds.optionsIn_eq.2]
    refine (congrArg (· >>= fun fromFile => combine world.homePath fromFile overrides) expands).trans ?_
    change combine world.homePath expanded overrides = _
    rw [combine, none]

/-- A configuration that the options give, an error that says what is wrong with them, or one of the breakdowns. -/
inductive Loads (named : Option String) (overrides : Entries) (world : World) : Except Failure Config → Prop
  | valid {config : Config} (options : Entries) :
      Config.ofOptions world.homePath (options.update overrides.present) = .ok config →
      Loads named overrides world (.ok config)
  | foreseen (error : ConfigError) : Loads named overrides world (.error (.configuration error))
  | breaks {breakdown : Breakdown} : LoadBreaks named world breakdown →
      Loads named overrides world (.error (.breakdown breakdown))

theorem loads_combine {fromFile : List (Value × Value)} (overrides : Entries)
    (nameless : named? fromFile = none → LoadBreaks named world .unnamedOption) :
    Loads named overrides world (combine world.homePath fromFile overrides) := by
  rw [combine]
  cases given : named? fromFile with
  | none => exact .breaks (nameless given)
  | some options =>
    simp only
    cases read : Config.ofOptions world.homePath (options.update overrides.present) with
    | ok config => exact .valid options read
    | error error => exact .foreseen error

theorem loads_of_options {options : List (Value × Value)} (holds : world.Options named options) (overrides : Entries) :
    Loads named overrides world
      (expandEntries world.environment options >>= fun fromFile => combine world.homePath fromFile overrides) := by
  cases expands : expandEntries world.environment options with
  | error failure =>
    obtain ⟨before, leaf, after, leaves, stops, fine⟩ := expandEntries_eq_error.1 expands
    rcases leafFault?_eq_some stops with ⟨names, rfl⟩ | ⟨rfl, rfl⟩
    · exact .foreseen _
    · exact .breaks (.endless holds leaves fine)
  | ok expanded =>
    refine loads_combine overrides fun none => ?_
    obtain ⟨entry, member, nameless⟩ := (named?_of_expandEntries expands).1 none
    exact .unnamed holds (expandEntries_eq_ok.1 ⟨expanded, expands⟩) member nameless

theorem loads_loadConfig (named : Option String) (overrides : Entries) (world : World) :
    Loads named overrides world ((loadConfig named overrides).run world).1 := by
  have empty : Loads named overrides world (combine world.homePath [] overrides) :=
    loads_combine overrides fun nameless => nomatch nameless
  rw [loadConfig_run_fst, (fileOptions_run named world).1]
  -- The cases are the stages of the reading: whether there is a file, its bytes, its text, its markup and its kind.
  rcases found : world.disk.exists? world.home (world.optionPath named) with fault | there
  · obtain ⟨text, rfl, located⟩ := Disk.exists?_eq_error.1 found
    exact .breaks (.tooLong located)
  · cases there with
    | false =>
      simp only
      split
      · exact .foreseen _
      · exact empty
    | true =>
      simp only [optionsIn]
      cases read : world.disk.read world.home (world.optionPath named) with
      | error fault => exact .foreseen _
      | ok content =>
        by_cases valid : content.IsValidUTF8
        · obtain ⟨text, rfl⟩ : ∃ text : String, content = text.toUTF8 := ⟨⟨content, valid⟩, rfl⟩
          simp only [fromUTF8?_toUTF8, parseOptions, String.toList_ofList]
          cases markup : Yaml.read (unifyBreaks text.toList) with
          | error fault =>
            cases fault with
            | malformed => exact .foreseen _
            | beyondUnicode | notNumber | emptyNumber | notTruthValue | notMoment | impossibleMoment | endless =>
              exact .breaks (.markup read markup nofun)
          | ok value =>
            cases value with
            | null => exact empty
            | mapping entries => exact loads_of_options ⟨text, entries, read, markup, rfl⟩ overrides
            | flag | int | float | text | bytes | moment | group | circle | list => exact .foreseen _
        · have undecoded : String.fromUTF8? content = none := dif_neg valid
          simp only [undecoded]
          exact .breaks (.undecodable read valid)

/-- Loading comes to a configuration that is valid or to an error that says what is wrong just when the option file gives
    no reason to break off, and the reasons are known, one by one. -/
theorem loadConfig_foreseen (named : Option String) (overrides : Entries) (world : World) :
    let loaded := ((loadConfig named overrides).run world).1
    (((∃ config options, loaded = .ok config ∧
          Config.ofOptions world.homePath (Entries.update options overrides.present) = .ok config) ∨
        ∃ error, loaded = .error (.configuration error)) ↔ ∀ breakdown, ¬ LoadBreaks named world breakdown) ∧
    ∀ breakdown, loaded = .error (.breakdown breakdown) ↔ LoadBreaks named world breakdown := by
  intro loaded
  have loads : Loads named overrides world loaded := loads_loadConfig named overrides world
  have broke {breakdown : Breakdown} (breaks : LoadBreaks named world breakdown) :
      loaded = .error (.breakdown breakdown) := load_of_breaks breaks overrides
  generalize loaded = result at loads broke
  constructor
  · constructor
    · rintro (⟨config, options, rfl, _⟩ | ⟨error, rfl⟩) breakdown breaks <;> exact nomatch broke breaks
    · intro fine
      cases loads with
      | valid options read => exact .inl ⟨_, options, rfl, read⟩
      | foreseen error => exact .inr ⟨error, rfl⟩
      | breaks why => exact absurd why (fine _)
  · intro breakdown
    refine ⟨?_, broke⟩
    rintro rfl
    cases loads with
    | breaks why => exact why

/-- The option file of this world is one byte that no text has. -/
def scrambled : World :=
  { World.still with disk := ⟨[(["home", "c.yaml"], ⟨#[0xff]⟩)], [["home"]]⟩ }

theorem loadConfig_breaks_at_bytes :
    ((loadConfig (some "c.yaml") []).run scrambled).1 = .error (.breakdown .undecodable) ∧
      ¬ ((∃ config, ((loadConfig (some "c.yaml") []).run scrambled).1 = .ok config) ∨
        ∃ error, ((loadConfig (some "c.yaml") []).run scrambled).1 = .error (.configuration error)) := by
  have broke : ((loadConfig (some "c.yaml") []).run scrambled).1 = .error (.breakdown .undecodable) := by
    have read : scrambled.disk.read scrambled.home (scrambled.optionPath (some "c.yaml")) = .ok ⟨#[0xff]⟩ := by
      rfl
    refine load_of_breaks (.undecodable read ?_) []
    decide +kernel
  refine ⟨broke, ?_⟩
  rw [broke]
  rintro (⟨_, same⟩ | ⟨_, same⟩) <;> cases same

end DiagramWeave
