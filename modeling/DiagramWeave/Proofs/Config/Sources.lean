import DiagramWeave.Proofs.Config.Entries
import DiagramWeave.Proofs.Config.Loading
import DiagramWeave.Proofs.Environment.Expansion
import DiagramWeave.Proofs.Yaml.Keys

/-!
# Where options come from

One option file applies, and which one is settled before it is looked into. Each option has the value that the caller
gives it, as it is, or else the one of the file with its references replaced; a null gives none. When the options stand
under their own entry of the file, what stands beside it counts for nothing. Two kinds of files give no configuration
although all their references can be replaced: those with an option whose name is no text, even if it is null, and those
with a value that holds itself.
-/
namespace DiagramWeave

variable {world : World} {environment : Environment} {options : List (Value × Value)} {overrides : Entries}

/-! ### The file -/

/-- The usual option file. -/
def World.usualPath (world : World) : FilePath :=
  world.homePath.join (.ofText usualConfigName)

/-- The environment names an option file; an empty name is none. -/
def World.EnvironmentNames (world : World) (name : String) : Prop :=
  world.environment.get? configVariable = some name ∧ name ≠ ""

/-- The option file that applies, or none: the one that the caller names, or else the one that the environment names, or
    else the usual one if it exists. -/
inductive World.Selects (world : World) : Option String → Option FilePath → Prop
  | byCaller (name : String) : world.Selects (some name) (some (.ofText name))
  | byEnvironment {name : String} : world.EnvironmentNames name → world.Selects none (some (.ofText name))
  | usual : (∀ name, ¬ world.EnvironmentNames name) → world.disk.exists? world.home world.usualPath = .ok true →
      world.Selects none (some world.usualPath)
  | nothing : (∀ name, ¬ world.EnvironmentNames name) → world.disk.exists? world.home world.usualPath = .ok false →
      world.Selects none none

/-- The file at the path holds a mapping with these entries, or nothing at all and there are none. -/
def World.Holds (world : World) (path : FilePath) (entries : List (Value × Value)) : Prop :=
  ∃ text : String, world.disk.read world.home path = .ok text.toUTF8 ∧
    (Yaml.read (unifyBreaks text.toList) = .ok (.mapping entries) ∨
      Yaml.read (unifyBreaks text.toList) = .ok .null ∧ entries = [])

theorem namedFile?_eq_none_iff : world.namedFile? none = none ↔ ∀ name, ¬ world.EnvironmentNames name := by
  simp [World.namedFile?, World.EnvironmentNames]

theorem namedFile?_eq_some_iff {path : FilePath} :
    world.namedFile? none = some path ↔ ∃ name, world.EnvironmentNames name ∧ path = .ofText name := by
  simp [World.namedFile?, World.EnvironmentNames, Option.filter_eq_some_iff, @eq_comm _ path]

theorem selects_iff {named : Option String} {selected : Option FilePath} : world.Selects named selected ↔
    (∃ path, world.namedFile? named = some path ∧ selected = some path) ∨
      world.namedFile? named = none ∧
        (world.disk.exists? world.home world.usualPath = .ok true ∧ selected = some world.usualPath ∨
          world.disk.exists? world.home world.usualPath = .ok false ∧ selected = none) := by
  constructor
  · intro selects
    cases selects with
    | byCaller name => exact .inl ⟨_, rfl, rfl⟩
    | byEnvironment names => exact .inl ⟨_, namedFile?_eq_some_iff.2 ⟨_, names, rfl⟩, rfl⟩
    | usual unnamed there => exact .inr ⟨namedFile?_eq_none_iff.2 unnamed, .inl ⟨there, rfl⟩⟩
    | nothing unnamed absent => exact .inr ⟨namedFile?_eq_none_iff.2 unnamed, .inr ⟨absent, rfl⟩⟩
  · cases named with
    | some name =>
      rintro (⟨path, same, rfl⟩ | ⟨none, _⟩)
      · cases same
        exact .byCaller name
      · cases none
    | none =>
      rintro (⟨path, applies, rfl⟩ | ⟨unnamed, ⟨there, rfl⟩ | ⟨absent, rfl⟩⟩)
      · obtain ⟨name, names, rfl⟩ := namedFile?_eq_some_iff.1 applies
        exact .byEnvironment names
      · exact .usual (namedFile?_eq_none_iff.1 unnamed) there
      · exact .nothing (namedFile?_eq_none_iff.1 unnamed) absent

theorem chooseFile_eq_ok_iff {named : Option String} {selected : Option FilePath} :
    ((chooseFile named).run world).1 = .ok selected ↔ world.Selects named selected := by
  rw [chooseFile_run, selects_iff]
  cases world.namedFile? named with
  | some path => simp [eq_comm]
  | none =>
    have usual : chooseFile.usual world =
        (world.disk.exists? world.home world.usualPath).map fun found => if found then some world.usualPath else none :=
      rfl
    rw [usual, map_eq_ok]
    simp [and_comm, or_comm]

section

variable {named : Option String} {path : FilePath}

theorem optionPath_of_selects (selects : world.Selects named (some path)) : world.optionPath named = path := by
  rcases selects_iff.1 selects with ⟨_, names, same⟩ | ⟨unnamed, ⟨_, same⟩ | ⟨_, same⟩⟩
  · rw [World.optionPath, names]
    exact (Option.some.inj same).symm
  · rw [World.optionPath, unnamed]
    exact (Option.some.inj same).symm
  · cases same

theorem fileOptions_of_nothing (selects : world.Selects named none) : ((fileOptions named).run world).1 = .ok [] := by
  rcases selects_iff.1 selects with ⟨_, _, same⟩ | ⟨unnamed, ⟨_, same⟩ | ⟨absent, _⟩⟩
  · cases same
  · cases same
  · have here : world.optionPath named = world.usualPath := by
      rw [World.optionPath, unnamed]
      rfl
    rw [(fileOptions_run named world).1, here, absent, unnamed]
    rfl

theorem fileOptions_of_missing (selects : world.Selects named (some path))
    (missing : world.disk.exists? world.home path = .ok false) :
    ((fileOptions named).run world).1 = .error (.configuration (.fileNotFound path)) := by
  rw [(fileOptions_run named world).1, optionPath_of_selects selects, missing]
  rcases selects_iff.1 selects with ⟨_, names, _⟩ | ⟨_, ⟨there, same⟩ | ⟨_, same⟩⟩
  · rw [names]
    rfl
  · -- The usual file is selected only where it is.
    cases same
    rw [there] at missing
    cases missing
  · cases same

theorem fileOptions_of_holds {entries : List (Value × Value)} (selects : world.Selects named (some path))
    (holds : world.Holds path entries) :
    ((fileOptions named).run world).1 = expandEntries world.environment (optionsOf entries) := by
  obtain ⟨text, read, markup⟩ := holds
  have inFile : optionsIn world path = .ok (optionsOf entries) := by
    rw [optionsIn_of_read read, parseOptions, String.toList_ofList]
    rcases markup with mapping | ⟨null, rfl⟩
    · rw [mapping]
    · rw [null]
      rfl
  rw [(fileOptions_run named world).1, optionPath_of_selects selects, Disk.exists?_of_read read, inFile]
  rfl

end

/-! ### Names -/

theorem nodup_textNames_of_holds {path : FilePath} {entries : List (Value × Value)} (holds : world.Holds path entries) :
    (textNames (optionsOf entries)).Nodup := by
  obtain ⟨text, _, mapping | ⟨_, rfl⟩⟩ := holds
  · rw [optionsOf]
    cases namesOnce_read mapping with
    | single _ none => exact absurd rfl (none entries)
    | mapping once inner =>
      split
      next nested under =>
        obtain ⟨entry, found, same⟩ := Option.map_eq_some_iff.1 under
        have deep := same ▸ inner entry (List.mem_of_find?_eq_some found)
        cases deep with
        | single _ none => exact absurd rfl (none nested)
        | mapping once _ => exact once
      · exact once
  · exact List.nodup_nil

theorem named?_eq_some_iff {entries : List (Value × Value)} {given : Entries} :
    named? entries = some given ↔ entries = given.map fun option => (.text option.1, option.2) := by
  induction entries generalizing given with
  | nil => cases given <;> simp [named?]
  | cons entry entries ih =>
    obtain ⟨name, value⟩ := entry
    cases given with
    | nil => simp [named?, Option.bind_eq_some_iff]
    | cons option given =>
      simp only [named?, Option.bind_eq_bind, Option.bind_eq_some_iff, ih, Value.text?_eq_some, Option.pure_def]
      simp [Prod.ext_iff, and_assoc, and_left_comm]

/-- The options are those of the file under texts as names, with their references replaced. -/
def ExpandedOptions (environment : Environment) : List (Value × Value) → Entries → Prop :=
  List.Forall₂ fun entry option => entry.1 = .text option.1 ∧ expandValue environment entry.2 = .ok option.2

theorem expandedOptions_of_eq {expanded : List (Value × Value)} {given : Entries}
    (expands : expandEntries environment options = .ok expanded) (named : named? expanded = some given) :
    ExpandedOptions environment options given := by
  rw [named?_eq_some_iff.1 named, expandEntries_eq_ok_iff, List.forall₂_map_right_iff] at expands
  exact expands

theorem valueUnder?_cons (own : String) (value : Value) (entries : List (Value × Value)) (name : String) :
    valueUnder? ((.text own, value) :: entries) name = if own = name then some value else valueUnder? entries name := by
  by_cases here : own = name
  · rw [if_pos here, valueUnder?, List.find?_cons_of_pos (by simp [Value.text?, here])]
    rfl
  · rw [if_neg here, valueUnder?, List.find?_cons_of_neg (by simp [Value.text?, here])]
    rfl

namespace ExpandedOptions

variable {given : Entries}

theorem names_eq (expanded : ExpandedOptions environment options given) : given.names = textNames options := by
  induction expanded with
  | nil => rfl
  | @cons entry option options given related _ ih =>
    obtain ⟨name, value⟩ := entry
    obtain ⟨rfl, _⟩ := related
    exact congrArg (option.1 :: ·) ih

theorem get?_eq (expanded : ExpandedOptions environment options given) (name : String) :
    given.get? name = (valueUnder? options name).bind fun value => (expandValue environment value).toOption := by
  induction expanded with
  | nil => rfl
  | @cons entry option options given related _ ih =>
    obtain ⟨known, value⟩ := entry
    obtain ⟨own, result⟩ := option
    obtain ⟨rfl, expands⟩ := related
    rw [Entries.get?_cons, valueUnder?_cons, ih]
    by_cases here : own = name
    · rw [if_pos here, if_pos here, Option.bind_some, expands]
      rfl
    · rw [if_neg here, if_neg here]

end ExpandedOptions

/-! ### Precedence -/

/-- The value of an option: the caller's as it is, or else that of the file with its references replaced. A null is no
    value. -/
def optionValue? (environment : Environment) (options : List (Value × Value)) (overrides : Entries) (name : String) :
    Option Value :=
  ((overrides.get? name).filter fun value => !value.isNull).or
    (((valueUnder? options name).bind fun value => (expandValue environment value).toOption).filter
      fun value => !value.isNull)

/-- The options with their values, those of the file first. -/
def layered (environment : Environment) (options : List (Value × Value)) (overrides : Entries) : Entries :=
  Entries.ofNames (optionValue? environment options overrides)
    (textNames options ++ overrides.present.names.filter fun name => name ∉ textNames options)

namespace ExpandedOptions

variable {given : Entries}

/-- What comes of an update is what the precedence says. -/
theorem present_update_eq (expanded : ExpandedOptions environment options given) (once : (textNames options).Nodup)
    (onceToo : overrides.names.Nodup) :
    (given.update overrides.present).present = layered environment options overrides := by
  have onceGiven : given.names.Nodup := expanded.names_eq ▸ once
  have oncePresent : overrides.present.names.Nodup := onceToo.sublist (Entries.names_present_sublist overrides)
  have onceAll : (given.update overrides.present).names.Nodup := Entries.nodup_names_update onceGiven _
  -- Entries with their names once are settled by these names and the value of each, and `layered` has both.
  have values : (given.update overrides.present).present.get? = optionValue? environment options overrides := by
    funext name
    rw [Entries.get?_present_update (Entries.allPresent_present overrides), Entries.get?_reverse oncePresent,
      Entries.get?_present onceToo, Entries.get?_present onceGiven, expanded.get?_eq]
    rfl
  rw [Entries.present_eq_ofNames onceAll, values, Entries.names_update oncePresent, expanded.names_eq]
  rfl

end ExpandedOptions

theorem ofOptions_present (home : FilePath) (given : Entries) :
    Config.ofOptions home given.present = Config.ofOptions home given := by
  have again : given.present.present = given.present := by simp [Entries.present]
  rw [Config.ofOptions, Config.ofOptions, again]

theorem combine_eq_mapError {home : FilePath} {fromFile : List (Value × Value)} {given : Entries}
    (named : named? fromFile = some given) (overrides : Entries) : combine home fromFile overrides =
      (Config.ofOptions home (given.update overrides.present).present).mapError .configuration := by
  rw [combine, named, ofOptions_present]
  simp only
  cases Config.ofOptions home (given.update overrides.present) <;> rfl

theorem mapError_ne_breakdown (result : Except ConfigError Config) (breakdown : Breakdown) :
    result.mapError Failure.configuration ≠ .error (.breakdown breakdown) := by
  cases result <;> nofun

/-- With all references known the options come together by their precedence just when the file has nothing that holds
    itself and no name that is no text. -/
theorem combined_iff (home : FilePath) (once : (textNames options).Nodup) (onceToo : overrides.names.Nodup)
    (known : ∀ content, .text content ∈ entryLeaves options → ∃ expanded, expand environment content = .ok expanded) :
    (expandEntries environment options >>= fun fromFile => combine home fromFile overrides) =
        (Config.ofOptions home (layered environment options overrides)).mapError .configuration ↔
      .circle ∉ entryLeaves options ∧ ∀ entry ∈ options, entry.1.text? ≠ none := by
  have fine {leaf : Value} (member : leaf ∈ entryLeaves options) (finite : leaf ≠ .circle) :
      leafFault? environment leaf = none := by
    refine (leafFault?_eq_none_iff finite).2 ?_
    rintro content rfl
    exact known content member
  cases expands : expandEntries environment options with
  | error failure =>
    -- All texts can be expanded, so it was a collection in itself that stopped this.
    obtain ⟨before, leaf, after, leaves, stops, _⟩ := expandEntries_eq_error.1 expands
    have member : leaf ∈ entryLeaves options := by simp [leaves]
    obtain rfl : leaf = .circle := by
      by_contra finite
      rw [fine member finite] at stops
      cases stops
    cases stops
    exact iff_of_false (mapError_ne_breakdown _ _).symm fun so => so.1 member
  | ok fromFile =>
    change combine home fromFile overrides = _ ↔ _
    cases given : named? fromFile with
    | none =>
      obtain ⟨entry, member, nameless⟩ := (named?_of_expandEntries expands).1 given
      rw [combine, given]
      exact iff_of_false (mapError_ne_breakdown _ _).symm fun so => so.2 entry member nameless
    | some listed =>
      rw [combine_eq_mapError given, (expandedOptions_of_eq expands given).present_update_eq once onceToo]
      refine iff_of_true rfl ⟨fun member => ?_, fun entry member nameless => ?_⟩
      · have stops := expandEntries_eq_ok.1 ⟨fromFile, expands⟩ _ member
        cases stops
      · rw [(named?_of_expandEntries expands).2 ⟨entry, member, nameless⟩] at given
        cases given

/-! ### Loading -/

/-- The option file that applies is the one that comes first among those named, and it must be there. Of its options and
    the caller's each has the value that the precedence says, if all references can be replaced; this holds just when no
    value holds itself and all names are texts. Of a file with nested options nothing else counts. -/
theorem option_sources_in_order (named : Option String) (overrides : Entries) (once : overrides.names.Nodup)
    (world : World) :
    let loaded := ((loadConfig named overrides).run world).1
    (∀ selected, ((chooseFile named).run world).1 = .ok selected ↔ world.Selects named selected) ∧
    (world.Selects named none →
      loaded = (Config.ofOptions world.homePath (layered world.environment [] overrides)).mapError .configuration) ∧
    ∀ path, world.Selects named (some path) →
      (world.disk.exists? world.home path = .ok false → loaded = .error (.configuration (.fileNotFound path))) ∧
      ∀ entries, world.Holds path entries →
        ((∀ content, .text content ∈ entryLeaves (optionsOf entries) →
            ∃ expanded, expand world.environment content = .ok expanded) →
          (loaded = (Config.ofOptions world.homePath
              (layered world.environment (optionsOf entries) overrides)).mapError .configuration ↔
            .circle ∉ entryLeaves (optionsOf entries) ∧ ∀ entry ∈ optionsOf entries, entry.1.text? ≠ none)) ∧
        ∀ nested, valueUnder? entries nestedName = some (.mapping nested) →
          ∀ (other : World) (namedThere : Option String) (pathThere : FilePath) (entriesThere : List (Value × Value)),
            other.home = world.home → other.environment = world.environment →
            other.Selects namedThere (some pathThere) → other.Holds pathThere entriesThere →
            valueUnder? entriesThere nestedName = some (.mapping nested) →
            ((loadConfig namedThere overrides).run other).1 = loaded := by
  intro loaded
  have unfolded : loaded = ((fileOptions named).run world).1 >>= fun fromFile =>
      combine world.homePath fromFile overrides := loadConfig_run_fst named overrides world
  refine ⟨fun _ => chooseFile_eq_ok_iff, ?_, ?_⟩
  · intro selects
    rw [unfolded, fileOptions_of_nothing selects]
    -- No file says as much as an empty one.
    have unnamed : (textNames []).Nodup := List.nodup_nil
    exact (combined_iff world.homePath unnamed once nofun).2 ⟨List.not_mem_nil, nofun⟩
  · intro path selects
    refine ⟨?_, ?_⟩
    · intro missing
      rw [unfolded, fileOptions_of_missing selects missing]
      rfl
    · intro entries holds
      rw [unfolded, fileOptions_of_holds selects holds]
      refine ⟨combined_iff world.homePath (nodup_textNames_of_holds holds) once, ?_⟩
      intro nested under other namedThere pathThere entriesThere home environment selectsThere holdsThere underThere
      have options : optionsOf entries = nested := by rw [optionsOf, under]
      have optionsThere : optionsOf entriesThere = nested := by rw [optionsOf, underThere]
      have homePath : other.homePath = world.homePath := by rw [World.homePath, World.homePath, home]
      rw [loadConfig_run_fst, fileOptions_of_holds selectsThere holdsThere, optionsThere, options, environment,
        homePath]

/-! ### Files -/

mutual

/-- The values are the same, and both are made of mappings, texts, integers and nulls. -/
def Value.alike : Value → Value → Bool
  | .null, .null => true
  | .int one, .int other => one == other
  | .text one, .text other => one == other
  | .mapping entries, .mapping others => alikeEntries entries others
  | _, _ => false

def alikeEntries : List (Value × Value) → List (Value × Value) → Bool
  | [], [] => true
  | (name, value) :: entries, (otherName, other) :: others =>
    name.alike otherName && value.alike other && alikeEntries entries others
  | _, _ => false

end

mutual

theorem Value.eq_of_alike : ∀ {value other : Value}, value.alike other = true → value = other
  | .mapping entries, .mapping others, same => by
    rw [Value.alike] at same
    rw [eq_of_alikeEntries same]
  | .null, .null, _ => rfl
  | .int _, .int _, same => by rw [eq_of_beq same]
  | .text _, .text _, same => by rw [eq_of_beq same]

theorem eq_of_alikeEntries : ∀ {entries others : List (Value × Value)}, alikeEntries entries others = true →
    entries = others
  | [], [], _ => rfl
  | (name, value) :: entries, (otherName, other) :: others, same => by
    rw [alikeEntries, Bool.and_eq_true, Bool.and_eq_true] at same
    rw [Value.eq_of_alike same.1.1, Value.eq_of_alike same.1.2, eq_of_alikeEntries same.2]

end

/-- The text of a file reads as the value. -/
def readsAs (text : String) (value : Value) : Bool :=
  match Yaml.read (unifyBreaks text.toList) with
  | .ok other => other.alike value
  | .error _ => false

theorem read_of_readsAs {text : String} {value : Value} (same : readsAs text value = true) :
    Yaml.read (unifyBreaks text.toList) = .ok value := by
  rw [readsAs] at same
  split at same
  next read => rw [read, Value.eq_of_alike same]
  · cases same

/-- A server with a default. -/
def served : List (Value × Value) := [(.text "server_url", .text "$\x7bS:-http://x\x7d")]

/-- The options under their own entry, and beside it one that is unknown and refers to a missing variable. -/
def annotated : String := "plantuml:\n  server_url: $\x7bS:-http://x\x7d\nnote: $\x7bUNSET\x7d\n"

/-- The options with nothing beside their entry. -/
def unannotated : String := "plantuml:\n  server_url: $\x7bS:-http://x\x7d\n"

/-- A server, and in front of it an entry without a value whose name is a number. -/
def counted : List (Value × Value) := [(.int 1, .null), (.text "server_url", .text "http://x")]

def numbered : String := "1:\nserver_url: http://x\n"

theorem read_annotated : Yaml.read (unifyBreaks annotated.toList) =
    .ok (.mapping [(.text "plantuml", .mapping served), (.text "note", .text "$\x7bUNSET\x7d")]) :=
  read_of_readsAs (by decide +kernel)

theorem read_unannotated : Yaml.read (unifyBreaks unannotated.toList) =
    .ok (.mapping [(.text "plantuml", .mapping served)]) :=
  read_of_readsAs (by decide +kernel)

theorem read_numbered : Yaml.read (unifyBreaks numbered.toList) = .ok (.mapping counted) :=
  read_of_readsAs (by decide +kernel)

/-- A working directory with these option files. -/
def shelf : World :=
  { World.still with disk := ⟨[(["home", ".plantmark.yaml"], annotated.toUTF8),
      (["home", "b.yaml"], unannotated.toUTF8), (["home", "c.yaml"], numbered.toUTF8)], [["home"]]⟩ }

theorem shelf_selects : shelf.Selects none (some shelf.usualPath) := by
  have unnamed (name : String) : ¬ shelf.EnvironmentNames name := by
    rintro ⟨found, _⟩
    cases found
  exact .usual unnamed rfl

/-- The caller's null leaves its option to the file, and the caller's text is taken as it is. -/
def nullServer : Entries := [("server_url", .null), ("base_ref", .text "$\x7bN\x7d")]

theorem expandValue_http {text : String} (expands : expand shelf.environment text = .ok "http://x") :
    expandValue shelf.environment (.text text) = .ok (.text "http://x") := by
  rw [expandValue, expands]

theorem option_sources_in_order_shelf :
    nullServer.names.Nodup ∧ shelf.Selects none (some shelf.usualPath) ∧
    ((loadConfig none nullServer).run shelf).1 = (Config.ofOptions shelf.homePath
      [("server_url", .text "http://x"), ("base_ref", .text "$\x7bN\x7d")]).mapError .configuration ∧
    ((loadConfig (some "b.yaml") nullServer).run shelf).1 = ((loadConfig none nullServer).run shelf).1 ∧
    ((loadConfig (some "d.yaml") nullServer).run shelf).1 =
      .error (.configuration (.fileNotFound (.ofText "d.yaml"))) := by
  have once : nullServer.names.Nodup := by decide
  have usual : shelf.Holds shelf.usualPath _ := ⟨annotated, rfl, .inl read_annotated⟩
  have beside : shelf.Holds (.ofText "b.yaml") _ := ⟨unannotated, rfl, .inl read_unannotated⟩
  obtain ⟨_, _, files⟩ := option_sources_in_order none nullServer once shelf
  obtain ⟨_, contents⟩ := files _ shelf_selects
  obtain ⟨precedence, alone⟩ := contents _ usual
  have expands : expand shelf.environment "$\x7bS:-http://x\x7d" = .ok "http://x" := by decide +kernel
  have known (content : String) (member : .text content ∈ entryLeaves served) :
      ∃ expanded, expand shelf.environment content = .ok expanded := by
    cases List.mem_singleton.1 member
    exact ⟨_, expands⟩
  have finite : .circle ∉ entryLeaves served := by simp [served, entryLeaves, Value.leaves]
  have texts : ∀ entry ∈ served, entry.1.text? ≠ none := by simp [served, Value.text?]
  have merged : layered shelf.environment served nullServer =
      [("server_url", .text "http://x"), ("base_ref", .text "$\x7bN\x7d")] := by
    have server : optionValue? shelf.environment served nullServer "server_url" = some (.text "http://x") := by
      change ((expandValue shelf.environment _).toOption.filter fun value => !value.isNull) = _
      rw [expandValue_http expands]
      rfl
    have base : optionValue? shelf.environment served nullServer "base_ref" = some (.text "$\x7bN\x7d") := rfl
    have names : layered shelf.environment served nullServer =
        Entries.ofNames (optionValue? shelf.environment served nullServer) ["server_url", "base_ref"] := rfl
    rw [names, Entries.ofNames_cons server, Entries.ofNames_cons base]
    rfl
  refine ⟨once, shelf_selects, ?_, ?_, ?_⟩
  · rw [← merged]
    exact (precedence known).2 ⟨finite, texts⟩
  · exact alone served rfl shelf _ _ _ rfl rfl (.byCaller "b.yaml") beside rfl
  · obtain ⟨_, _, filesThere⟩ := option_sources_in_order (some "d.yaml") nullServer once shelf
    exact (filesThere _ (.byCaller "d.yaml")).1 rfl

/-- The number has no value, and without it there would be a configuration. -/
theorem number_hides_options :
    shelf.Selects (some "c.yaml") (some (.ofText "c.yaml")) ∧ shelf.Holds (.ofText "c.yaml") counted ∧
    ((loadConfig (some "c.yaml") []).run shelf).1 = .error (.breakdown .unnamedOption) ∧
    layered shelf.environment counted [] = [("server_url", .text "http://x")] ∧
    ∃ config, Config.ofOptions shelf.homePath [("server_url", .text "http://x")] = .ok config := by
  have expands : expand shelf.environment "http://x" = .ok "http://x" := by decide +kernel
  refine ⟨.byCaller _, ⟨numbered, rfl, .inl read_numbered⟩, ?_, ?_, _, rfl⟩
  · have holds : shelf.Options (some "c.yaml") counted := ⟨numbered, _, rfl, read_numbered, rfl⟩
    have fine : ∀ leaf ∈ entryLeaves counted, leafFault? shelf.environment leaf = none := by
      simp [counted, entryLeaves, Value.leaves, leafFault?, expands]
    exact load_of_breaks (.unnamed holds fine List.mem_cons_self rfl) []
  · have server : optionValue? shelf.environment counted [] "server_url" = some (.text "http://x") := by
      change ((expandValue shelf.environment (.text "http://x")).toOption.filter fun value => !value.isNull) = _
      rw [expandValue_http expands]
      rfl
    exact Entries.ofNames_cons server []

end DiagramWeave
