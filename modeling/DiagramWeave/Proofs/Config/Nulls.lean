import DiagramWeave.Proofs.Config.Faults
import DiagramWeave.Proofs.Config.Sources

/-!
# Options that are null

A null is no value wherever options alone are read, and where they are laid over those of a file. Over a configuration
that has been built it is more than that: it takes the value of the configuration away, and the default stands in its
place. So the nulls among options over a configuration can be left out just when they are nulls of options that are at
their defaults anyway.
-/
namespace DiagramWeave

variable {home : FilePath} {given further : Entries} {config kept : Config} {name : String}

/-! ### Readings of the options with their nulls and without them -/

namespace Entries

theorem present_present (entries : Entries) : entries.present.present = entries.present := by
  simp [present]

theorem names_present_nodup (once : given.names.Nodup) : given.present.names.Nodup :=
  once.sublist (names_present_sublist given)

theorem get?_update_present {base : Entries} (once : further.names.Nodup) (baseOnce : base.names.Nodup)
    (name : String) : (base.update further).present.get? name =
      ((further.get? name).or (base.get? name)).filter fun value => !value.isNull := by
  rw [get?_present (nodup_names_update baseOnce further), get?_update, get?_reverse once]

/-- A null takes away what was there. -/
theorem get?_update_of_null {base : Entries} (once : further.names.Nodup) (baseOnce : base.names.Nodup)
    (null : further.get? name = some .null) : (base.update further).present.get? name = none := by
  rw [get?_update_present once baseOnce, null]
  rfl

/-- Without the nulls there stays what was there. -/
theorem get?_update_present_of_null {base : Entries} (once : further.names.Nodup) (baseOnce : base.names.Nodup)
    (null : further.get? name = some .null) :
    (base.update further.present).present.get? name = base.present.get? name := by
  rw [get?_update_present (names_present_nodup once) baseOnce, get?_present once, null, get?_present baseOnce]
  rfl

theorem get?_update_of_not_null {base : Entries} (once : further.names.Nodup) (baseOnce : base.names.Nodup)
    (there : further.get? name ≠ some .null) :
    (base.update further).present.get? name = (base.update further.present).present.get? name := by
  rw [get?_update_present once baseOnce, get?_update_present (names_present_nodup once) baseOnce, get?_present once]
  cases found : further.get? name with
  | none => rfl
  | some value =>
    have value_present : value.isNull = false := by
      cases value with
      | null => exact absurd found there
      | _ => rfl
    rw [Option.filter_some, if_pos (by rw [value_present]; rfl)]

theorem update_eq_append (entries : Entries) {changes : Entries} (once : changes.names.Nodup)
    (apart : ∀ name ∈ changes.names, name ∉ entries.names) : entries.update changes = entries ++ changes := by
  induction changes generalizing entries with
  | nil => exact (List.append_nil entries).symm
  | cons change changes ih =>
    obtain ⟨name, value⟩ := change
    obtain ⟨new, later⟩ := List.nodup_cons.1 once
    have free : name ∉ entries.names := apart name List.mem_cons_self
    have first : entries.set name value = entries ++ [(name, value)] := by
      have := set_append_of_not_mem [] value free
      rwa [List.append_nil] at this
    rw [update_cons, first, ih _ later, List.append_assoc]
    · rfl
    · intro other member
      rw [names, List.map_append, List.mem_append, not_or]
      refine ⟨apart other (List.mem_cons_of_mem _ member), fun same => new ?_⟩
      rwa [List.mem_singleton.1 same] at member

end Entries

namespace Config

theorem nodup_names_toOptions (config : Config) : config.toOptions.names.Nodup := by
  have names : config.toOptions.names = optionNames := rfl
  rw [names]
  decide

theorem unknownOptions_update_nulls (once : further.names.Nodup) :
    unknownOptions (config.toOptions.update further).present =
      unknownOptions (config.toOptions.update further.present).present := by
  have unknown (changes : Entries) (changesOnce : changes.names.Nodup) :
      unknownOptions (config.toOptions.update changes).present =
        (changes.ofKind isUnknown).present.map fun entry => (entry.1, .unknownOption) := by
    have among : (Entries.names (changes.ofKind isUnknown)).Nodup := changesOnce.sublist (List.filter_sublist.map _)
    rw [unknownOptions_present, Entries.ofKind_update, ofKind_isUnknown_toOptions,
      Entries.update_eq_append [] among (by simp [Entries.names]), List.nil_append]
  rw [unknown further once, unknown _ (Entries.names_present_nodup once)]
  -- The nulls go whether or not the unknown ones are picked first.
  have same : (further.present.ofKind isUnknown).present = (further.ofKind isUnknown).present := by
    simp only [Entries.present, Entries.ofKind, List.filter_filter]
    refine List.filter_congr fun entry _ => ?_
    cases isUnknown entry.1 <;> simp
  rw [same]

/-! ### Defaults -/

/-- The option of the configuration is what it would be if it had not been given. A command or a server of blanks is as
    good as none. -/
def Unset (home : FilePath) (config : Config) (name : String) : Prop :=
  match name with
  | "output_mode" => config.outputMode = .image
  | "exec" => ∀ line, config.command = some line → Text.allBlank line.toList = true
  | "server_url" => ∀ server, config.server = some server → Text.allBlank server.toList = true
  | "output_dir" => config.outputDir = home
  | "base_ref" => config.baseRef = "."
  | "image_format" => config.format = .png
  | "timeout" => config.timeout = 60.0
  | "max_concurrent" => config.workers = 4
  | _ => True

/-- The nulls among the options take no value of the configuration away. Where there is nothing but nulls, the
    configuration must also be one that is read back from its own options. -/
def IndifferentTo (home : FilePath) (config : Config) (further : Entries) : Prop :=
  (∀ name, further.get? name = some .null → config.Unset home name) ∧
    (further.present = [] → further ≠ [] → config.LastsUnder [])

theorem readOr_written_eq_none {read : Value → Except OptionFault (Option String)} {written : Option String}
    (stands : config.toOptions.present.get? name = written.map .text)
    (blank : ∀ text, read (.text text) = .ok none ↔ Text.allBlank text.toList = true) :
    readOr config.toOptions.present name none read = .ok none ↔
      ∀ line, written = some line → Text.allBlank line.toList = true := by
  rw [readOr, stands]
  cases written with
  | none => simp
  | some line => simpa using blank line

/-- A configuration's options are read as their defaults just when they are at them. -/
structure DefaultsShow (home : FilePath) (config : Config) : Prop where
  mode : readOr config.toOptions.present "output_mode" .image readMode = .ok .image ↔ config.Unset home "output_mode"
  command : readOr config.toOptions.present "exec" none readCommand = .ok none ↔ config.Unset home "exec"
  server : readOr config.toOptions.present "server_url" none readServer = .ok none ↔ config.Unset home "server_url"
  outputDir : readOr config.toOptions.present "output_dir" home Coerce.path = .ok home ↔ config.Unset home "output_dir"
  baseRef : readOr config.toOptions.present "base_ref" "." Coerce.text = .ok "." ↔ config.Unset home "base_ref"
  format : readOr config.toOptions.present "image_format" .png readFormat = .ok .png ↔ config.Unset home "image_format"
  timeout : readOr config.toOptions.present "timeout" 60.0 readTimeout = .ok 60.0 ↔ config.Unset home "timeout"
  workers : readOr config.toOptions.present "max_concurrent" 4 readWorkers = .ok 4 ↔ config.Unset home "max_concurrent"

theorem defaultsShow (normal : config.outputDir.Normal) : config.DefaultsShow home := by
  obtain ⟨mode, command, server, outputDir, baseRef, format, timeout, workers⟩ := get?_toOptions config
  constructor
  case mode =>
    rw [readOr, mode, Option.elim_some, readMode_name, Except.ok.injEq]
    rfl
  case command => exact readOr_written_eq_none command fun _ => readCommand_text_eq_none
  case server => exact readOr_written_eq_none server fun _ => readServer_text_eq_none
  case outputDir =>
    have path : Coerce.path (.text config.outputDir.text) = .ok config.outputDir :=
      congrArg Except.ok (FilePath.ofText_text normal)
    rw [readOr, outputDir, Option.elim_some, path, Except.ok.injEq]
    rfl
  case baseRef =>
    rw [readOr, baseRef, Option.elim_some, Coerce.text, Except.ok.injEq]
    rfl
  case format =>
    rw [readOr, format, Option.elim_some, readFormat_name, Except.ok.injEq]
    rfl
  case timeout =>
    rw [readOr, timeout, Option.elim_some, readTimeout_eq_ok, Coerce.number, Except.ok.injEq]
    exact and_iff_left (by decide)
  case workers =>
    rw [readOr, workers, Option.elim_some, readWorkers_eq_ok, Coerce.integer, Except.ok.injEq, Int.natCast_inj]
    exact and_iff_left (by decide)

section

variable {α : Type} {fallback result : α} {read : Value → Except OptionFault α}

theorem readOr_update_nulls (once : further.names.Nodup)
    (unset : further.get? name = some .null → readOr config.toOptions.present name fallback read = .ok fallback) :
    readOr (config.toOptions.update further).present name fallback read =
      readOr (config.toOptions.update further.present).present name fallback read := by
  have own := nodup_names_toOptions config
  by_cases null : further.get? name = some .null
  · have stays := unset null
    rw [readOr] at stays
    rw [readOr, readOr, Entries.get?_update_of_null once own null, Entries.get?_update_present_of_null once own null, stays]
    rfl
  · rw [readOr, readOr, Entries.get?_update_of_not_null once own null]

/-- Where a null changes nothing, the configuration is read as the default. -/
theorem readOr_of_null (once : further.names.Nodup)
    (withNulls : readOr (config.toOptions.update further).present name fallback read = .ok result)
    (without : readOr (config.toOptions.update further.present).present name fallback read = .ok result)
    (null : further.get? name = some .null) : readOr config.toOptions.present name fallback read = .ok fallback := by
  have own := nodup_names_toOptions config
  rw [readOr, Entries.get?_update_of_null once own null] at withNulls
  rw [readOr, Entries.get?_update_present_of_null once own null] at without
  cases withNulls
  exact without

end

theorem unset_of_unknown (unknown : name ∉ optionNames) : config.Unset home name := by
  unfold Unset
  -- A name that is looked for contradicts `unknown`.
  split <;> trivial

theorem unset_of_reads (normal : config.outputDir.Normal) (once : further.names.Nodup)
    (withNulls : Reads home (config.toOptions.update further).present kept)
    (without : Reads home (config.toOptions.update further.present).present kept)
    (null : further.get? name = some .null) : config.Unset home name := by
  have shows : config.DefaultsShow home := defaultsShow normal
  by_cases known : name ∈ optionNames
  · simp only [optionNames, List.mem_cons, List.not_mem_nil, or_false] at known
    rcases known with rfl | rfl | rfl | rfl | rfl | rfl | rfl | rfl
    · exact shows.mode.1 (readOr_of_null once withNulls.mode without.mode null)
    · exact shows.command.1 (readOr_of_null once withNulls.command without.command null)
    · exact shows.server.1 (readOr_of_null once withNulls.server without.server null)
    · exact shows.outputDir.1 (readOr_of_null once withNulls.outputDir without.outputDir null)
    · exact shows.baseRef.1 (readOr_of_null once withNulls.baseRef without.baseRef null)
    · exact shows.format.1 (readOr_of_null once withNulls.format without.format null)
    · exact shows.timeout.1 (readOr_of_null once withNulls.timeout without.timeout null)
    · exact shows.workers.1 (readOr_of_null once withNulls.workers without.workers null)
  · exact unset_of_unknown known

theorem readAlike_of_unset (normal : config.outputDir.Normal) (once : further.names.Nodup)
    (unset : ∀ name, further.get? name = some .null → config.Unset home name) :
    ReadAlike home (config.toOptions.update further).present (config.toOptions.update further.present).present := by
  have shows : config.DefaultsShow home := defaultsShow normal
  constructor
  case mode => exact readOr_update_nulls once fun null => shows.mode.2 (unset _ null)
  case command => exact readOr_update_nulls once fun null => shows.command.2 (unset _ null)
  case server => exact readOr_update_nulls once fun null => shows.server.2 (unset _ null)
  case outputDir => exact readOr_update_nulls once fun null => shows.outputDir.2 (unset _ null)
  case baseRef => exact readOr_update_nulls once fun null => shows.baseRef.2 (unset _ null)
  case format => exact readOr_update_nulls once fun null => shows.format.2 (unset _ null)
  case timeout => exact readOr_update_nulls once fun null => shows.timeout.2 (unset _ null)
  case workers => exact readOr_update_nulls once fun null => shows.workers.2 (unset _ null)

theorem ofOptions_of_unset (normal : config.outputDir.Normal) (once : further.names.Nodup)
    (unset : ∀ name, further.get? name = some .null → config.Unset home name) :
    ofOptions home (config.toOptions.update further) = ofOptions home (config.toOptions.update further.present) :=
  ofOptions_congr (readAlike_of_unset normal once unset) (unknownOptions_update_nulls once)

/-- Whatever else is null, a command and a server that are still read are not blank. -/
theorem lastsUnder_of_reads (once : further.names.Nodup) (none : further.present = [])
    (reads : Reads home (config.toOptions.update further).present config) : config.LastsUnder [] := by
  have own := nodup_names_toOptions config
  obtain ⟨_, command, server, _⟩ := get?_toOptions config
  -- What is not null is read from the configuration itself.
  have stays {name : String} {read : Value → Except OptionFault (Option String)} {line : String}
      (was : readOr (config.toOptions.update further).present name Option.none read = .ok (some line)) :
      (config.toOptions.update further).present.get? name = config.toOptions.present.get? name := by
    by_cases null : further.get? name = some .null
    · rw [readOr, Entries.get?_update_of_null once own null] at was
      cases was
    · rw [Entries.get?_update_of_not_null once own null, none]
      rfl
  refine ⟨fun _ line stands => ?_, fun _ address stands => ?_⟩
  · have was := reads.command
    rw [stands] at was
    rw [readOr, stays was, command, stands] at was
    exact (readCommand_eq_some.1 was).1
  · have was := reads.server
    rw [stands] at was
    rw [readOr, stays was, server, stands] at was
    exact (readServer_eq_some.1 was).1

end Config

/-! ### Options over a configuration -/

theorem configFor_none (home : FilePath) (options : Entries) :
    configFor home none options = (Config.ofOptions home options).mapError .configuration := by
  simp only [configFor]
  cases Config.ofOptions home options <;> rfl

theorem configFor_some (home : FilePath) (config : Config) (some_given : further ≠ []) :
    configFor home (some config) further =
      (Config.ofOptions home (config.toOptions.update further)).mapError .configuration := by
  have filled : further.isEmpty = false := List.isEmpty_eq_false_iff.2 some_given
  simp only [configFor, filled, Bool.false_eq_true, if_false]
  cases Config.ofOptions home (config.toOptions.update further) <;> rfl

theorem configFor_nil (home : FilePath) (config : Config) : configFor home (some config) [] = .ok config := rfl

section

variable (normal : home.Normal) (accepted : Config.ofOptions home given = .ok config) (once : further.names.Nodup)
include normal accepted once

theorem configFor_of_indifferent (indifferent : config.IndifferentTo home further) :
    configFor home (some config) further = configFor home (some config) further.present := by
  have reads := Config.ofOptions_eq_ok.1 accepted
  obtain ⟨unset, lasts⟩ := indifferent
  have same := Config.ofOptions_of_unset (reads.normal_outputDir normal) once unset
  by_cases nothing : further = []
  · rw [nothing]
    rfl
  · rw [configFor_some home config nothing, same]
    by_cases none : further.present = []
    · -- The options that are left are those of the configuration, and it is read back from them.
      have again := (Config.ofOptions_toOptions_iff normal accepted).2 (lasts none nothing)
      rw [none, configFor_nil]
      change (Config.ofOptions home config.toOptions).mapError _ = _
      rw [again]
      rfl
    · rw [configFor_some home config none]

theorem indifferent_of_configFor (without : configFor home (some config) further.present = .ok kept)
    (withNulls : configFor home (some config) further = .ok kept) : config.IndifferentTo home further := by
  have reads := Config.ofOptions_eq_ok.1 accepted
  have dir := reads.normal_outputDir normal
  by_cases nothing : further = []
  · subst nothing
    exact ⟨nofun, fun _ some_given => absurd rfl some_given⟩
  · -- Both runs built the same configuration, so each null was read like what it stands for.
    have readsNulls : Config.Reads home (config.toOptions.update further).present kept := by
      rw [configFor_some home config nothing] at withNulls
      exact Config.ofOptions_eq_ok.1 (eq_of_mapError_eq_ok withNulls)
    by_cases none : further.present = []
    · rw [none, configFor_nil] at without
      cases without
      have lasts := Config.lastsUnder_of_reads once none readsNulls
      have again := Config.ofOptions_eq_ok.1 ((Config.ofOptions_toOptions_iff normal accepted).2 lasts)
      have readsRest : Config.Reads home (config.toOptions.update further.present).present config := by
        rw [none]
        exact again
      exact ⟨fun _ => Config.unset_of_reads dir once readsNulls readsRest, fun _ _ => lasts⟩
    · rw [configFor_some home config none] at without
      have readsRest := Config.ofOptions_eq_ok.1 (eq_of_mapError_eq_ok without)
      exact ⟨fun _ => Config.unset_of_reads dir once readsNulls readsRest, fun here => absurd here none⟩

end

theorem combine_present (home : FilePath) (fromFile : List (Value × Value)) (overrides : Entries) :
    combine home fromFile overrides.present = combine home fromFile overrides := by
  rw [combine, combine, Entries.present_present]

theorem loadConfig_present (named : Option String) (overrides : Entries) :
    loadConfig named overrides.present = loadConfig named overrides := by
  simp only [loadConfig, combine_present]

theorem configFor_none_present (home : FilePath) (options : Entries) :
    configFor home none options.present = configFor home none options := by
  rw [configFor_none, configFor_none, ofOptions_present]

/-- Options alone and options over those of a file mean the same without their nulls. Over a configuration they do just
    when every null is that of an option at its default: then no run can tell them apart, and otherwise a null puts
    a default in the place of a value that would have been kept. -/
theorem nulls_left_out_iff {world : World} (homed : world.Homed)
    (accepted : Config.ofOptions world.homePath given = .ok config) (once : further.names.Nodup) :
    (∀ kept, configFor world.homePath (some config) further.present = .ok kept →
      (configFor world.homePath (some config) further = .ok kept ↔ config.IndifferentTo world.homePath further)) ∧
    (config.IndifferentTo world.homePath further → ∀ client text,
      (preprocessWith (some config) further client text).run world =
        (preprocessWith (some config) further.present client text).run world) ∧
    (∀ client text, (preprocessWith none further client text).run world =
      (preprocessWith none further.present client text).run world) ∧
    (∀ named, (loadConfig named further).run world = (loadConfig named further.present).run world) ∧
    ∀ {α : Type} (fixed : Option Config) (renderer : String → α),
      wrap world.homePath fixed further renderer = wrap world.homePath fixed further.present renderer := by
  refine ⟨fun kept without => ⟨fun withNulls => ?_, fun indifferent => ?_⟩, fun indifferent client text => ?_,
    fun client text => ?_, fun named => ?_, fun fixed renderer => ?_⟩
  · exact indifferent_of_configFor homed.1 accepted once without withNulls
  · exact (configFor_of_indifferent homed.1 accepted once indifferent).trans without
  · rw [preprocessWith_run, preprocessWith_run, configFor_of_indifferent homed.1 accepted once indifferent]
  · rw [preprocessWith_run, preprocessWith_run, configFor_none_present]
  · rw [loadConfig_present]
  · rw [wrap, wrap, configFor_none_present]

/-- Links to a server, as pictures of a format that is not the default. -/
def linkedAsSvg : Config :=
  ⟨.urlOnly, none, some "http://x", World.still.homePath, ".", .svg, 60.0, 4, .remoteUrl⟩

def withServer : Entries := [("output_mode", .text "url-only"), ("server_url", .text "http://x")]

/-- A configuration without a command has none to lose, and one of another format than the default has a format. -/
theorem nulls_left_out_iff_svg :
    World.still.Homed ∧
    Config.ofOptions World.still.homePath (withServer.set "image_format" (.text "svg")) = .ok linkedAsSvg ∧
    (preprocessWith (some linkedAsSvg) [("exec", .null), ("base_ref", .text "img")] HttpClient.shared "A").run
        World.still =
      (preprocessWith (some linkedAsSvg) [("base_ref", .text "img")] HttpClient.shared "A").run World.still ∧
    configFor World.still.homePath (some linkedAsSvg) [] = .ok linkedAsSvg ∧
    configFor World.still.homePath (some linkedAsSvg) [("image_format", .null)] ≠ .ok linkedAsSvg := by
  have accepted : Config.ofOptions World.still.homePath (withServer.set "image_format" (.text "svg")) =
      .ok linkedAsSvg := rfl
  have commandOnce : (Entries.names [("exec", .null), ("base_ref", .text "img")]).Nodup := by decide
  have formatOnce : (Entries.names [("image_format", .null)]).Nodup := by decide
  refine ⟨World.homed_still, accepted, ?_, rfl, fun stays => ?_⟩
  · obtain ⟨_, agree, _⟩ := nulls_left_out_iff World.homed_still accepted commandOnce
    refine agree ⟨fun name null => ?_, nofun⟩ _ _
    have asked : name = "exec" := by
      by_contra other
      rw [Entries.get?_cons, if_neg (Ne.symm other), Entries.get?_cons] at null
      split at null <;> cases null
    subst asked
    exact fun _ stands => nomatch stands
  · obtain ⟨keeps, _⟩ := nulls_left_out_iff World.homed_still accepted formatOnce
    have unset : linkedAsSvg.format = .png := ((keeps _ rfl).1 stays).1 "image_format" rfl
    cases unset

/-- A server that the configuration holds is taken away by a null, and there is nothing to link to. -/
theorem null_takes_server :
    ∃ config, Config.ofOptions World.still.homePath withServer = .ok config ∧
      ((preprocessWith (some config) [("server_url", .null)] HttpClient.shared "plain").run World.still).1 =
        .error (.configuration .linksNeedServer) ∧
      ((preprocessWith (some config) (Entries.present [("server_url", .null)]) HttpClient.shared "plain").run
        World.still).1 = .ok "plain" := by
  refine ⟨_, rfl, rfl, ?_⟩
  exact (preprocess_of_no_blocks (by decide +kernel)).1

end DiagramWeave
