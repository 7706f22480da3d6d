import DiagramWeave.Proofs.Config.Layers

/-!
# What is reported of refused options

Every option is judged by its own name and its own value. The known names are judged first, in the order of the fields,
and behind them the unknown ones in the order in which they were given; the report of a configuration that is refused
lists what this comes to. How images are made is a question that is put only when nothing is listed.
-/
namespace DiagramWeave

namespace Config

variable {home : FilePath} {given other : Entries} {name : String} {value : Value}

/-! ### One option -/

/-- Why what was read is refused. -/
def refusal? {α : Type} (read : Except OptionFault α) : Option OptionFault :=
  match read with
  | .ok _ => none
  | .error fault => some fault

/-- Why a value is refused under a name. A null says nothing, whatever its name. -/
def faultUnder? (name : String) (value : Value) : Option OptionFault :=
  if value.isNull then none
  else match name with
    | "output_mode" => refusal? (readMode value)
    | "exec" => refusal? (readCommand value)
    | "server_url" => refusal? (readServer value)
    | "output_dir" => refusal? (Coerce.path value)
    | "base_ref" => refusal? (Coerce.text value)
    | "image_format" => refusal? (readFormat value)
    | "timeout" => refusal? (readTimeout value)
    | "max_concurrent" => refusal? (readWorkers value)
    | _ => some .unknownOption

/-- The entry of a report for a name. -/
def reported? (given : Entries) (name : String) : Option (String × OptionFault) :=
  ((given.get? name).bind (faultUnder? name)).map (name, ·)

/-- The names in the order in which they are judged: the known ones by their fields, then the others as given. -/
def judged (given : Entries) : List String :=
  optionNames ++ given.names.filter isUnknown

/-- What a report lists. -/
def reportOf (given : Entries) : List (String × OptionFault) :=
  (judged given).filterMap (reported? given)

theorem refusal?_eq_none {α : Type} {read : Except OptionFault α} : refusal? read = none ↔ ∃ result, read = .ok result := by
  cases read <;> simp [refusal?]

theorem faultOf_eq {α : Type} (name : String) (read : Except OptionFault α) :
    faultOf name read = ((refusal? read).map (name, ·)).toList := by
  cases read <;> rfl

theorem faultUnder?_of_null (null : value.isNull = true) : faultUnder? name value = none := by
  unfold faultUnder?
  rw [if_pos null]

theorem isUnknown_iff : isUnknown name = true ↔ name ∉ optionNames := by
  simp [isUnknown]

theorem faultUnder?_of_unknown (unknown : name ∉ optionNames) :
    faultUnder? name value = if value.isNull then none else some .unknownOption := by
  unfold faultUnder?
  -- A name that is looked for is a known one.
  split
  · rfl
  · split <;> first | rfl | exact absurd (by decide) unknown

/-! ### All options -/

theorem nodup_judged (once : given.names.Nodup) : (judged given).Nodup := by
  have known : optionNames.Nodup := by decide
  refine List.nodup_append.2 ⟨known, once.filter _, ?_⟩
  rintro name among _ member rfl
  exact isUnknown_iff.1 (List.mem_filter.1 member).2 among

theorem mem_judged_of_mem (member : name ∈ given.names) : name ∈ judged given := by
  by_cases known : name ∈ optionNames
  · exact List.mem_append_left _ known
  · exact List.mem_append_right _ (List.mem_filter.2 ⟨member, isUnknown_iff.2 known⟩)

theorem reported?_eq_some {entry : String × OptionFault} : reported? given name = some entry ↔
    entry.1 = name ∧ ∃ value, given.get? name = some value ∧ faultUnder? name value = some entry.2 := by
  obtain ⟨own, fault⟩ := entry
  simp only [reported?, Option.map_eq_some_iff, Option.bind_eq_some_iff, Prod.mk.injEq]
  constructor
  · rintro ⟨_, found, rfl, rfl⟩
    exact ⟨rfl, found⟩
  · rintro ⟨rfl, found⟩
    exact ⟨fault, found, rfl, rfl⟩

theorem mem_reportOf {entry : String × OptionFault} : entry ∈ reportOf given ↔
    ∃ value, given.get? entry.1 = some value ∧ faultUnder? entry.1 value = some entry.2 := by
  rw [reportOf, List.mem_filterMap]
  constructor
  · rintro ⟨name, _, reported⟩
    obtain ⟨rfl, found⟩ := reported?_eq_some.1 reported
    exact found
  · rintro ⟨value, found, fault⟩
    have among : entry.1 ∈ given.names := by
      by_contra absent
      rw [Entries.get?_eq_none_iff.2 absent] at found
      cases found
    exact ⟨entry.1, mem_judged_of_mem among, reported?_eq_some.2 ⟨rfl, value, found, fault⟩⟩

/-- The names of a report are judged names that have an entry, so their order is that of the judging. -/
theorem names_reportOf (given : Entries) :
    (reportOf given).map Prod.fst = (judged given).filter fun name => (reported? given name).isSome := by
  rw [reportOf]
  induction judged given with
  | nil => rfl
  | cons name names ih =>
    cases reported : reported? given name with
    | none => rw [List.filterMap_cons_none reported, List.filter_cons_of_neg (by simp [reported]), ih]
    | some entry =>
      rw [List.filterMap_cons_some reported, List.filter_cons_of_pos (by simp [reported]), List.map_cons, ih,
        (reported?_eq_some.1 reported).1]

/-- What a report says of one name is what is wrong with the value of this name. -/
theorem filter_reportOf (once : given.names.Nodup) (name : String) :
    (reportOf given).filter (fun entry => entry.1 = name) = (reported? given name).toList := by
  have own (other : String) : ((reported? given other).filter fun entry => entry.1 = name) =
      if other = name then reported? given name else none := by
    cases reported : reported? given other with
    | none =>
      by_cases same : other = name
      · rw [if_pos same, ← same, reported]
        rfl
      · rw [if_neg same]
        rfl
    | some entry =>
      have named := (reported?_eq_some.1 reported).1
      by_cases same : other = name
      · rw [if_pos same, ← same, reported, Option.filter_some, if_pos (by simpa using named)]
      · rw [if_neg same, Option.filter_some, if_neg (by simpa [named] using same)]
  rw [reportOf, List.filter_filterMap]
  simp only [own]
  by_cases among : name ∈ judged given
  · -- The name is judged once.
    obtain ⟨before, after, split⟩ := List.append_of_mem among
    have apart := nodup_judged once
    rw [split, List.nodup_append] at apart
    obtain ⟨_, later, earlier⟩ := apart
    have none_of {names : List String} (others : ∀ other ∈ names, other ≠ name) :
        names.filterMap (fun other => if other = name then reported? given name else none) = [] := by
      refine List.filterMap_eq_nil_iff.2 fun other member => ?_
      rw [if_neg (others other member)]
    have first := none_of fun other member => earlier other member name List.mem_cons_self
    have last : after.filterMap (fun other => if other = name then reported? given name else none) = [] := by
      refine none_of fun other member same => (List.nodup_cons.1 later).1 ?_
      rwa [← same]
    rw [split, List.filterMap_append, List.filterMap_cons, first, last, if_pos rfl]
    cases reported? given name <;> rfl
  · have absent : given.get? name = none := Entries.get?_eq_none_iff.2 fun member => among (mem_judged_of_mem member)
    have silent : reported? given name = none := by rw [reported?, absent]; rfl
    rw [silent]
    simp

/-! ### The report of a refusal -/

theorem faultOf_readOr {α : Type} {fallback : α} {read : Value → Except OptionFault α} (once : given.names.Nodup)
    (judges : ∀ value, faultUnder? name value = if value.isNull then none else refusal? (read value)) :
    faultOf name (readOr given.present name fallback read) = (reported? given name).toList := by
  rw [faultOf_eq, readOr, Entries.get?_present once, reported?]
  cases given.get? name with
  | none => rfl
  | some value =>
    rw [Option.bind_some, judges, Option.filter_some]
    cases value.isNull <;> rfl

theorem reported?_cons {known : String} {old : Value} (apart : known ≠ name) :
    reported? ((known, old) :: given) name = reported? given name := by
  rw [reported?, reported?, Entries.get?_cons, if_neg apart]

theorem unknownOptions_eq (once : given.names.Nodup) :
    unknownOptions given.present = (given.names.filter isUnknown).filterMap (reported? given) := by
  rw [unknownOptions_present]
  induction given with
  | nil => rfl
  | cons entry rest ih =>
    obtain ⟨known, old⟩ := entry
    obtain ⟨new, later⟩ := List.nodup_cons.1 once
    have others : ((Entries.names rest).filter isUnknown).filterMap (reported? ((known, old) :: rest)) =
        ((Entries.names rest).filter isUnknown).filterMap (reported? rest) := by
      refine List.filterMap_congr fun name member => reported?_cons ?_
      rintro rfl
      exact new (List.mem_filter.1 member).1
    have names : Entries.names ((known, old) :: rest) = known :: Entries.names rest := rfl
    rw [names]
    by_cases unknown : isUnknown known = true
    · have kept : Entries.ofKind isUnknown ((known, old) :: rest) = (known, old) :: Entries.ofKind isUnknown rest :=
        List.filter_cons_of_pos unknown
      have own : reported? ((known, old) :: rest) known =
          if old.isNull then none else some (known, .unknownOption) := by
        rw [reported?, Entries.get?_cons, if_pos rfl, Option.bind_some, faultUnder?_of_unknown (isUnknown_iff.1 unknown)]
        cases old.isNull <;> rfl
      rw [kept, List.filter_cons_of_pos unknown, List.filterMap_cons, others, own, ← ih later]
      cases null : old.isNull with
      | true => rw [Entries.present_cons_of_null null]; rfl
      | false => rw [Entries.present_cons_of_present null]; rfl
    · have dropped : Entries.ofKind isUnknown ((known, old) :: rest) = Entries.ofKind isUnknown rest :=
        List.filter_cons_of_neg unknown
      rw [dropped, List.filter_cons_of_neg unknown, others, ih later]

/-- The faults that the readers of the options find are those of the report. -/
theorem reportOf_eq (home : FilePath) (once : given.names.Nodup) :
    let options := given.present
    faultOf "output_mode" (readOr options "output_mode" .image readMode) ++
      faultOf "exec" (readOr options "exec" none readCommand) ++
      faultOf "server_url" (readOr options "server_url" none readServer) ++
      faultOf "output_dir" (readOr options "output_dir" home Coerce.path) ++
      faultOf "base_ref" (readOr options "base_ref" "." Coerce.text) ++
      faultOf "image_format" (readOr options "image_format" .png readFormat) ++
      faultOf "timeout" (readOr options "timeout" 60.0 readTimeout) ++
      faultOf "max_concurrent" (readOr options "max_concurrent" 4 readWorkers) ++
      unknownOptions options = reportOf given := by
  intro options
  rw [faultOf_readOr once fun _ => rfl, faultOf_readOr once fun _ => rfl, faultOf_readOr once fun _ => rfl,
    faultOf_readOr once fun _ => rfl, faultOf_readOr once fun _ => rfl, faultOf_readOr once fun _ => rfl,
    faultOf_readOr once fun _ => rfl, faultOf_readOr once fun _ => rfl, unknownOptions_eq once, reportOf, judged,
    List.filterMap_append]
  refine congrArg (· ++ _) ?_
  simp only [optionNames, List.filterMap_eq_flatMap_toList, List.flatMap_cons, List.flatMap_nil, List.append_nil,
    List.append_assoc]

theorem faultOf_eq_nil {α : Type} {read : Except OptionFault α} : faultOf name read = [] ↔ ∃ result, read = .ok result := by
  cases read <;> simp [faultOf]

theorem ofOptions_of_reported (home : FilePath) (once : given.names.Nodup) (reported : reportOf given ≠ []) :
    ofOptions home given = .error (.badOptions (reportOf given)) := by
  have report := reportOf_eq home once
  simp only [ofOptions]
  split
  next mode command server outputDir baseRef format timeout workers unknown =>
    -- Every option was read, so nothing would be reported.
    simp only [mode, command, server, outputDir, baseRef, format, timeout, workers, unknown] at report
    exact absurd report.symm reported
  · rw [report]

theorem ofOptions_of_unreported (home : FilePath) (once : given.names.Nodup) (silent : reportOf given = []) :
    ∃ mode command server, readOr given.present "output_mode" .image readMode = .ok mode ∧
      readOr given.present "exec" none readCommand = .ok command ∧
      readOr given.present "server_url" none readServer = .ok server ∧
      ∃ outputDir baseRef format timeout workers, ofOptions home given =
        (chooseStrategy mode command server).map fun strategy =>
          ⟨mode, command, server, outputDir, baseRef, format, timeout, workers, strategy⟩ := by
  have report := reportOf_eq home once
  simp only [silent, List.append_eq_nil_iff, faultOf_eq_nil] at report
  obtain ⟨⟨⟨⟨⟨⟨⟨⟨⟨mode, readMode⟩, command, readCommand⟩, server, readServer⟩, outputDir, readDir⟩, baseRef, readRef⟩,
    format, readFormat⟩, timeout, readTimeout⟩, workers, readWorkers⟩, unknown⟩ := report
  refine ⟨mode, command, server, readMode, readCommand, readServer, outputDir, baseRef, format, timeout, workers, ?_⟩
  simp only [ofOptions, readMode, readCommand, readServer, readDir, readRef, readFormat, readTimeout, readWorkers, unknown]

/-- The mode, the command and the server can be read, and there is no way to make images with them. -/
def Unresolved (given : Entries) (error : ConfigError) : Prop :=
  ∃ mode command server, readOr given.present "output_mode" .image readMode = .ok mode ∧
    readOr given.present "exec" none readCommand = .ok command ∧
    readOr given.present "server_url" none readServer = .ok server ∧
    chooseStrategy mode command server = .error error

/-- Options are refused for what is reported of them, or else because there is no way to make images. -/
theorem ofOptions_eq_error_iff (once : given.names.Nodup) {error : ConfigError} : ofOptions home given = .error error ↔
    reportOf given ≠ [] ∧ error = .badOptions (reportOf given) ∨ reportOf given = [] ∧ Unresolved given error := by
  by_cases silent : reportOf given = []
  · obtain ⟨mode, command, server, readMode, readCommand, readServer, _, _, _, _, _, settled⟩ :=
      ofOptions_of_unreported home once silent
    have chosen : ofOptions home given = .error error ↔ chooseStrategy mode command server = .error error := by
      rw [settled]
      cases chooseStrategy mode command server <;> simp [Except.map]
    rw [chosen]
    constructor
    · exact fun refused => .inr ⟨silent, mode, command, server, readMode, readCommand, readServer, refused⟩
    · rintro (⟨reported, _⟩ | ⟨_, mode', command', server', readMode', readCommand', readServer', refused⟩)
      · exact absurd silent reported
      · rw [readMode] at readMode'
        rw [readCommand] at readCommand'
        rw [readServer] at readServer'
        cases readMode'
        cases readCommand'
        cases readServer'
        exact refused
  · rw [ofOptions_of_reported home once silent]
    constructor
    · rintro same
      cases same
      exact .inl ⟨silent, rfl⟩
    · rintro (⟨_, rfl⟩ | ⟨none, _⟩)
      · rfl
      · exact absurd none silent

/-- The entries of the message that refuses options: one for each fault, or the one reason why no images can be made. -/
def messageEntries : ConfigError → List String
  | .badOptions faults => faults.map faultLine
  | .linksNeedServer => ["output_mode 'url-only' requires server_url"]
  | .imagesNeedSource => ["output_mode 'image' requires exec or server_url"]
  | _ => []

theorem chooseStrategy_eq_error {mode : OutputMode} {command server : Option String} {error : ConfigError}
    (refused : chooseStrategy mode command server = .error error) : error = .linksNeedServer ∨ error = .imagesNeedSource := by
  cases mode <;> cases command <;> cases server <;> simp_all [chooseStrategy]

theorem message_of_unresolved {error : ConfigError} (unresolved : Unresolved given error) :
    ∃ reason, messageEntries error = [reason] ∧ error.message = "Invalid configuration: " ++ reason := by
  obtain ⟨_, _, _, _, _, _, refused⟩ := unresolved
  rcases chooseStrategy_eq_error refused with rfl | rfl
  · exact ⟨_, rfl, by decide +kernel⟩
  · exact ⟨_, rfl, by decide +kernel⟩

/-- Options are refused just when the value of a known one is, when there is an unknown one, or when there is no way to
    make images. The message has an entry for each name at fault, once and in the order of the judging, and the entry of
    a name depends on its own value only; the reason why no images can be made stands alone, where there is no other. -/
theorem options_reported_apart (home : FilePath) (once : given.names.Nodup) :
    ((∃ error, ofOptions home given = .error error) ↔
      (∃ name ∈ optionNames, ∃ value fault, given.get? name = some value ∧ faultUnder? name value = some fault) ∨
      (∃ name, name ∉ optionNames ∧ ∃ value, given.get? name = some value ∧ value.isNull = false) ∨
      ∃ error, Unresolved given error) ∧
    (∀ error, ofOptions home given = .error error →
      error.message = "Invalid configuration: " ++ "; ".intercalate (messageEntries error) ∧
      (reportOf given ≠ [] ∧ messageEntries error = (reportOf given).map faultLine ∨
        reportOf given = [] ∧ Unresolved given error ∧ ∃ reason, messageEntries error = [reason])) ∧
    (∀ entry, entry ∈ reportOf given ↔
      ∃ value, given.get? entry.1 = some value ∧ faultUnder? entry.1 value = some entry.2) ∧
    ((reportOf given).map Prod.fst).Nodup ∧
    ((reportOf given).map Prod.fst).Sublist (optionNames ++ given.names.filter fun name => name ∉ optionNames) ∧
    ∀ other : Entries, other.names.Nodup → ∀ name, given.get? name = other.get? name →
      (reportOf given).filter (fun entry => entry.1 = name) = (reportOf other).filter fun entry => entry.1 = name := by
  refine ⟨⟨?_, ?_⟩, ?_, fun _ => mem_reportOf, ?_, ?_, ?_⟩
  · rintro ⟨error, refused⟩
    rcases (ofOptions_eq_error_iff once).1 refused with ⟨reported, _⟩ | ⟨_, unresolved⟩
    · obtain ⟨entry, member⟩ := List.exists_mem_of_ne_nil _ reported
      obtain ⟨value, found, fault⟩ := mem_reportOf.1 member
      by_cases known : entry.1 ∈ optionNames
      · exact .inl ⟨entry.1, known, value, entry.2, found, fault⟩
      · refine .inr (.inl ⟨entry.1, known, value, found, ?_⟩)
        by_contra null
        rw [faultUnder?_of_null (by simpa using null)] at fault
        cases fault
    · exact .inr (.inr ⟨error, unresolved⟩)
  · have refuses {name : String} {value : Value} {fault : OptionFault} (found : given.get? name = some value)
        (faulty : faultUnder? name value = some fault) : ∃ error, ofOptions home given = .error error := by
      have member : (name, fault) ∈ reportOf given := mem_reportOf.2 ⟨value, found, faulty⟩
      exact ⟨_, ofOptions_of_reported home once (List.ne_nil_of_mem member)⟩
    rintro (⟨name, _, value, fault, found, faulty⟩ | ⟨name, unknown, value, found, there⟩ | ⟨error, unresolved⟩)
    · exact refuses found faulty
    · have faulty : faultUnder? name value = some .unknownOption := by
        rw [faultUnder?_of_unknown unknown, there]
        rfl
      exact refuses found faulty
    · by_cases silent : reportOf given = []
      · exact ⟨error, (ofOptions_eq_error_iff once).2 (.inr ⟨silent, unresolved⟩)⟩
      · exact ⟨_, ofOptions_of_reported home once silent⟩
  · intro error refused
    rcases (ofOptions_eq_error_iff once).1 refused with ⟨reported, rfl⟩ | ⟨silent, unresolved⟩
    · exact ⟨rfl, .inl ⟨reported, rfl⟩⟩
    · obtain ⟨reason, alone, message⟩ := message_of_unresolved unresolved
      rw [alone, message]
      exact ⟨rfl, .inr ⟨silent, unresolved, reason, rfl⟩⟩
  · rw [names_reportOf]
    exact (nodup_judged once).filter _
  · rw [names_reportOf, judged]
    have same : given.names.filter isUnknown = given.names.filter fun name => name ∉ optionNames :=
      List.filter_congr fun name _ => by simp [isUnknown]
    rw [same]
    exact List.filter_sublist
  · intro other onceToo name same
    rw [filter_reportOf once, filter_reportOf onceToo, reported?, reported?, same]

/-- Three known options are refused, an unknown one is, and another unknown one is null. -/
def misjudged : Entries := [
  ("theme", .text "dark"), ("timeout", .flag false), ("colour", .null), ("exec", .text "'"), ("image_format", .text ".gif")]

theorem options_reported_apart_misjudged : misjudged.names.Nodup ∧ ∃ error,
    ofOptions World.still.homePath misjudged = .error error ∧ error.message = "Invalid configuration: " ++
      "exec: Cannot parse exec ''': No closing quotation; " ++ "image_format: Unknown image format 'gif'. " ++
      "Supported: eps, html, latex, pdf, png, scxml, svg, txt, utxt, vdx, xmi; " ++
      "timeout: Input should be greater than or equal to 1; theme: Extra inputs are not permitted" := by
  have once : misjudged.names.Nodup := by decide
  obtain ⟨_, lists, _⟩ := options_reported_apart World.still.homePath once
  have report : reportOf misjudged = [("exec", .commandSyntax "'" .openQuote), ("image_format", .unknownFormat "gif"),
      ("timeout", .tooSmall), ("theme", .unknownOption)] := by decide +kernel
  have reported : reportOf misjudged ≠ [] := by
    rw [report]
    nofun
  refine ⟨once, _, ofOptions_of_reported World.still.homePath once reported, ?_⟩
  obtain ⟨message, ⟨_, entries⟩ | ⟨silent, _⟩⟩ := lists _ (ofOptions_of_reported World.still.homePath once reported)
  · rw [message, entries, report]
    decide +kernel
  · exact absurd silent reported

end Config

end DiagramWeave
