import DiagramWeave.CommandLine.Run
import DiagramWeave.Proofs.Config.Loading
import DiagramWeave.Proofs.Pipeline.References
import DiagramWeave.Proofs.Rewrite.Outside

/-!
# The document that is written

A document that is rendered from one file into another is read with single line feeds for its line ends, and nothing
brings them back. Apart from this the bytes outside of its blocks are kept, with blocks and without.
-/
namespace DiagramWeave.CommandLine

variable {terminal : Terminal} {threshold : Nat} {task : RenderTask} {config : Config} {world : World}

theorem loadConfig_run_logged (named : Option String) (overrides : Entries) (world : World) :
    World.Logged world ((loadConfig named overrides).run world).2 := by
  refine (fileOptions_run named world).2.trans ?_
  rw [loadConfig, run_bind]
  cases ((fileOptions named).run world).1 with
  | error failure => exact .refl _
  | ok fromFile =>
    simp only [run_bind, run_get]
    cases combine _ fromFile overrides with
    | error failure => exact .refl _
    | ok config => exact ⟨_, _, rfl⟩

theorem readDocument_run {name text : String} (named : name ≠ standardInput)
    (holds : world.disk.read world.home (.ofText name) = .ok text.toUTF8) :
    (readDocument terminal threshold name).run world = (.ok (unified text), world) := by
  simp only [readDocument, if_neg named, World.readText, World.readFile, run_bind, run_get, run_pure, holds,
    fromUTF8?_toUTF8]
  rfl

theorem noticed_success {ending : Ending} {markup : String}
    (success : (noticed terminal threshold ending markup).ending = .success) : ending = .success := by
  rw [noticed] at success
  split at success
  · exact success
  · cases success

theorem failureReport_ending (terminal : Terminal) (threshold : Nat) (failure : Failure) :
    (failureReport terminal threshold failure).ending ≠ .success := by
  intro success
  cases failure with
  | breakdown fault => cases success
  | configuration error => cases noticed_success success
  | rendering error | rewriting error => cases noticed_success success

theorem leads_of_logged {before after : World} (logged : World.Logged before after) {path : FilePath} {place : Place}
    (leads : before.disk.Leads before.home path place) : after.disk.Leads after.home path place := by
  obtain ⟨_, _, rfl⟩ := logged
  exact leads

theorem publish_run_of_leads {path : String} {place : Place} (leads : world.disk.Leads world.home (.ofText path) place)
    (result : String) :
    let after := ((publish terminal threshold (some path) result).run world).2
    after.disk.read after.home (.ofText path) = .ok result.toUTF8 := by
  have written := Disk.write_of_leads result.toUTF8 leads
  simp only [publish, run_bind, World.writeFile_run, written]
  exact Disk.read_setFile leads

/-- What was published can be read. -/
theorem publish_run_of_success {path result : String}
    (success : ((publish terminal threshold (some path) result).run world).1.ending = .success) :
    let after := ((publish terminal threshold (some path) result).run world).2
    after.disk.read after.home (.ofText path) = .ok result.toUTF8 := by
  cases written : world.disk.write world.home (.ofText path) result.toUTF8 with
  | ok disk =>
    obtain ⟨place, leads, rfl⟩ := Disk.exists_leads_of_write written
    exact publish_run_of_leads leads result
  | error fault =>
    simp only [publish, run_bind, World.writeFile_run, written] at success
    cases success

/-- The run of a task when the configuration and the document are there. -/
theorem runRender_run (terminal : Terminal) (threshold : Nat) {text : String} (named : task.input ≠ standardInput)
    (holds : world.disk.read world.home (.ofText task.input) = .ok text.toUTF8)
    (loaded : ((loadConfig task.config task.overrides).run world).1 = .ok config) :
    ∃ ready, World.Logged world ready ∧
      (runRender terminal threshold task).run world =
        let done := (preprocess config HttpClient.shared (unified text)).run ready
        match done.1 with
        | .error failure => (failureReport terminal threshold failure, done.2)
        | .ok result => (publish terminal threshold task.output result).run done.2 := by
  have logged := loadConfig_run_logged task.config task.overrides world
  refine ⟨_, logged, ?_⟩
  rw [runRender, run_bind, loaded]
  generalize ((loadConfig task.config task.overrides).run world).2 = ready at logged
  -- Loading has noted things in the log, and the document is still the same.
  have here : ready.disk.read ready.home (.ofText task.input) = .ok text.toUTF8 := by
    obtain ⟨_, _, rfl⟩ := logged
    exact holds
  simp only [run_bind, readDocument_run named here]
  cases ((preprocess config HttpClient.shared (unified text)).run ready).1 <;> rfl

/-- What is inserted for the blocks of a document. -/
def insertedFor (config : Config) (document : String) : List (List Char) :=
  (renderedBlocks document config.format.name config.locatorFor).map fun block => block.reference.toList

/-- The document that is written instead of a text: its pieces between the blocks, with single line feeds, and the
    references. -/
def wovenFor (config : Config) (text : String) : String :=
  String.ofList (weave ((outside text.toList 0 (scan text config.format.name)).map unifyBreaks)
    (insertedFor config (unified text)))

theorem splice_unified (config : Config) (text : String) :
    splice (unified text) (renderedBlocks (unified text) config.format.name config.locatorFor) =
      wovenFor config text := by
  rw [splice, spliceFrom_eq_weave, renderedBlocks, outside_located, outside_unified]
  rfl

theorem unified_eq_iff (text : String) : unified text = text ↔ '\r' ∉ text.toList := by
  constructor
  · intro same
    rw [← same, unified, String.toList_ofList]
    exact return_not_mem_unifyBreaks text.toList
  · intro free
    rw [unified, unifyBreaks_of_free free, String.ofList_toList]

theorem ok_toUTF8_inj {one other : String} :
    (.ok one.toUTF8 : Except DiskFault ByteArray) = .ok other.toUTF8 ↔ one = other := by
  rw [Except.ok.injEq, String.toUTF8_eq_toByteArray, String.toUTF8_eq_toByteArray, String.toByteArray_inj]

section

variable {text path : String}

theorem runRender_of_no_blocks (named : task.input ≠ standardInput)
    (holds : world.disk.read world.home (.ofText task.input) = .ok text.toUTF8)
    (loaded : ((loadConfig task.config task.overrides).run world).1 = .ok config) (output : task.output = some path)
    {place : Place} (leads : world.disk.Leads world.home (.ofText path) place)
    (absent : scan text config.format.name = []) :
    let after := ((runRender terminal threshold task).run world).2
    after.disk.read after.home (.ofText path) = .ok (unified text).toUTF8 := by
  have absent' : scan (unified text) config.format.name = [] := by
    rw [← List.length_eq_zero_iff, length_scan_unified, absent, List.length_nil]
  obtain ⟨ready, logged, ran⟩ := runRender_run terminal threshold named holds loaded
  have stays : ((preprocess config HttpClient.shared (unified text)).run ready).1 = .ok (unified text) ∧ _ :=
    preprocess_of_no_blocks absent'
  -- Without blocks nothing is written before the result is, so the path leads where it led.
  have leads' := leads_of_logged (logged.trans stays.2) leads
  rw [ran, output]
  simp only [stays.1]
  exact publish_run_of_leads leads' (unified text)

theorem runRender_of_success (named : task.input ≠ standardInput)
    (holds : world.disk.read world.home (.ofText task.input) = .ok text.toUTF8)
    (loaded : ((loadConfig task.config task.overrides).run world).1 = .ok config) (output : task.output = some path)
    (success : ((runRender terminal threshold task).run world).1.ending = .success) :
    let after := ((runRender terminal threshold task).run world).2
    after.disk.read after.home (.ofText path) = .ok (wovenFor config text).toUTF8 := by
  obtain ⟨ready, _, ran⟩ := runRender_run terminal threshold named holds loaded
  rw [output] at ran
  rw [ran] at success ⊢
  cases outcome : ((preprocess config HttpClient.shared (unified text)).run ready).1 with
  | error failure =>
    simp only [outcome] at success
    exact absurd success (failureReport_ending terminal threshold failure)
  | ok result =>
    simp only [outcome] at success ⊢
    rw [← splice_unified, ← eq_splice_of_preprocess outcome]
    exact publish_run_of_success success

end

/-- What is written to a file in place of a document from another file. Without blocks, and wherever else the run is a
    success, it is the document with its blocks replaced, but for its line ends: the bytes outside of the blocks are
    kept just when no carriage return is among them. Rendering the blocks side by side makes no difference. -/
theorem run_writes_document {words : List String} {text path : String} {place : Place}
    (called : Call.read words = .ok ⟨threshold, .render task⟩) (named : task.input ≠ standardInput)
    (output : task.output = some path) (holds : world.disk.read world.home (.ofText task.input) = .ok text.toUTF8)
    (loaded : ((loadConfig task.config task.overrides).run world).1 = .ok config)
    (leads : world.disk.Leads world.home (.ofText path) place) :
    let ran := (run terminal words).run world
    let written := ran.2.disk.read ran.2.home (.ofText path)
    let pieces := outside text.toList 0 (scan text config.format.name)
    let inserted := insertedFor config (unified text)
    (scan text config.format.name = [] →
      written = .ok (unified text).toUTF8 ∧ (written = .ok text.toUTF8 ↔ '\r' ∉ text.toList)) ∧
    (ran.1.ending = .success →
      written = .ok (String.ofList (weave (pieces.map unifyBreaks) inserted)).toUTF8 ∧
        (written = .ok (String.ofList (weave pieces inserted)).toUTF8 ↔ ∀ piece ∈ pieces, '\r' ∉ piece)) ∧
    ∀ before progress after,
      RenderEnds config HttpClient.shared (scan (unified text) config.format.name) before progress after →
      ∀ result, settle (unified text) progress = .ok result →
        result = String.ofList (weave (pieces.map unifyBreaks) inserted) := by
  intro ran written pieces inserted
  have same : ran = (runRender terminal threshold task).run world := by
    simp only [ran, run, called, Call.run]
  refine ⟨fun absent => ?_, fun success => ?_, fun before progress after ends result settled => ?_⟩
  · have kept : written = .ok (unified text).toUTF8 := by
      simp only [written, same]
      exact runRender_of_no_blocks named holds loaded output leads absent
    refine ⟨kept, ?_⟩
    rw [kept, ok_toUTF8_inj, unified_eq_iff]
  · have woven : written = .ok (wovenFor config text).toUTF8 := by
      rw [same] at success
      simp only [written, same]
      exact runRender_of_success named holds loaded output success
    refine ⟨woven, ?_⟩
    rw [woven, ok_toUTF8_inj, wovenFor, String.ofList_inj, weave_map_unifyBreaks_iff]
  · have locates := ends.locates fun block found => unlocated_of_mem_scan found
    exact (eq_splice_of_settle locates settled).trans (splice_unified config text)

/-- A world with one document. -/
def holding (text : String) : World :=
  { World.still with disk := ⟨[(["home", "a.md"], text.toUTF8)], [["home"]]⟩ }

def linkingWords : List String :=
  ["render", "a.md", "-o", "b.md", "--mode", "url-only", "--server", "http://x"]

def linkingTask : RenderTask :=
  ⟨"a.md", some "b.md", none, some "url-only", none, some "http://x", none, none, none, none⟩

theorem linking_call : Call.read linkingWords = .ok ⟨30, .render linkingTask⟩ :=
  rfl

theorem read_holding (text : String) :
    (holding text).disk.read (holding text).home (.ofText linkingTask.input) = .ok text.toUTF8 :=
  rfl

theorem linking_leads (text : String) :
    (holding text).disk.Leads (holding text).home (.ofText "b.md") ["home", "b.md"] :=
  ⟨rfl, nofun⟩

theorem linking_loads (text : String) :
    ((loadConfig linkingTask.config linkingTask.overrides).run (holding text)).1 = .ok (linksTo "http://x") := by
  -- No option file is named, and the usual one is not there.
  have unnamed : (holding text).namedFile? linkingTask.config = none := rfl
  have usual : (holding text).optionPath linkingTask.config = ⟨.single, ["home", ".plantmark.yaml"]⟩ := rfl
  have absent : (holding text).disk.exists? (holding text).home ⟨.single, ["home", ".plantmark.yaml"]⟩ = .ok false :=
    rfl
  have options : combine (holding text).homePath [] linkingTask.overrides = .ok (linksTo "http://x") := rfl
  rw [loadConfig_run_fst, (fileOptions_run _ _).1, usual, absent, unnamed]
  exact options

/-- Carriage returns stand in its block only. -/
def mixedEnds : String :=
  "x\n@startuml a\r\nA\r\n@enduml\ny"

/-- The bytes around the block are kept. -/
theorem run_writes_mixed_ends :
    let ran := (run ⟨80, ""⟩ linkingWords).run (holding mixedEnds)
    ran.1.ending = .success ∧
      ran.2.disk.read ran.2.home (.ofText "b.md") = .ok "x\n![a](http://x/png/SmG0)\ny".toUTF8 := by
  intro ran
  have success : ran.1.ending = .success := by
    have known : (match ran.1.ending with | .success => true | _ => false) = true := by decide +kernel
    split at known
    next ended => exact ended
    · cases known
  have free : ∀ piece ∈ outside mixedEnds.toList 0 (scan mixedEnds (linksTo "http://x").format.name), '\r' ∉ piece := by
    decide +kernel
  have woven : String.ofList (weave (outside mixedEnds.toList 0 (scan mixedEnds (linksTo "http://x").format.name))
      (insertedFor (linksTo "http://x") (unified mixedEnds))) = "x\n![a](http://x/png/SmG0)\ny" := by
    decide +kernel
  obtain ⟨-, written, -⟩ := run_writes_document linking_call (by decide) rfl (read_holding mixedEnds)
    (linking_loads mixedEnds) (linking_leads mixedEnds)
  refine ⟨success, ?_⟩
  rw [← woven]
  exact (written success).2.2 free

/-- A document without blocks is written with other bytes. -/
theorem run_changes_line_ends :
    let text := "x\r\ny"
    let ran := (run ⟨80, ""⟩ linkingWords).run (holding text)
    (holding text).disk.read (holding text).home (.ofText "a.md") = .ok text.toUTF8 ∧
      scan text (linksTo "http://x").format.name = [] ∧
      ran.2.disk.read ran.2.home (.ofText "b.md") = .ok "x\ny".toUTF8 ∧
      ran.2.disk.read ran.2.home (.ofText "b.md") ≠ .ok text.toUTF8 := by
  intro text ran
  have absent : scan text (linksTo "http://x").format.name = [] := by
    rw [← List.length_eq_zero_iff]
    decide +kernel
  have written : ran.2.disk.read ran.2.home (.ofText "b.md") = .ok "x\ny".toUTF8 := by
    have changed : unified text = "x\ny" := by decide +kernel
    have kept : let after := ((runRender ⟨80, ""⟩ 30 linkingTask).run (holding text)).2
        after.disk.read after.home (.ofText "b.md") = .ok (unified text).toUTF8 :=
      runRender_of_no_blocks (by decide) (read_holding text) (linking_loads text) rfl (linking_leads text) absent
    rw [changed] at kept
    exact kept
  refine ⟨read_holding text, absent, written, ?_⟩
  rw [written, ne_eq, ok_toUTF8_inj]
  decide

end DiagramWeave.CommandLine
