import DiagramWeave.Proofs.CommandLine.Document
import DiagramWeave.Proofs.Console.Escape
import DiagramWeave.Proofs.Pipeline.Foreseen
import DiagramWeave.Proofs.Pipeline.Untouched

/-!
# When a document is published

A task loads its configuration, reads its document and has it rewritten, one after the other, and stops at the first of
these that fails. What is done then is settled by the stage it got to: a document that is finished is shown, or written
to a file if it can be, and in any other case there is a line for the error stream and an exit code. How the blocks were
rendered, in turn or side by side, makes no difference to that.
-/
namespace DiagramWeave.CommandLine

variable {terminal : Terminal} {threshold : Nat} {task : RenderTask} {world before : World}

/-! ### Stages -/

/-- How far a task gets before there is something to publish. -/
inductive Stage where
  /-- There is no configuration. -/
  | unloaded (failure : Failure)
  /-- There is no document. -/
  | unread (fault : TextFault)
  /-- The document is not rewritten. -/
  | unrendered (failure : Failure)
  | finished (document : String)

/-- The document of a name: standard input, or the text of a file. -/
def Terminal.document (terminal : Terminal) (name : String) (world : World) : Except TextFault String :=
  if name = standardInput then .ok terminal.text else ((World.readText (.ofText name)).run world).1

/-- The stage that a task gets to when its blocks are rendered in turn, and the world then. -/
def RenderTask.stage (task : RenderTask) (terminal : Terminal) (world : World) : Stage × World :=
  match (loadConfig task.config task.overrides).run world with
  | (.error failure, ready) => (.unloaded failure, ready)
  | (.ok config, ready) =>
    match terminal.document task.input ready with
    | .error fault => (.unread fault, ready)
    | .ok text =>
      match (preprocess config HttpClient.shared text).run ready with
      | (.error failure, after) => (.unrendered failure, after)
      | (.ok document, after) => (.finished document, after)

/-- A stage that a task may get to, and the world then, however its blocks are rendered. -/
inductive RenderTask.Reaches (task : RenderTask) (terminal : Terminal) (world : World) : Stage → World → Prop
  | unloaded {failure : Failure} {ready : World} :
      (loadConfig task.config task.overrides).run world = (.error failure, ready) →
      Reaches task terminal world (.unloaded failure) ready
  | unread {config : Config} {fault : TextFault} {ready : World} :
      (loadConfig task.config task.overrides).run world = (.ok config, ready) →
      terminal.document task.input ready = .error fault → Reaches task terminal world (.unread fault) ready
  | unrendered {config : Config} {text : String} {failure : Failure} {ready after : World} :
      (loadConfig task.config task.overrides).run world = (.ok config, ready) →
      terminal.document task.input ready = .ok text →
      PreprocessEnds config HttpClient.shared text ready (.error failure) after →
      Reaches task terminal world (.unrendered failure) after
  | finished {config : Config} {text document : String} {ready after : World} :
      (loadConfig task.config task.overrides).run world = (.ok config, ready) →
      terminal.document task.input ready = .ok text →
      PreprocessEnds config HttpClient.shared text ready (.ok document) after →
      Reaches task terminal world (.finished document) after

/-- The report of a document that is not there. -/
def unreadReport (terminal : Terminal) (threshold : Nat) (name : String) : TextFault → Report
  | .undecodable => ⟨.broken .undecodable, threshold, "", ""⟩
  | .unreadable .nullCharacter => ⟨.broken (.disk .nullCharacter), threshold, "", ""⟩
  | .unreadable fault =>
    noticed terminal threshold .unusable s!"[red]Error:[/red] cannot read {name}: {Console.escape fault.text}"

theorem noticed_output (terminal : Terminal) (threshold : Nat) (ending : Ending) (markup : String) :
    (noticed terminal threshold ending markup).output = "" := by
  rw [noticed]
  split <;> rfl

/-- A line under a red heading is shown, as the text in it is escaped. -/
theorem noticed_ending {heading : String} (unbracketed : '[' ∉ heading.toList) (unslashed : '\\' ∉ heading.toList)
    (terminal : Terminal) (threshold : Nat) (ending : Ending) (message : String) :
    (noticed terminal threshold ending ("[red]" ++ heading ++ "[/red] " ++ Console.escape message)).ending = ending := by
  obtain ⟨notice, shown⟩ := Console.print_escape terminal.width unbracketed unslashed message
  rw [noticed, shown]

/-- The exit code of a failure. A fault that nobody foresees counts as an unusable configuration. -/
def exitCodeOf : Failure → Nat
  | .configuration _ | .breakdown _ => 1
  | .rendering _ | .rewriting _ => 2

theorem failureReport_spec (terminal : Terminal) (threshold : Nat) (failure : Failure) :
    let report := failureReport terminal threshold failure
    report.output = "" ∧ report.ending.exitCode = exitCodeOf failure := by
  have heading : "[red]" ++ "Configuration error:" ++ "[/red] " = "[red]Configuration error:[/red] " := rfl
  have heading' : "[red]" ++ "Error:" ++ "[/red] " = "[red]Error:[/red] " := rfl
  have ends := @noticed_ending "Configuration error:" (by decide) (by decide) terminal threshold .unusable
  have ends' := @noticed_ending "Error:" (by decide) (by decide) terminal threshold .failed
  rw [heading] at ends
  rw [heading'] at ends'
  cases failure with
  | breakdown fault => exact ⟨rfl, rfl⟩
  | configuration error => exact ⟨noticed_output .., congrArg Ending.exitCode (ends error.message)⟩
  | rendering error => exact ⟨noticed_output .., congrArg Ending.exitCode (ends' (Failure.rendering error).message)⟩
  | rewriting error => exact ⟨noticed_output .., congrArg Ending.exitCode (ends' (Failure.rewriting error).message)⟩

/-- The name of the document is shown as it was given, which may not be possible. The exit code is the same. -/
theorem unreadReport_spec (terminal : Terminal) (threshold : Nat) (name : String) (fault : TextFault) :
    let report := unreadReport terminal threshold name fault
    report.output = "" ∧ report.ending.exitCode = 1 := by
  rcases fault with (_ | ⟨code, path⟩) | _
  · exact ⟨rfl, rfl⟩
  · refine ⟨noticed_output .., ?_⟩
    rw [unreadReport, noticed]
    -- A line that cannot be shown has the exit code of what it was to say.
    · split <;> rfl
    · intro same
      cases same
  · exact ⟨rfl, rfl⟩

/-! ### Publishing -/

end DiagramWeave.CommandLine
