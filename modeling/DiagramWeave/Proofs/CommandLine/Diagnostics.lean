import DiagramWeave.Proofs.CommandLine.Publishing
import DiagramWeave.Proofs.Console.Literal

/-!
# What a command tells

A command that does not come to a plain result has something to tell: what it failed over, or which file it wrote. A failure
that is foreseen has a line with the text of its cause, and the exit code does not depend on that text. The line shows its
texts literally just when the terminal reads nothing in them as markup. A path that was given is not escaped, so it may be
lost in part, and the line may not be shown at all.
-/
namespace DiagramWeave.CommandLine

open Console (Notice Wrapped withEnds showStretches stretches)

variable {terminal : Terminal} {threshold : Nat} {world : World} {ending : Ending} {notice : Notice}

/-! ### Lines -/

theorem opens_of_bracket (text : List Char) : Console.Opens ('[' :: text) := by
  intro front behind free same
  cases front with
  | nil => cases same
  | cons c front =>
    obtain ⟨rfl, _⟩ := List.cons.inj same
    cases free '[' List.mem_cons_self

/-- The text of a refusal begins with a bracket. -/
theorem exists_text_eq (code : SystemCode) (path : String) :
    ∃ rest, (DiskFault.refused code path).text.toList = '[' :: rest := by
  rw [DiskFault.text]
  simp only [String.toList_append, ToString.toString]
  exact ⟨_, rfl⟩

/-- The line of a failure: its heading, and its text escaped. -/
def failureNotice (label : String) (unmarked : Console.Unmarked label.toList) (message : String) : Notice where
  heading := some label
  given := ""
  cause := message
  unmarked := by simpa using unmarked
  joint := .inl rfl

/-- The line of a document that cannot be opened: its path as it was given, and the refusal escaped. -/
def unreadNotice (name : String) (code : SystemCode) (path : String) : Notice where
  heading := some "Error"
  given := "cannot read " ++ name ++ ": "
  cause := (DiskFault.refused code path).text
  unmarked := by
    rintro _ ⟨⟩
    decide
  joint := by
    obtain ⟨rest, bracket⟩ := exists_text_eq code path
    refine .inr (.inr ⟨⟨("cannot read " ++ name ++ ":").toList, ?_⟩, ?_⟩)
    · simp
    · rw [bracket]
      exact opens_of_bracket rest

/-- The line of a document that was written. -/
def writtenNotice (path : String) : Notice where
  heading := none
  given := "Wrote " ++ path
  cause := ""
  unmarked := by simp
  joint := .inr (.inl rfl)

/-! ### Diagnostics -/

/-- What a command may have to tell besides its result. -/
inductive Diagnostic where
  /-- There is no configuration. -/
  | unloaded (failure : Failure)
  | unread (name : String) (fault : TextFault)
  | unrendered (failure : Failure)
  | unwritten (fault : DiskFault)
  /-- The list of blocks cannot be shown. -/
  | unlisted (fault : Console.MarkupFault)
  | written (path : String)

namespace Diagnostic

variable {diagnostic : Diagnostic}

/-- What is reported. -/
def report (terminal : Terminal) (threshold : Nat) : Diagnostic → Report
  | unloaded failure | unrendered failure => failureReport terminal threshold failure
  | unread name fault => unreadReport terminal threshold name fault
  | unwritten fault => ⟨.broken (.disk fault), threshold, "", ""⟩
  | unlisted fault => ⟨.unshowable fault, threshold, "", ""⟩
  | written path => noticed terminal threshold .success s!"Wrote {(FilePath.ofText path).text}"

/-- The ending that a failure is to have and its line, if it is foreseen. -/
def lineOf? : Failure → Option (Ending × Notice)
  | .breakdown _ => none
  | .configuration error => some (.unusable, failureNotice "Configuration error" (by decide) error.message)
  | .rendering error => some (.failed, failureNotice "Error" (by decide) error.message)
  | .rewriting error => some (.failed, failureNotice "Error" (by decide) error.message)

/-- The ending that a run is to have and the line for the error stream, unless nobody has foreseen what happened. -/
def line? : Diagnostic → Option (Ending × Notice)
  | unloaded failure | unrendered failure => lineOf? failure
  | unread name (.unreadable (.refused code path)) => some (.unusable, unreadNotice name code path)
  | unread .. | unwritten _ | unlisted _ => none
  | written path => some (.success, writtenNotice (FilePath.ofText path).text)

/-- The exit code of a failure. What nobody has foreseen has that of a configuration or document that cannot be used. -/
def exitCode? : Diagnostic → Option Nat
  | unloaded failure | unrendered failure => some (exitCodeOf failure)
  | unread .. | unwritten _ | unlisted _ => some 1
  | written _ => none

/-! ### Reports -/

/-- The ending says something else than that a line cannot be shown. -/
def Own (ending : Ending) : Prop :=
  ∀ fault, ending ≠ .unshowable fault

theorem markup_failureNotice (label : String) (unmarked : Console.Unmarked label.toList) (message : String) :
    (failureNotice label unmarked message).markup = "[red]" ++ label ++ ":[/red] " ++ Console.escape message := by
  rw [Notice.markup, failureNotice, Option.elim_some, String.append_empty]

theorem markup_unreadNotice (name : String) (code : SystemCode) (path : String) :
    (unreadNotice name code path).markup =
      s!"[red]Error:[/red] cannot read {name}: {Console.escape (DiskFault.refused code path).text}" := by
  have heading : "[red]" ++ "Error" ++ ":[/red] " ++ "cannot read " = "[red]Error:[/red] cannot read " := rfl
  rw [Notice.markup, unreadNotice, Option.elim_some, ← String.append_assoc, ← String.append_assoc, heading]
  rfl

theorem markup_writtenNotice (path : String) : (writtenNotice path).markup = s!"Wrote {path}" := by
  have none : Console.escape "" = "" := by decide +kernel
  rw [Notice.markup, writtenNotice, none, String.append_empty, Option.elim_none, String.empty_append]
  rfl

theorem failureReport_of_line {failure : Failure} (found : lineOf? failure = some (ending, notice)) (terminal : Terminal)
    (threshold : Nat) : failureReport terminal threshold failure = noticed terminal threshold ending notice.markup := by
  cases failure with
  | breakdown fault => cases found
  | configuration error | rendering error | rewriting error =>
    cases found
    rw [markup_failureNotice]
    rfl

/-- What has a line is reported by this line. -/
theorem report_of_line (found : diagnostic.line? = some (ending, notice)) (terminal : Terminal) (threshold : Nat) :
    diagnostic.report terminal threshold = noticed terminal threshold ending notice.markup := by
  cases diagnostic with
  | unloaded failure | unrendered failure => exact failureReport_of_line found terminal threshold
  | unread name fault =>
    rcases fault with (_ | ⟨code, path⟩) | _
    · cases found
    · cases found
      rw [markup_unreadNotice, report, unreadReport]
      simp
    · cases found
  | unwritten fault | unlisted fault => cases found
  | written path =>
    cases found
    rw [markup_writtenNotice]
    rfl

theorem own_of_lineOf {failure : Failure} (found : lineOf? failure = some (ending, notice)) : Own ending := by
  cases failure <;> cases found <;> simp [Own]

theorem own_of_line (found : diagnostic.line? = some (ending, notice)) : Own ending := by
  cases diagnostic with
  | unloaded failure | unrendered failure => exact own_of_lineOf found
  | unread name fault =>
    rcases fault with (_ | ⟨code, path⟩) | _ <;> cases found
    simp [Own]
  | unwritten fault | unlisted fault => cases found
  | written path =>
    cases found
    simp [Own]

/-- What has no line leaves nothing behind the log but the trace of what broke. -/
theorem report_of_no_line (unforeseen : diagnostic.line? = none) (terminal : Terminal) (threshold : Nat) :
    (diagnostic.report terminal threshold).notice = "" ∧
      (diagnostic.report terminal threshold).ending.faultKind?.isSome := by
  cases diagnostic with
  | unloaded failure | unrendered failure =>
    cases failure with
    | breakdown fault => exact ⟨rfl, rfl⟩
    | configuration error | rendering error | rewriting error => cases unforeseen
  | unread name fault =>
    rcases fault with (_ | ⟨code, path⟩) | _
    · exact ⟨rfl, rfl⟩
    · cases unforeseen
    · exact ⟨rfl, rfl⟩
  | unwritten fault | unlisted fault => exact ⟨rfl, rfl⟩
  | written path => cases unforeseen

theorem exitCode_report {code : Nat} (fails : diagnostic.exitCode? = some code) (terminal : Terminal) (threshold : Nat) :
    (diagnostic.report terminal threshold).ending.exitCode = code := by
  cases diagnostic with
  | unloaded failure | unrendered failure =>
    cases fails
    exact (failureReport_spec terminal threshold failure).2
  | unread name fault =>
    cases fails
    exact (unreadReport_spec terminal threshold name fault).2
  | unwritten fault | unlisted fault =>
    cases fails
    rfl
  | written path => cases fails

/-! ### Lines that are shown -/

/-- The line is shown literally with its ending, on every terminal that has room for all characters. -/
def ToldLiterally (threshold : Nat) (ending : Ending) (notice : Notice) (report : Terminal → Report) : Prop :=
  ∀ terminal : Terminal, 2 ≤ terminal.width →
    ∃ rows, report terminal = ⟨ending, threshold, "", withEnds rows⟩ ∧ Wrapped terminal.width notice.told rows

theorem noticed_eq_iff (own : Own ending) {shown markup : String} :
    noticed terminal threshold ending markup = ⟨ending, threshold, "", shown⟩ ↔
      Console.print terminal.width markup = .ok shown := by
  rw [noticed]
  cases Console.print terminal.width markup with
  | error fault => exact iff_of_false (fun same => own fault (congrArg Report.ending same).symm) (by simp)
  | ok line => simp

theorem toldLiterally_iff (own : Own ending) (notice : Notice) :
    ToldLiterally threshold ending notice (noticed · threshold ending notice.markup) ↔ notice.Literal := by
  rw [← notice.shownLiterally_iff]
  constructor
  · intro told width wide
    obtain ⟨rows, same, wrapped⟩ := told ⟨width, ""⟩ wide
    have printed := (noticed_eq_iff own).1 same
    exact ⟨rows, printed, wrapped⟩
  · intro shown terminal wide
    obtain ⟨rows, came, wrapped⟩ := shown terminal.width wide
    exact ⟨rows, (noticed_eq_iff own).2 came, wrapped⟩

/-- The text that was given is all that may keep a line from being shown. -/
theorem unshowable_iff (own : Own ending) (notice : Notice) (fault : Console.MarkupFault) :
    (noticed terminal threshold ending notice.markup).ending = .unshowable fault ↔
      showStretches [] (stretches notice.given.toList) = .error fault := by
  rw [noticed]
  cases came : showStretches [] (stretches notice.given.toList) with
  | error other =>
    have refused : Console.print terminal.width notice.markup = .error other := by
      rw [Console.print, notice.shown_markup, came]
      rfl
    rw [refused, Except.error.injEq, Ending.unshowable.injEq]
  | ok given =>
    obtain ⟨line, printed⟩ : ∃ line, Console.print terminal.width notice.markup = .ok line := by
      rw [Console.print, notice.shown_markup, came]
      exact ⟨_, rfl⟩
    rw [printed]
    exact iff_of_false (own fault) (by simp)

/-- The text of a failure is escaped, and nothing stands before it but its heading. -/
theorem failureReport_showable (terminal : Terminal) (threshold : Nat) (failure : Failure) :
    Own (failureReport terminal threshold failure).ending := by
  intro fault same
  cases found : lineOf? failure with
  | none =>
    cases failure <;> cases found
    cases same
  | some line =>
    obtain ⟨ending, notice⟩ := line
    have given : notice.given = "" := by cases failure <;> cases found <;> rfl
    rw [failureReport_of_line found, unshowable_iff (own_of_lineOf found), given] at same
    simp [stretches, showStretches] at same

/-- How a diagnostic is reported, whatever the terminal is. -/
structure Reported (threshold : Nat) (diagnostic : Diagnostic) : Prop where
  /-- A line is shown as it should be just when nothing in its texts is read as markup or lost. -/
  literal : ∀ ending notice, diagnostic.line? = some (ending, notice) →
    (ToldLiterally threshold ending notice (diagnostic.report · threshold) ↔ notice.Literal)
  /-- It cannot be shown at all just when a tag in the text that was given closes what is not open. -/
  unshowable : ∀ ending notice, diagnostic.line? = some (ending, notice) → ∀ terminal fault,
    (diagnostic.report terminal threshold).ending = .unshowable fault ↔
      showStretches [] (stretches notice.given.toList) = .error fault
  /-- A failure to load or to rewrite is no such case. -/
  showable : ∀ failure, diagnostic = .unloaded failure ∨ diagnostic = .unrendered failure → ∀ terminal,
    Own (diagnostic.report terminal threshold).ending
  /-- Without a line nothing is told but what broke. -/
  silent : diagnostic.line? = none → ∀ terminal, (diagnostic.report terminal threshold).notice = "" ∧
    (diagnostic.report terminal threshold).ending.faultKind?.isSome
  /-- A failure has its exit code, shown or not. -/
  exitCode : ∀ code, diagnostic.exitCode? = some code → ∀ terminal,
    (diagnostic.report terminal threshold).ending.exitCode = code

theorem reported (threshold : Nat) (diagnostic : Diagnostic) : diagnostic.Reported threshold where
  literal ending notice found := by
    have reports : (diagnostic.report · threshold) = (noticed · threshold ending notice.markup) :=
      funext fun terminal => report_of_line found terminal threshold
    rw [reports]
    exact toldLiterally_iff (own_of_line found) notice
  unshowable ending notice found terminal fault := by
    rw [report_of_line found]
    exact unshowable_iff (own_of_line found) notice fault
  showable failure failed terminal := by
    rcases failed with rfl | rfl <;> exact failureReport_showable terminal threshold failure
  silent unforeseen terminal := report_of_no_line unforeseen terminal threshold
  exitCode code fails terminal := exitCode_report fails terminal threshold

end Diagnostic

/-! ### Runs -/

/-- A call may come to a diagnostic, however blocks are rendered. -/
inductive Call.Meets (call : Call) (terminal : Terminal) (world : World) : Diagnostic → Prop
  | unloaded {task : RenderTask} {failure : Failure} {after : World} : call.command = .render task →
      task.Reaches terminal world (.unloaded failure) after → Meets call terminal world (.unloaded failure)
  | unread {task : RenderTask} {fault : TextFault} {after : World} : call.command = .render task →
      task.Reaches terminal world (.unread fault) after → Meets call terminal world (.unread task.input fault)
  | unrendered {task : RenderTask} {failure : Failure} {after : World} : call.command = .render task →
      task.Reaches terminal world (.unrendered failure) after → Meets call terminal world (.unrendered failure)
  | unwritten {task : RenderTask} {document path : String} {fault : DiskFault} {after : World} :
      call.command = .render task → task.Reaches terminal world (.finished document) after → task.output = some path →
      after.disk.write after.home (.ofText path) document.toUTF8 = .error fault →
      Meets call terminal world (.unwritten fault)
  | written {task : RenderTask} {document path : String} {disk : Disk} {after : World} :
      call.command = .render task → task.Reaches terminal world (.finished document) after → task.output = some path →
      after.disk.write after.home (.ofText path) document.toUTF8 = .ok disk → Meets call terminal world (.written path)
  | unopened {input format : String} {fault : TextFault} : call.command = .scan input format →
      terminal.document input world = .error fault → Meets call terminal world (.unread input fault)
  | unlisted {input format text : String} {fault : Console.MarkupFault} : call.command = .scan input format →
      terminal.document input world = .ok text → blockTable (scan text format) = .error fault →
      Meets call terminal world (.unlisted fault)

/-- The report of a plain result, or of a diagnostic that the call comes to. -/
def Call.Comes (call : Call) (terminal : Terminal) (world : World) (report : Report) : Prop :=
  (∃ output, report = ⟨.success, call.threshold, output, ""⟩) ∨
    ∃ diagnostic, call.Meets terminal world diagnostic ∧ report = diagnostic.report terminal call.threshold

end DiagramWeave.CommandLine
