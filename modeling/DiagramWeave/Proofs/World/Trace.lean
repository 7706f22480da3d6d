import DiagramWeave.Proofs.Config.Sources
import DiagramWeave.Proofs.World.Spans

/-!
# The trace of spans

The log of a run holds the records of its spans among other notes. Whoever reads it takes the records that are objects in
JSON with the name of a span. What is left of each is a line: how much it matters, the name of the span, the title of its
block and the error that it ended with. The lines come in the order in which the spans end, and a span adds its line to
those of the work in it.
-/
namespace DiagramWeave

/-- What a record tells of a span. -/
structure SpanLine where
  level : Level
  name : String
  title : Option Value
  error : Option Value

/-- The line of a span that has ended, with the failure that it ended with. -/
def SpanLine.ended (name : String) (title : Option Value) (failure : Option Failure) : SpanLine :=
  ⟨if failure.isSome then .warning else .debug, name, title, failure.map fun failure => .text failure.logged⟩

/-- The line of a record, if it is that of a span. -/
def LogRecord.spanLine? (record : LogRecord) : Option SpanLine :=
  match Json.read? record.message.toList with
  | some (.mapping entries) => ((valueUnder? entries "span").bind Value.text?).map fun name =>
      ⟨record.level, name, valueUnder? entries "title", valueUnder? entries "error"⟩
  | _ => none

/-! ### Records of spans -/

theorem Entries.valueUnder?_toObject (entries : Entries) (name : String) :
    valueUnder? (entries.map fun entry => (.text entry.1, entry.2)) name = entries.get? name := by
  induction entries with
  | nil => rfl
  | cons entry rest ih => rw [List.map_cons, valueUnder?_cons, Entries.get?_cons, ih]

namespace Span

variable {span : Span} {name : String} {title : Option Value}

/-- The span has this name and this title, and its attributes leave it to the record to say what it is called and how it
    ended. -/
structure Labelled (span : Span) (name : String) (title : Option Value) : Prop where
  named : span.name = name
  titled : span.attributes.get? "title" = title
  plain : ∀ entry ∈ span.attributes, entry.2.Plain
  once : span.attributes.names.Nodup
  unnamed : "span" ∉ span.attributes.names
  unfailed : "error" ∉ span.attributes.names

theorem labelled_of_names (name : String) {attributes : Entries} (keys : List String) (names : attributes.names = keys)
    (once : keys.Nodup) (free : "span" ∉ keys ∧ "error" ∉ keys) (plain : ∀ entry ∈ attributes, entry.2.Plain) :
    (Span.mk name attributes).Labelled name (attributes.get? "title") where
  named := rfl
  titled := rfl
  plain := plain
  once := names ▸ once
  unnamed := names ▸ free.1
  unfailed := names ▸ free.2

theorem Labelled.add (labelled : span.Labelled name title) {key : String} {value : Value} (plain : value.Plain)
    (other : key ∉ ["span", "title", "error"]) : (span.add none [(key, value)]).Labelled name title := by
  have set : (span.add none [(key, value)]).attributes = span.attributes.set key value := rfl
  simp only [List.mem_cons, List.not_mem_nil, or_false, not_or] at other
  obtain ⟨notName, notTitle, notError⟩ := other
  constructor
  case named => exact labelled.named
  case titled => rw [set, Entries.get?_set, if_neg notTitle, labelled.titled]
  case plain => exact set ▸ Entries.forall_set labelled.plain key plain
  case once => exact set ▸ Entries.nodup_names_set labelled.once key value
  case unnamed =>
    rw [set, Entries.mem_names_set, not_or]
    exact ⟨Ne.symm notName, labelled.unnamed⟩
  case unfailed =>
    rw [set, Entries.mem_names_set, not_or]
    exact ⟨Ne.symm notError, labelled.unfailed⟩

/-- The record of a span is read as the line of its end. -/
theorem Labelled.spanLine?_record (labelled : span.Labelled name title) (start stop : Float)
    (failure : Option Failure) :
    (span.record start stop (failure.map Failure.logged)).spanLine? = some (.ended name title failure) := by
  obtain ⟨elapsed, _, reads⟩ := Json.exists_reads_float (Span.elapsed start stop)
  have readsWords : Json.Reads false (.float (Span.elapsed start stop)) (.float elapsed) := reads nofun
  have read := Json.readText?_render (Span.reads_entriesAfter labelled.plain readsWords (failure.map Failure.logged))
  rw [← Span.message_record] at read
  have known (key : String) (other : key ≠ "error") :
      (span.entriesAfter elapsed (failure.map Failure.logged)).get? key =
        (span.attributes.get? key).or
          (Entries.get? [("span", .text span.name), ("elapsed_ms", .float elapsed)] key) := by
    have updated := Entries.get?_update [("span", .text span.name), ("elapsed_ms", .float elapsed)] span.attributes
      key
    rw [Entries.get?_reverse labelled.once] at updated
    cases failure with
    | none => exact updated
    | some failure =>
      refine (Entries.get?_set ..).trans ?_
      rw [if_neg (Ne.symm other)]
      exact updated
  have spanName : (span.entriesAfter elapsed (failure.map Failure.logged)).get? "span" = some (.text name) := by
    rw [known "span" (by decide), Entries.get?_eq_none_iff.2 labelled.unnamed, labelled.named]
    rfl
  have spanTitle : (span.entriesAfter elapsed (failure.map Failure.logged)).get? "title" = title := by
    rw [known "title" (by decide), labelled.titled]
    exact Option.or_none
  have spanError : (span.entriesAfter elapsed (failure.map Failure.logged)).get? "error" =
      failure.map fun failure => .text failure.logged := by
    cases failure with
    | some failure => exact (Entries.get?_set ..).trans (if_pos rfl)
    | none =>
      refine (Entries.get?_update ..).trans ?_
      rw [Entries.get?_reverse labelled.once, Entries.get?_eq_none_iff.2 labelled.unfailed]
      rfl
  have level : (span.record start stop (failure.map Failure.logged)).level =
      if failure.isSome then .warning else .debug := by
    cases failure <;> rfl
  rw [LogRecord.spanLine?, Json.read?, read, Entries.toObject]
  simp only [Entries.valueUnder?_toObject, spanName, spanTitle, spanError, level]
  rfl

end Span

/-! ### Other notes -/

/-- No value begins with one of these letters. -/
theorem Json.read?_of_capital {c : Char} (capital : c ∈ ['R', 'C']) (rest : List Char) :
    Json.read? (c :: rest) = none := by
  simp only [List.mem_cons, List.not_mem_nil, or_false] at capital
  rcases capital with rfl | rfl <;> rfl

theorem LogRecord.spanLine?_of_capital (level : Level) {message : String} {c : Char} {rest : List Char}
    (capital : c ∈ ['R', 'C']) (begins : message.toList = c :: rest) : (LogRecord.mk level message).spanLine? = none := by
  rw [LogRecord.spanLine?, begins, Json.read?_of_capital capital]

/-- The note on a command that is started. -/
theorem LogRecord.spanLine?_running (level : Level) (command : String) :
    (LogRecord.mk level s!"Running: {command}").spanLine? = none := by
  have begins : (s!"Running: {command}").toList = 'R' :: ("unning: ".toList ++ command.toList) := by
    simp [toString]
  exact spanLine?_of_capital level (by decide) begins

/-- The note on a temporary file that stays. -/
theorem LogRecord.spanLine?_cannotDelete (level : Level) (path cause : String) :
    (LogRecord.mk level s!"Cannot delete temporary file {path}: {cause}").spanLine? = none := by
  have begins : (s!"Cannot delete temporary file {path}: {cause}").toList =
      'C' :: ("annot delete temporary file ".toList ++ (path.toList ++ (": ".toList ++ cause.toList))) := by
    simp [toString]
  exact spanLine?_of_capital level (by decide) begins

/-! ### What is told between two moments -/

namespace World

variable {first second third world : World} {lines more : List SpanLine}

/-- Between the two worlds the log has got further records, and these are the lines of the spans among them. -/
def Tells (before after : World) (lines : List SpanLine) : Prop :=
  ∃ records, after.log = before.log ++ records ∧ records.filterMap LogRecord.spanLine? = lines

theorem Tells.of_log_eq (same : second.log = first.log) : first.Tells second [] :=
  ⟨[], by rw [same, List.append_nil], rfl⟩

theorem Tells.trans (one : first.Tells second lines) (two : second.Tells third more) :
    first.Tells third (lines ++ more) := by
  obtain ⟨early, log, rfl⟩ := one
  obtain ⟨late, later, rfl⟩ := two
  exact ⟨early ++ late, by rw [later, log, List.append_assoc], List.filterMap_append⟩

/-- A note that is no record of a span tells nothing. -/
theorem Tells.noted {record : LogRecord} (other : record.spanLine? = none)
    (log : second.log = first.log ++ [record]) : first.Tells second [] :=
  ⟨[record], log, by rw [List.filterMap_cons_none other, List.filterMap_nil]⟩

/-- A span tells what is told in it, and then how it has ended. -/
theorem Tells.span {α : Type} {name : String} {attributes : Entries} {work : Span → Action (α × Span)}
    {title : Option Value} (failureOf : α → Option Failure)
    (inner : world.ticked.Tells ((work ⟨name, attributes⟩).run world.ticked).2 lines)
    (labelled : ((work ⟨name, attributes⟩).run world.ticked).1.2.Labelled name title) :
    world.Tells ((inSpan name attributes failureOf work).run world).2
      (lines ++ [.ended name title (failureOf ((inSpan name attributes failureOf work).run world).1)]) := by
  refine inner.trans ⟨[_], rfl, ?_⟩
  exact List.filterMap_cons_some (labelled.spanLine?_record _ _ (failureOf _))

theorem Tells.span_alone {α : Type} {name : String} {attributes : Entries} {work : Span → Action (α × Span)}
    {title : Option Value} (failureOf : α → Option Failure)
    (inner : world.ticked.Tells ((work ⟨name, attributes⟩).run world.ticked).2 [])
    (labelled : ((work ⟨name, attributes⟩).run world.ticked).1.2.Labelled name title) :
    world.Tells ((inSpan name attributes failureOf work).run world).2
      [.ended name title (failureOf ((inSpan name attributes failureOf work).run world).1)] :=
  inner.span failureOf labelled

end World

end DiagramWeave
