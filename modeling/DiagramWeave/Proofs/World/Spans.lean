import DiagramWeave.Proofs.Config.Entries
import DiagramWeave.Proofs.Json.Lossless
import DiagramWeave.Proofs.World.Runs

/-!
# Spans leave faithful records

The record of a span is what was set in it, one setting after the other: its name and its time, the attributes, and
the error. Every name stands where it was first set, with the value that it was last given. The message says this in
JSON, and whoever reads it finds the same record. There are two limits to it: a time beyond all floats is written as a
word that the grammar does not have, and an integer of too many digits lets the record fail.
-/
namespace DiagramWeave

/-! ### The first of each -/

section

variable {α : Type} [BEq α] [LawfulBEq α]

theorem eraseDups_of_nodup {items : List α} (once : items.Nodup) : items.eraseDups = items := by
  induction items with
  | nil => rfl
  | cons item items ih =>
    obtain ⟨new, later⟩ := List.nodup_cons.1 once
    have others : items.filter (fun other => !other == item) = items := by
      refine List.filter_eq_self.2 fun other member => ?_
      have apart : other ≠ item := fun same => new (same ▸ member)
      simp [apart]
    rw [List.eraseDups_cons, others, ih later]

theorem eraseDups_filter (keep : α → Bool) (items : List α) :
    (items.filter keep).eraseDups = items.eraseDups.filter keep := by
  match items with
  | [] => rfl
  | item :: items =>
    have shorter := List.length_filter_le (fun other => !other == item) items
    have ih := eraseDups_filter keep (items.filter fun other => !other == item)
    cases kept : keep item with
    | true =>
      rw [List.filter_cons_of_pos kept, List.eraseDups_cons, List.eraseDups_cons, List.filter_cons_of_pos kept, ← ih,
        List.filter_comm]
    | false =>
      -- What is like the item is not kept either.
      have dropped : (items.filter fun other => !other == item).filter keep = items.filter keep := by
        rw [List.filter_filter]
        refine List.filter_congr fun other _ => ?_
        by_cases same : other = item
        · simp [same, kept]
        · simp [same]
      rw [List.filter_cons_of_neg (by simp [kept]), List.eraseDups_cons, List.filter_cons_of_neg (by simp [kept]), ← ih,
        dropped]
termination_by items.length

theorem nodup_eraseDups (items : List α) : items.eraseDups.Nodup := by
  match items with
  | [] => exact List.nodup_nil
  | item :: items =>
    have shorter := List.length_filter_le (fun other => !other == item) items
    rw [List.eraseDups_cons, eraseDups_filter, List.nodup_cons]
    exact ⟨by simp, (nodup_eraseDups items).filter _⟩

/-- What was only told once says as much as what was told again and again. -/
theorem eraseDups_append_eraseDups (front items : List α) :
    (front ++ items.eraseDups).eraseDups = (front ++ items).eraseDups := by
  rw [List.eraseDups_append, List.eraseDups_append, List.removeAll, List.removeAll, eraseDups_filter, eraseDups_filter,
    eraseDups_of_nodup (nodup_eraseDups items)]

end

/-! ### Settings and what they come to -/

namespace Entries

/-- Every name stands where it was first set, with the value that it was last given. -/
structure Settled (settings entries : Entries) : Prop where
  order : entries.names = settings.names.eraseDups
  last : ∀ name, entries.get? name = get? settings.reverse name

variable {settings entries changes further : Entries} {P : Value → Prop}

theorem mem_of_get? {name : String} {value : Value} (found : entries.get? name = some value) :
    (name, value) ∈ entries := by
  obtain ⟨⟨known, value⟩, first, rfl⟩ := Option.map_eq_some_iff.1 found
  obtain rfl : known = name := by simpa using List.find?_some first
  exact List.mem_of_find?_eq_some first

theorem get?_of_mem (once : entries.names.Nodup) {entry : String × Value} (member : entry ∈ entries) :
    entries.get? entry.1 = some entry.2 := by
  induction entries with
  | nil => cases member
  | cons first rest ih =>
    obtain ⟨new, once⟩ := List.nodup_cons.1 once
    rw [get?_cons]
    rcases List.mem_cons.1 member with rfl | later
    · exact if_pos rfl
    · have other : first.1 ≠ entry.1 := fun same => new (same ▸ List.mem_map_of_mem later)
      rw [if_neg other, ih once later]

theorem names_append (entries changes : Entries) : names (entries ++ changes) = entries.names ++ changes.names :=
  List.map_append

theorem settled_self (once : entries.names.Nodup) : Settled entries entries :=
  ⟨(eraseDups_of_nodup once).symm, fun name => (get?_reverse once name).symm⟩

theorem Settled.set (settled : Settled settings entries) (name : String) (value : Value) :
    Settled (settings ++ [(name, value)]) (entries.set name value) := by
  constructor
  case order =>
    have single : names [(name, value)] = [name] := rfl
    rw [names_set, names_append, single, List.eraseDups_append, settled.order, List.removeAll]
    by_cases old : name ∈ settings.names <;> simp [old, List.eraseDups_cons]
  case last =>
    intro other
    rw [get?_set, List.reverse_append, List.reverse_singleton, List.singleton_append, get?_cons, settled.last]

theorem Settled.update (settled : Settled settings entries) (changes : Entries) :
    Settled (settings ++ changes) (entries.update changes) := by
  induction changes generalizing settings entries with
  | nil =>
    rw [List.append_nil]
    exact settled
  | cons change changes ih =>
    have next := ih (settled.set change.1 change.2)
    rw [List.append_assoc] at next
    exact next

/-- Changes may be settled among themselves first. -/
theorem Settled.update_settled (settled : Settled settings entries) (later : Settled further changes)
    (once : changes.names.Nodup) : Settled (settings ++ further) (entries.update changes) := by
  have direct := settled.update changes
  constructor
  case order =>
    rw [direct.order, names_append, names_append, later.order, eraseDups_append_eraseDups]
  case last =>
    intro name
    rw [direct.last, List.reverse_append, List.reverse_append, get?_append, get?_append, get?_reverse once, later.last]

theorem forall_set (each : ∀ entry ∈ entries, P entry.2) (name : String) {value : Value} (new : P value) :
    ∀ entry ∈ entries.set name value, P entry.2 := by
  induction entries with
  | nil => simpa [Entries.set] using new
  | cons entry rest ih =>
    obtain ⟨first, others⟩ := List.forall_mem_cons.1 each
    rw [Entries.set]
    split
    · exact List.forall_mem_cons.2 ⟨new, others⟩
    · exact List.forall_mem_cons.2 ⟨first, ih others⟩

/-- What is true of all values that were set is true of those that remain. -/
theorem Settled.forall_mem (settled : Settled settings entries) (each : ∀ setting ∈ settings, P setting.2) :
    ∀ entry ∈ entries, P entry.2 := by
  intro entry member
  have once : entries.names.Nodup := settled.order ▸ nodup_eraseDups _
  have found := get?_of_mem once member
  rw [settled.last] at found
  exact each _ (List.mem_reverse.1 (mem_of_get? found))

end Entries

/-! ### Attributes of a span -/

/-- One setting of attributes in a span: of a single one, of further ones, or of both. -/
structure Addition where
  single : Option (String × Value)
  more : Entries

def Addition.settings (addition : Addition) : Entries :=
  addition.single.toList ++ addition.more

namespace Span

/-- What was set in a span, with its name and its time in front, and an error last. -/
def settings (name : String) (elapsed : Float) (initial : Entries) (additions : List Addition)
    (error : Option String) : Entries :=
  [("span", .text name), ("elapsed_ms", .float elapsed)] ++ (initial ++ additions.flatMap Addition.settings) ++
    error.toList.map fun text => ("error", .text text)

def addAll (span : Span) (additions : List Addition) : Span :=
  additions.foldl (fun span addition => span.add addition.single addition.more) span

theorem attributes_add (span : Span) (addition : Addition) :
    (span.add addition.single addition.more).attributes = span.attributes.update addition.settings := by
  cases single : addition.single <;> simp [add, Addition.settings, single, Entries.update]

theorem name_addAll (span : Span) (additions : List Addition) : (span.addAll additions).name = span.name := by
  induction additions generalizing span with
  | nil => rfl
  | cons addition additions ih =>
    rw [addAll, List.foldl_cons]
    exact ih (span.add addition.single addition.more)

theorem attributes_addAll (span : Span) (additions : List Addition) :
    (span.addAll additions).attributes = span.attributes.update (additions.flatMap Addition.settings) := by
  induction additions generalizing span with
  | nil => rfl
  | cons addition additions ih =>
    have next := ih (span.add addition.single addition.more)
    rw [attributes_add, Entries.update, Entries.update, ← List.foldl_append] at next
    exact next

/-- The record of a span that took this long. -/
def entriesAfter (span : Span) (elapsed : Float) (error : Option String) : Entries :=
  let all := Entries.update [("span", .text span.name), ("elapsed_ms", .float elapsed)] span.attributes
  error.elim all fun text => all.set "error" (.text text)

theorem entries_eq (span : Span) (start stop : Float) (error : Option String) :
    span.entries start stop error = span.entriesAfter (elapsed start stop) error := by
  cases error <;> rfl

theorem settled_attributes (name : String) {initial : Entries} (once : initial.names.Nodup)
    (additions : List Addition) : Entries.Settled (initial ++ additions.flatMap Addition.settings)
      (addAll ⟨name, initial⟩ additions).attributes := by
  rw [attributes_addAll]
  exact (Entries.settled_self once).update _

theorem settled_entriesAfter (name : String) {initial : Entries} (once : initial.names.Nodup)
    (additions : List Addition) (elapsed : Float) (error : Option String) :
    Entries.Settled (settings name elapsed initial additions error)
      ((addAll ⟨name, initial⟩ additions).entriesAfter elapsed error) := by
  have headOnce : (Entries.names [("span", .text name), ("elapsed_ms", .float elapsed)]).Nodup := by
    change ["span", "elapsed_ms"].Nodup
    decide
  have head := Entries.settled_self headOnce
  have attributesOnce : (addAll ⟨name, initial⟩ additions).attributes.names.Nodup := by
    rw [attributes_addAll]
    exact Entries.nodup_names_update once _
  -- Attributes are settled among themselves before they come behind the name and the time.
  have all := head.update_settled (settled_attributes name once additions) attributesOnce
  rw [entriesAfter, name_addAll, settings]
  cases error with
  | none =>
    rw [Option.toList_none, List.map_nil, List.append_nil]
    exact all
  | some text => exact all.set "error" (.text text)

end Span

/-! ### Records as they are read -/

namespace Entries

/-- Entries as the object that is written for them. -/
def toObject (entries : Entries) : Value :=
  .mapping (entries.map fun entry => (.text entry.1, entry.2))

/-- The same names stand in the same order, with values that are related. -/
def Related (R : Value → Value → Prop) (entries others : Entries) : Prop :=
  List.Forall₂ (fun entry other : String × Value => entry.1 = other.1 ∧ R entry.2 other.2) entries others

variable {R : Value → Value → Prop} {P : Value → Prop} {strict : Bool} {entries others changes : Entries}

theorem Related.set (related : Related R entries others) (name : String) {value other : Value}
    (same : R value other) : Related R (entries.set name value) (others.set name other) := by
  induction related with
  | nil => exact .cons ⟨rfl, same⟩ .nil
  | @cons entry first entries others here related ih =>
    obtain ⟨known, old⟩ := entry
    obtain ⟨knownToo, oldToo⟩ := first
    obtain ⟨rfl, sameOld⟩ := here
    rw [Entries.set, Entries.set]
    by_cases found : known = name
    · rw [if_pos found, if_pos found]
      exact .cons ⟨rfl, same⟩ related
    · rw [if_neg found, if_neg found]
      exact .cons ⟨rfl, sameOld⟩ ih

theorem Related.update (related : Related R entries others) (same : ∀ change ∈ changes, R change.2 change.2) :
    Related R (entries.update changes) (others.update changes) := by
  induction changes generalizing entries others with
  | nil => exact related
  | cons change changes ih =>
    obtain ⟨first, later⟩ := List.forall_mem_cons.1 same
    exact ih (related.set change.1 first) later

theorem Related.forall_iff (related : Related (fun value other => P value ↔ P other) entries others) :
    (∀ entry ∈ entries, P entry.2) ↔ ∀ other ∈ others, P other.2 := by
  induction related with
  | nil => simp
  | cons here _ ih =>
    rw [List.forall_mem_cons, List.forall_mem_cons]
    exact and_congr here.2 ih

theorem reads_toObject (read : Related (Json.Reads strict) entries others) :
    Json.Reads strict entries.toObject others.toObject := by
  apply Json.reads_mapping
  rw [List.forall₂_map_left_iff, List.forall₂_map_right_iff]
  refine read.imp fun entry other same => ?_
  rw [same.1]
  exact .named other.1 same.2

theorem isWritable_toObject_iff :
    Json.isWritable entries.toObject = true ↔ ∀ entry ∈ entries, Json.isWritable entry.2 = true := by
  rw [toObject, Json.isWritable, Json.entriesAreWritable_iff, List.forall_mem_map]
  simp [Json.isWritable]

end Entries

/-- Only errors are told. -/
theorem Raised.isSome_told? (raised : Option Raised) :
    (raised.bind Raised.told?).isSome = raised.any Raised.isError := by
  cases raised with
  | none => rfl
  | some raised => cases error : raised.isError <;> simp [Raised.told?, error]

namespace Span

variable {span : Span} {start stop elapsed other : Float} {raised : Option Raised}

/-- The name, the time and the error can always be written. -/
theorem isWritable_of_settled {name : String} {initial fields : Entries} {additions : List Addition}
    (short : ∀ entry ∈ initial ++ additions.flatMap Addition.settings, Json.isWritable entry.2 = true)
    {error : Option String} (settled : Entries.Settled (settings name elapsed initial additions error) fields) :
    ∀ entry ∈ fields, Json.isWritable entry.2 = true := by
  apply settled.forall_mem (P := fun value => Json.isWritable value = true)
  rw [settings, List.forall_mem_append, List.forall_mem_append]
  refine ⟨⟨?_, short⟩, ?_⟩
  · simp [Json.isWritable]
  · simp [Json.isWritable]

/-- Records that differ in the time alone are related if the times are. -/
theorem related_entriesAfter {R : Value → Value → Prop} (same : ∀ entry ∈ span.attributes, R entry.2 entry.2)
    (texts : ∀ content, R (.text content) (.text content)) (times : R (.float elapsed) (.float other))
    (error : Option String) : Entries.Related R (span.entriesAfter elapsed error) (span.entriesAfter other error) := by
  have head : Entries.Related R [("span", .text span.name), ("elapsed_ms", .float elapsed)]
      [("span", .text span.name), ("elapsed_ms", .float other)] :=
    .cons ⟨rfl, texts span.name⟩ (.cons ⟨rfl, times⟩ .nil)
  have all := head.update same
  cases error with
  | none => exact all
  | some text => exact all.set "error" (texts text)

/-- Whatever the time reads as, the record is read as what was set, with that time in it. -/
theorem reads_entriesAfter {strict : Bool} (plain : ∀ entry ∈ span.attributes, entry.2.Plain)
    (reads : Json.Reads strict (.float elapsed) (.float other)) (error : Option String) :
    Json.Reads strict (span.entriesAfter elapsed error).toObject (span.entriesAfter other error).toObject := by
  have same : ∀ entry ∈ span.attributes, Json.Reads strict entry.2 entry.2 :=
    fun entry member => Json.reads_of_plain (plain entry member)
  exact Entries.reads_toObject (related_entriesAfter same Json.reads_text reads error)

theorem object_eq (span : Span) (start stop : Float) (error : Option String) :
    span.object start stop error = (span.entriesAfter (Span.elapsed start stop) error).toObject := by
  rw [object, entries_eq, Entries.toObject]

theorem message_record (span : Span) (start stop : Float) (error : Option String) :
    (span.record start stop error).message =
      Json.render (span.entriesAfter (Span.elapsed start stop) error).toObject := by
  rw [record, object_eq]

/-- The time can always be written, so it is up to the other values whether the record can. -/
theorem isWritable_object_iff (span : Span) (start stop other : Float) (error : Option String) :
    Json.isWritable (span.object start stop error) = true ↔
      ∀ entry ∈ span.entriesAfter other error, Json.isWritable entry.2 = true := by
  -- Another time is another value, but one that can be written just as well.
  let Alike (value other : Value) : Prop := Json.isWritable value = true ↔ Json.isWritable other = true
  have times : Alike (.float (Span.elapsed start stop)) (.float other) := by simp [Alike, Json.isWritable]
  have related := span.related_entriesAfter (fun _ _ => Iff.rfl) (fun _ => Iff.rfl) times error
  rw [object_eq, Entries.isWritable_toObject_iff]
  exact related.forall_iff

theorem leave_of_isWritable (writable : Json.isWritable (span.object start stop (raised.bind Raised.told?)) = true) :
    span.leave start stop raised = (some (span.record start stop (raised.bind Raised.told?)), raised) :=
  if_pos writable

theorem leave_of_not_isWritable
    (tooLong : ¬ Json.isWritable (span.object start stop (raised.bind Raised.told?)) = true) :
    span.leave start stop raised = (none, some .tooManyDigits) :=
  if_neg tooLong

theorem eq_record_of_leave {record : LogRecord} (leaves : span.leave start stop raised = (some record, raised)) :
    record = span.record start stop (raised.bind Raised.told?) := by
  by_cases writable : Json.isWritable (span.object start stop (raised.bind Raised.told?)) = true
  · rw [leave_of_isWritable writable] at leaves
    exact (Option.some.inj (congrArg Prod.fst leaves)).symm
  · rw [leave_of_not_isWritable writable] at leaves
    cases congrArg Prod.fst leaves

end Span

/-- A failure as it is raised. -/
def Failure.raised (failure : Failure) : Raised :=
  ⟨failure.kind, failure.message, true⟩

theorem Failure.told?_raised (failure : Option Failure) :
    (failure.map Failure.raised).bind Raised.told? = failure.map Failure.logged := by
  cases failure <;> rfl

/-- Leaving a span adds one record to the log and hands on what the work came to. The record is in ASCII, a warning just
    when an error was raised, and read as JSON it is what was set in the span. Its time is a number of the grammar
    whenever the clock's readings are a finite time apart, and then the record is a text of the grammar. Only if a
    value in it holds an integer of too many digits there is no record, and that is what the span raises. -/
theorem span_leaves_record (name : String) {initial : Entries} (once : initial.names.Nodup)
    (additions : List Addition)
    (plain : ∀ entry ∈ initial ++ additions.flatMap Addition.settings, entry.2.Plain) :
    let span := Span.addAll ⟨name, initial⟩ additions
    (∀ (start stop : Float) (raised : Option Raised), ∃ (elapsed : Float) (fields : Entries),
      Entries.Settled (Span.settings name elapsed initial additions (raised.bind Raised.told?)) fields ∧
      Json.read? (Json.render (.float (Span.elapsed start stop))).toList = some (.float elapsed) ∧
      ((∀ entry ∈ fields, Json.isWritable entry.2 = true) → ∃ record,
        span.leave start stop raised = (some record, raised) ∧
        (record.level = if raised.any Raised.isError then .warning else .debug) ∧
        Json.IsAscii record.message.toList ∧
        Json.read? record.message.toList = some fields.toObject ∧
        ((Span.elapsed start stop).isNaN = false → (Span.elapsed start stop).isInf = false →
          Json.number? (Json.render (.float (Span.elapsed start stop))).toList = some (.float elapsed) ∧
          Json.readStrict? record.message.toList = some fields.toObject)) ∧
      ((¬ ∀ entry ∈ fields, Json.isWritable entry.2 = true) →
        span.leave start stop raised = (none, some .tooManyDigits))) ∧
    ∀ {α : Type} (failureOf : α → Option Failure) (work : Span → Action (α × Span)) (world : World),
      let done := (work ⟨name, initial⟩).run world.ticked
      let left := (World.inSpan name initial failureOf work).run world
      let raised := (failureOf done.1.1).map Failure.raised
      done.1.2 = span →
        left.1 = done.1.1 ∧
        ∀ record,
          span.leave (world.clock world.readings) (done.2.clock done.2.readings) raised = (some record, raised) →
          left.2 = { done.2 with readings := done.2.readings + 1, log := done.2.log ++ [record] } := by
  intro span
  constructor
  · intro start stop raised
    have attributes := (Span.settled_attributes name once additions).forall_mem plain
    -- Only the time may be read as another value than the one that was written.
    obtain ⟨elapsed, number, reads⟩ := Json.exists_reads_float (Span.elapsed start stop)
    -- Without strictness this needs nothing of the clock.
    have readsWords : Json.Reads false (.float (Span.elapsed start stop)) (.float elapsed) := reads nofun
    let error := raised.bind Raised.told?
    have writable := span.isWritable_object_iff start stop elapsed error
    refine ⟨elapsed, span.entriesAfter elapsed error, ?settled, Json.readText?_render readsWords, ?short, ?tooLong⟩
    case settled => exact Span.settled_entriesAfter name once additions elapsed error
    case short =>
      intro short
      refine ⟨_, Span.leave_of_isWritable (writable.2 short), ?_, ?_, ?_, ?_⟩
      · rw [Span.record, Raised.isSome_told?]
      · rw [Span.message_record, Json.render, String.toList_ofList]
        exact Json.isAscii_write _
      · rw [Span.message_record]
        exact Json.readText?_render (Span.reads_entriesAfter attributes readsWords error)
      · intro isNumber isFinite
        constructor
        · rw [Json.render, String.toList_ofList]
          exact number isNumber isFinite
        · rw [Span.message_record]
          exact Json.readText?_render (Span.reads_entriesAfter attributes (reads fun _ => ⟨isNumber, isFinite⟩) error)
    case tooLong =>
      intro tooLong
      exact Span.leave_of_not_isWritable (tooLong ∘ writable.1)
  · intro α failureOf work world done left raised handed
    refine ⟨rfl, fun record leaves => ?_⟩
    -- All failures are errors, so the log tells of them what the span tells of what was raised.
    obtain rfl : record = span.record _ _ (raised.bind Raised.told?) := Span.eq_record_of_leave leaves
    have told : raised.bind Raised.told? = (failureOf done.1.1).map Failure.logged := Failure.told?_raised _
    rw [told, ← handed]
    rfl

/-- The name of the span and an attribute are set again, the one in a text beyond ASCII, and an error is noted before one
    is raised. -/
def renamings : List Addition := [
  ⟨some ("error", .text "none"), [("count", .list [.null, .flag true])]⟩, ⟨none, [("span", .text "é😀\n\"")]⟩]

/-- Work that sets all this and then fails. -/
def stumbling (span : Span) : Action (Except Failure Unit × Span) :=
  return (.error (.breakdown .unknownLevel), span.addAll renamings)

theorem span_leaves_record_renamed :
    (Entries.names [("count", .int (-1))]).Nodup ∧
    (∀ entry ∈ [("count", Value.int (-1))] ++ renamings.flatMap Addition.settings, entry.2.Plain) ∧
    (∃ (record : LogRecord) (fields : Entries),
      (Span.addAll ⟨"scan", [("count", .int (-1))]⟩ renamings).leave 0.0 0.0 (some ⟨"ValueError", "bad", true⟩) =
        (some record, some ⟨"ValueError", "bad", true⟩) ∧
      record.level = .warning ∧ Json.read? record.message.toList = some fields.toObject ∧
      fields.names = ["span", "elapsed_ms", "count", "error"] ∧
      fields.get? "span" = some (.text "é😀\n\"") ∧ fields.get? "count" = some (.list [.null, .flag true]) ∧
      fields.get? "error" = some (.text "ValueError: bad")) ∧
    let left := (World.inSpan "scan" [("count", .int (-1))] World.failureOf stumbling).run World.still
    left.1 = .error (.breakdown .unknownLevel) ∧ ∃ record, left.2.log = [record] ∧ record.level = .warning := by
  have once : (Entries.names [("count", .int (-1))]).Nodup := by decide
  have plain : ∀ entry ∈ [("count", Value.int (-1))] ++ renamings.flatMap Addition.settings, entry.2.Plain := by
    have list : (Value.list [.null, .flag true]).Plain :=
      .list (List.forall_mem_cons.2 ⟨.null, List.forall_mem_cons.2 ⟨.flag true, nofun⟩⟩)
    simp [renamings, Addition.settings, list, Value.Plain.int, Value.Plain.text]
  obtain ⟨records, runs⟩ := span_leaves_record "scan" once renamings plain
  have short : ∀ entry ∈ [("count", Value.int (-1))] ++ renamings.flatMap Addition.settings,
      Json.isWritable entry.2 = true := by decide +kernel
  refine ⟨once, plain, ?record, ?run⟩
  case record =>
    obtain ⟨elapsed, fields, settled, _, leaves, _⟩ := records 0.0 0.0 (some ⟨"ValueError", "bad", true⟩)
    obtain ⟨record, left, level, _, read, _⟩ := leaves (Span.isWritable_of_settled short settled)
    refine ⟨record, fields, left, level, read, settled.order.trans ?_, (settled.last _).trans ?_,
      (settled.last _).trans ?_, (settled.last _).trans ?_⟩
    all_goals rfl
  case run =>
    obtain ⟨same, after⟩ := runs World.failureOf stumbling World.still rfl
    obtain ⟨elapsed, fields, settled, _, leaves, _⟩ := records 0.0 0.0 (some (Failure.breakdown .unknownLevel).raised)
    obtain ⟨record, left, level, _⟩ := leaves (Span.isWritable_of_settled short settled)
    exact ⟨same, record, congrArg World.log (after record left), level⟩

/-- Over an age no float can hold, the time is written as a word that is not in the grammar. An interruption leaves a
    record without an error, and an integer of too many digits leaves none. -/
theorem span_leaves_no_such_record :
    (∃ record, (⟨"n", []⟩ : Span).leave 0.0 1e308 none = (some record, none) ∧
      record.message = "\x7b\"span\": \"n\", \"elapsed_ms\": Infinity\x7d" ∧
      Json.readStrict? record.message.toList = none) ∧
    (∃ record, (⟨"n", []⟩ : Span).leave 0.0 0.0 (some ⟨"KeyboardInterrupt", "", false⟩) =
        (some record, some ⟨"KeyboardInterrupt", "", false⟩) ∧
      record.level = .debug ∧ record.message = "\x7b\"span\": \"n\", \"elapsed_ms\": 0.0\x7d") ∧
    (⟨"n", [("count", .int (Int.ofNat (Nat.pow 10 Json.digitLimit)))]⟩ : Span).leave 0.0 0.0 none =
      (none, some .tooManyDigits) := by
  refine ⟨⟨_, Span.leave_of_isWritable (by decide +kernel), ?_, ?_⟩,
    ⟨_, Span.leave_of_isWritable (by decide +kernel), rfl, ?_⟩, Span.leave_of_not_isWritable (by decide +kernel)⟩
  all_goals decide +kernel

end DiagramWeave
