import DiagramWeave.Config.Load
import DiagramWeave.Proofs.World.Runs

/-!
# The leaves of option values

References are replaced in every text of a value, from the first to the last, and the first text that refers to a
missing variable ends this, as the first collection that holds itself does. So what goes wrong is told by the leaves of
the value alone, in the order of the file.
-/
namespace DiagramWeave

mutual

/-- The leaves of a value in order. Names of entries are none of them. -/
def Value.leaves : Value → List Value
  | .list items => itemLeaves items
  | .mapping entries => entryLeaves entries
  | value => [value]

def itemLeaves : List Value → List Value
  | [] => []
  | item :: items => item.leaves ++ itemLeaves items

def entryLeaves : List (Value × Value) → List Value
  | [] => []
  | (_, value) :: entries => value.leaves ++ entryLeaves entries

end

/-- What goes wrong at a leaf. -/
def leafFault? (environment : Environment) : Value → Option Failure
  | .text content =>
    match expand environment content with
    | .ok _ => none
    | .error names => some (.configuration (.missingVariables names))
  | .circle => some (.breakdown .endlessValue)
  | _ => none

variable {environment : Environment}

theorem leafFault?_eq_some {leaf : Value} {failure : Failure} (stops : leafFault? environment leaf = some failure) :
    (∃ names, failure = .configuration (.missingVariables names)) ∨
      leaf = .circle ∧ failure = .breakdown .endlessValue := by
  cases leaf with
  | text content =>
    rw [leafFault?] at stops
    split at stops
    · cases stops
    · cases stops
      exact .inl ⟨_, rfl⟩
  | circle =>
    cases stops
    exact .inr ⟨rfl, rfl⟩
  | null | flag | int | float | bytes | moment | group | list | mapping => cases stops

theorem failureOf_map {α β : Type} (result : Except Failure α) (f : α → β) :
    World.failureOf (result.map f) = World.failureOf result := by
  cases result <;> rfl

/-- Of two results that are taken one after the other the first failure counts. -/
theorem failureOf_both {α β γ : Type} (first : Except Failure α) (second : Except Failure β) (f : α → β → γ) :
    World.failureOf (first >>= fun one => second >>= fun other => pure (f one other)) =
      (World.failureOf first).or (World.failureOf second) := by
  cases first with
  | error failure => rfl
  | ok one => cases second <;> rfl

mutual

theorem failureOf_expandValue (environment : Environment) :
    ∀ value, World.failureOf (expandValue environment value) = value.leaves.findSome? (leafFault? environment)
  | .list items => by
    rw [expandValue, failureOf_map, failureOf_expandItems, Value.leaves]
  | .mapping entries => by
    rw [expandValue, failureOf_map, failureOf_expandEntries, Value.leaves]
  | .text content => by
    rw [expandValue, Value.leaves, List.findSome?_singleton, leafFault?]
    · cases expand environment content <;> rfl
    all_goals nofun
  | .circle | .null | .flag _ | .int _ | .float _ | .bytes _ | .moment | .group => rfl

theorem failureOf_expandItems (environment : Environment) :
    ∀ items, World.failureOf (expandItems environment items) = (itemLeaves items).findSome? (leafFault? environment)
  | [] => rfl
  | item :: items => by
    rw [expandItems, itemLeaves, List.findSome?_append, ← failureOf_expandValue, ← failureOf_expandItems]
    exact failureOf_both _ _ List.cons

theorem failureOf_expandEntries (environment : Environment) :
    ∀ entries, World.failureOf (expandEntries environment entries) =
      (entryLeaves entries).findSome? (leafFault? environment)
  | [] => rfl
  | (name, value) :: entries => by
    rw [expandEntries, entryLeaves, List.findSome?_append, ← failureOf_expandValue, ← failureOf_expandEntries]
    exact failureOf_both _ _ fun value entries => (name, value) :: entries

end

theorem expandEntries_eq_error {entries : List (Value × Value)} {failure : Failure} :
    expandEntries environment entries = .error failure ↔ ∃ before leaf after,
      entryLeaves entries = before ++ leaf :: after ∧ leafFault? environment leaf = some failure ∧
        ∀ leaf ∈ before, leafFault? environment leaf = none := by
  rw [← List.findSome?_eq_some_iff, ← failureOf_expandEntries]
  cases expandEntries environment entries <;> simp [World.failureOf]

theorem expandEntries_eq_ok {entries : List (Value × Value)} :
    (∃ expanded, expandEntries environment entries = .ok expanded) ↔
      ∀ leaf ∈ entryLeaves entries, leafFault? environment leaf = none := by
  rw [← List.findSome?_eq_none_iff, ← failureOf_expandEntries]
  cases expandEntries environment entries <;> simp [World.failureOf]

theorem names_of_expandEntries {entries expanded : List (Value × Value)}
    (fine : expandEntries environment entries = .ok expanded) : expanded.map Prod.fst = entries.map Prod.fst := by
  induction entries generalizing expanded with
  | nil =>
    cases fine
    rfl
  | cons entry entries ih =>
    rw [expandEntries] at fine
    cases first : expandValue environment entry.2 with
    | error failure =>
      rw [first] at fine
      cases fine
    | ok value =>
      cases rest : expandEntries environment entries with
      | error failure =>
        rw [first, rest] at fine
        cases fine
      | ok others =>
        rw [first, rest] at fine
        cases fine
        rw [List.map_cons, List.map_cons, ih rest]

theorem named?_eq_none {entries : List (Value × Value)} :
    named? entries = none ↔ ∃ entry ∈ entries, entry.1.text? = none := by
  induction entries with
  | nil => exact iff_of_false nofun (by simp)
  | cons entry entries ih =>
    simp only [named?, List.mem_cons, exists_eq_or_imp, ← ih]
    cases entry.1.text? with
    | none => simp
    | some name => cases named? entries <;> simp

/-- Replacing references neither gives nor takes a name. -/
theorem named?_of_expandEntries {entries expanded : List (Value × Value)}
    (fine : expandEntries environment entries = .ok expanded) :
    named? expanded = none ↔ ∃ entry ∈ entries, entry.1.text? = none := by
  have names (name : Value) : (∃ entry ∈ expanded, entry.1 = name) ↔ ∃ entry ∈ entries, entry.1 = name := by
    rw [← List.mem_map, ← List.mem_map, names_of_expandEntries fine]
  rw [named?_eq_none]
  constructor
  · rintro ⟨entry, member, nameless⟩
    obtain ⟨other, place, same⟩ := (names entry.1).1 ⟨entry, member, rfl⟩
    exact ⟨other, place, same ▸ nameless⟩
  · rintro ⟨entry, member, nameless⟩
    obtain ⟨other, place, same⟩ := (names entry.1).2 ⟨entry, member, rfl⟩
    exact ⟨other, place, same ▸ nameless⟩

end DiagramWeave
