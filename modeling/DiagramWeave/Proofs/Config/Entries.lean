import DiagramWeave.Value
import Mathlib.Data.List.Basic

/-!
# Named values under updates

An update gives a name the last value that the changes hold for it. Names that are not changed keep their values, and
which names of some kind there are, and in what order, is settled by the names of that kind alone.
-/
namespace DiagramWeave.Entries

variable {entries changes : Entries} {name other : String} {value : Value}

/-- The names that have a value. -/
def names (entries : Entries) : List String :=
  entries.map Prod.fst

/-- The entries whose names are of a kind. -/
def ofKind (kind : String → Bool) (entries : Entries) : Entries :=
  entries.filter fun entry => kind entry.1

/-- No value is null. -/
def AllPresent (entries : Entries) : Prop :=
  ∀ entry ∈ entries, entry.2.isNull = false

theorem get?_cons (entries : Entries) (known : String) (old : Value) (name : String) :
    get? ((known, old) :: entries) name = if known = name then some old else entries.get? name := by
  by_cases same : known = name
  · rw [get?, List.find?_cons_of_pos (by simpa using same), if_pos same]
    rfl
  · rw [get?, List.find?_cons_of_neg (by simpa using same), if_neg same]
    rfl

theorem get?_append (entries later : Entries) (name : String) :
    get? (entries ++ later) name = (entries.get? name).or (later.get? name) := by
  rw [get?, List.find?_append, Option.map_or]
  rfl

theorem get?_eq_none_iff : entries.get? name = none ↔ name ∉ entries.names := by
  rw [get?, Option.map_eq_none_iff, List.find?_eq_none, names, List.mem_map]
  constructor
  · rintro missing ⟨entry, member, rfl⟩
    exact missing entry member (decide_eq_true rfl)
  · intro missing entry member here
    exact missing ⟨entry, member, of_decide_eq_true here⟩

/-! ### Setting one name -/

theorem present_cons_of_null {known : String} {old : Value} (null : old.isNull = true) :
    present ((known, old) :: entries) = entries.present :=
  List.filter_cons_of_neg (by simp [null])

theorem present_cons_of_present {known : String} {old : Value} (there : old.isNull = false) :
    present ((known, old) :: entries) = (known, old) :: entries.present :=
  List.filter_cons_of_pos (by simp [there])

theorem get?_present_set (there : value.isNull = false) :
    (entries.set name value).present.get? other =
      if name = other then some value else entries.present.get? other := by
  induction entries with
  | nil => rw [set, present_cons_of_present there, get?_cons]
  | cons entry rest ih =>
    obtain ⟨known, old⟩ := entry
    rw [set]
    by_cases here : known = name
    · subst here
      rw [if_pos rfl, present_cons_of_present there, get?_cons]
      by_cases same : known = other
      · simp only [same, if_true]
      · -- The value that was there before counts for no other name.
        simp only [same, if_false]
        cases null : old.isNull with
        | true => rw [present_cons_of_null null]
        | false => rw [present_cons_of_present null, get?_cons, if_neg same]
    · rw [if_neg here]
      cases null : old.isNull with
      | true => rw [present_cons_of_null null, present_cons_of_null null, ih]
      | false =>
        rw [present_cons_of_present null, present_cons_of_present null, get?_cons, get?_cons, ih]
        by_cases same : known = other
        · subst same
          simp only [if_true, Ne.symm here, if_false]
        · simp only [same, if_false]

theorem ofKind_set (kind : String → Bool) (entries : Entries) (name : String) (value : Value) :
    (entries.set name value).ofKind kind =
      if kind name = true then (entries.ofKind kind).set name value else entries.ofKind kind := by
  induction entries with
  | nil => simp [set, ofKind, List.filter_cons]
  | cons entry rest ih =>
    obtain ⟨known, old⟩ := entry
    rw [ofKind] at ih ⊢
    rw [set]
    by_cases here : known = name
    · subst here
      by_cases fits : kind known = true <;> simp [ofKind, fits, set]
    · by_cases fits : kind known = true
      · by_cases too : kind name = true
        · rw [if_pos too] at ih
          simp [ofKind, here, fits, too, set, ih]
        · rw [if_neg too] at ih
          simp [ofKind, here, fits, too, ih]
      · simp [ofKind, here, fits, ih]

theorem set_append_of_not_mem (late : Entries) (value : Value) (free : name ∉ entries.names) :
    set (entries ++ late) name value = entries ++ late.set name value := by
  induction entries with
  | nil => rfl
  | cons entry rest ih =>
    obtain ⟨known, old⟩ := entry
    rw [names, List.map_cons, List.mem_cons, not_or] at free
    rw [List.cons_append, set, if_neg (Ne.symm free.1), ih free.2]
    rfl

theorem get?_set (entries : Entries) (name : String) (value : Value) (other : String) :
    (entries.set name value).get? other = if name = other then some value else entries.get? other := by
  induction entries with
  | nil => rw [set, get?_cons]
  | cons entry rest ih =>
    obtain ⟨known, old⟩ := entry
    rw [set]
    by_cases here : known = name
    · subst here
      rw [if_pos rfl, get?_cons, get?_cons]
      by_cases same : known = other <;> simp only [same, if_true, if_false]
    · rw [if_neg here, get?_cons, get?_cons, ih]
      by_cases same : known = other
      · subst same
        simp only [if_true, Ne.symm here, if_false]
      · simp only [same, if_false]

/-! ### Updates -/

theorem update_cons (entries changes : Entries) (name : String) (value : Value) :
    entries.update ((name, value) :: changes) = (entries.set name value).update changes := rfl

theorem allPresent_present (entries : Entries) : entries.present.AllPresent := by
  intro entry member
  simpa using (List.mem_filter.1 member).2

theorem get?_present_update (there : changes.AllPresent) :
    (entries.update changes).present.get? other =
      (get? changes.reverse other).or (entries.present.get? other) := by
  induction changes generalizing entries with
  | nil => rfl
  | cons change changes ih =>
    obtain ⟨name, value⟩ := change
    obtain ⟨first, rest⟩ := List.forall_mem_cons.1 there
    -- The change that comes first counts only where no later one does.
    rw [update_cons, ih rest, get?_present_set first, List.reverse_cons, get?_append, Option.or_assoc, get?_cons]
    by_cases same : name = other
    · simp only [same, if_true, Option.some_or]
    · simp only [same, if_false]
      rfl

/-- A name has the last value that the changes hold for it. -/
theorem get?_update (entries changes : Entries) (name : String) :
    (entries.update changes).get? name = (get? changes.reverse name).or (entries.get? name) := by
  induction changes generalizing entries with
  | nil => rfl
  | cons change changes ih =>
    obtain ⟨own, value⟩ := change
    rw [update_cons, ih, get?_set, List.reverse_cons, get?_append, Option.or_assoc, get?_cons]
    by_cases same : own = name
    · simp only [same, if_true, Option.some_or]
    · simp only [same, if_false]
      rfl

theorem get?_reverse_eq_none_iff : get? changes.reverse name = none ↔ name ∉ changes.names := by
  rw [get?_eq_none_iff, names, names, List.map_reverse, List.mem_reverse]

theorem ofKind_update (kind : String → Bool) (entries changes : Entries) :
    (entries.update changes).ofKind kind = (entries.ofKind kind).update (changes.ofKind kind) := by
  induction changes generalizing entries with
  | nil => rfl
  | cons change changes ih =>
    obtain ⟨name, value⟩ := change
    rw [update_cons, ih, ofKind_set]
    by_cases fits : kind name = true
    · have kept : ofKind kind ((name, value) :: changes) = (name, value) :: ofKind kind changes :=
        List.filter_cons_of_pos fits
      rw [if_pos fits, kept, update_cons]
    · have dropped : ofKind kind ((name, value) :: changes) = ofKind kind changes :=
        List.filter_cons_of_neg fits
      rw [if_neg fits, dropped]

theorem update_append_of_disjoint (late : Entries) (apart : ∀ name ∈ changes.names, name ∉ entries.names) :
    update (entries ++ late) changes = entries ++ late.update changes := by
  induction changes generalizing late with
  | nil => rfl
  | cons change changes ih =>
    obtain ⟨name, value⟩ := change
    rw [names, List.map_cons] at apart
    obtain ⟨first, rest⟩ := List.forall_mem_cons.1 apart
    rw [update_cons, set_append_of_not_mem late value first, ih _ rest, update_cons]

/-- Null entries that no change names say nothing. -/
theorem present_update_of_disjoint (nulls : entries.present = [])
    (apart : ∀ name ∈ changes.names, name ∉ entries.names) :
    (entries.update changes).present = (update [] changes).present := by
  have split := update_append_of_disjoint [] apart
  rw [List.append_nil] at split
  rw [split, present, List.filter_append]
  exact (congrArg (· ++ _) nulls).trans (List.nil_append _)

/-! ### Which values there are, in any order -/

theorem mem_names_set : other ∈ (entries.set name value).names ↔ other = name ∨ other ∈ entries.names := by
  induction entries with
  | nil => simp [set, names]
  | cons entry rest ih =>
    obtain ⟨known, old⟩ := entry
    rw [names] at ih ⊢
    rw [set]
    by_cases here : known = name
    · simp [here, names]
    · rw [if_neg here, List.map_cons, List.mem_cons, ih, names, names, List.map_cons, List.mem_cons]
      exact or_left_comm

theorem nodup_names_set (once : entries.names.Nodup) (name : String) (value : Value) :
    (entries.set name value).names.Nodup := by
  induction entries with
  | nil => simp [set, names]
  | cons entry rest ih =>
    obtain ⟨known, old⟩ := entry
    rw [set]
    rw [names, List.map_cons, List.nodup_cons] at once
    obtain ⟨new, once⟩ := once
    by_cases here : known = name
    · rw [if_pos here, names, List.map_cons, List.nodup_cons, ← here]
      exact ⟨new, once⟩
    · rw [if_neg here, names, List.map_cons, List.nodup_cons]
      exact ⟨fun member => (mem_names_set.1 member).elim here new, ih once⟩

theorem nodup_names_update (once : entries.names.Nodup) (changes : Entries) :
    (entries.update changes).names.Nodup := by
  induction changes generalizing entries with
  | nil => exact once
  | cons change changes ih => exact ih (nodup_names_set once change.1 change.2)

theorem present_set_perm (once : entries.names.Nodup) (there : value.isNull = false) :
    (entries.set name value).present.Perm ((name, value) :: entries.present.filter fun entry => entry.1 ≠ name) := by
  induction entries with
  | nil => rw [set, present_cons_of_present there]; rfl
  | cons entry rest ih =>
    obtain ⟨known, old⟩ := entry
    rw [set]
    rw [names, List.map_cons, List.nodup_cons] at once
    obtain ⟨new, once⟩ := once
    by_cases here : known = name
    · -- The old value goes, and no other one stands under the name.
      subst here
      have others : (present rest).filter (fun entry => entry.1 ≠ known) = present rest := by
        refine List.filter_eq_self.2 fun entry member => decide_eq_true fun same => new ?_
        exact List.mem_map.2 ⟨entry, (List.mem_filter.1 member).1, same⟩
      rw [if_pos rfl, present_cons_of_present there]
      cases null : old.isNull with
      | true => rw [present_cons_of_null null, others]
      | false => rw [present_cons_of_present null, List.filter_cons_of_neg (by simp), others]
    · rw [if_neg here]
      cases null : old.isNull with
      | true =>
        rw [present_cons_of_null null, present_cons_of_null null]
        exact ih once
      | false =>
        rw [present_cons_of_present null, present_cons_of_present null, List.filter_cons_of_pos (by simpa using here)]
        exact ((ih once).cons (known, old)).trans (.swap ..)

theorem present_update_perm {others : Entries} (there : changes.AllPresent) (once : entries.names.Nodup)
    (onceToo : others.names.Nodup) (same : entries.present.Perm others.present) :
    (entries.update changes).present.Perm (others.update changes).present := by
  induction changes generalizing entries others with
  | nil => exact same
  | cons change changes ih =>
    obtain ⟨name, value⟩ := change
    obtain ⟨first, rest⟩ := List.forall_mem_cons.1 there
    rw [update_cons, update_cons]
    refine ih rest (nodup_names_set once name value) (nodup_names_set onceToo name value) ?_
    have moved := (same.filter fun entry => entry.1 ≠ name).cons (name, value)
    exact ((present_set_perm once first).trans moved).trans (present_set_perm onceToo first).symm

/-! ### Names with one value each -/

/-- The values that names have, in the order of the names. -/
def ofNames (value? : String → Option Value) (names : List String) : Entries :=
  names.filterMap fun name => (value? name).map (name, ·)

theorem ofNames_cons {value? : String → Option Value} (there : value? name = some value) (names : List String) :
    ofNames value? (name :: names) = (name, value) :: ofNames value? names := by
  rw [ofNames, List.filterMap_cons, there]
  rfl

theorem names_present_sublist (entries : Entries) : entries.present.names.Sublist entries.names :=
  List.filter_sublist.map Prod.fst

theorem get?_present_of_not_mem (absent : name ∉ entries.names) : entries.present.get? name = none :=
  get?_eq_none_iff.2 fun member => absent ((names_present_sublist entries).subset member)

/-- Entries that have their names once are known by the values of the names. -/
theorem present_eq_ofNames (once : entries.names.Nodup) :
    entries.present = ofNames entries.present.get? entries.names := by
  induction entries with
  | nil => rfl
  | cons entry rest ih =>
    obtain ⟨known, old⟩ := entry
    obtain ⟨new, later⟩ := List.nodup_cons.1 once
    have here : names ((known, old) :: rest) = known :: names rest := rfl
    cases null : old.isNull with
    | true =>
      rw [present_cons_of_null null, here, ofNames, List.filterMap_cons, get?_present_of_not_mem new]
      exact ih later
    | false =>
      have others : ofNames (get? ((known, old) :: present rest)) (names rest) =
          ofNames (present rest).get? (names rest) := by
        refine List.filterMap_congr fun name member => ?_
        rw [get?_cons, if_neg]
        rintro rfl
        exact new member
      have own : get? ((known, old) :: present rest) known = some old := by rw [get?_cons, if_pos rfl]
      rw [present_cons_of_present null, here, ofNames_cons own, others, ← ih later]

theorem get?_reverse (once : entries.names.Nodup) (name : String) : get? entries.reverse name = entries.get? name := by
  induction entries with
  | nil => rfl
  | cons entry rest ih =>
    obtain ⟨known, old⟩ := entry
    obtain ⟨new, later⟩ := List.nodup_cons.1 once
    rw [List.reverse_cons, get?_append, ih later, get?_cons, get?_cons]
    by_cases here : known = name
    · subst here
      rw [get?_eq_none_iff.2 new, Option.none_or, if_pos rfl, if_pos rfl]
    · rw [if_neg here, if_neg here]
      exact Option.or_none

theorem get?_present (once : entries.names.Nodup) (name : String) :
    entries.present.get? name = (entries.get? name).filter fun value => !value.isNull := by
  induction entries with
  | nil => rfl
  | cons entry rest ih =>
    obtain ⟨known, old⟩ := entry
    obtain ⟨new, later⟩ := List.nodup_cons.1 once
    rw [get?_cons]
    cases null : old.isNull with
    | false =>
      rw [present_cons_of_present null, get?_cons, ih later]
      by_cases here : known = name
      · rw [if_pos here, if_pos here, Option.filter_some, null]
        rfl
      · rw [if_neg here, if_neg here]
    | true =>
      rw [present_cons_of_null null]
      by_cases here : known = name
      · -- No later entry has the name of a null one.
        subst here
        rw [get?_present_of_not_mem new, if_pos rfl, Option.filter_some, null]
        rfl
      · rw [if_neg here, ih later]

theorem names_set (entries : Entries) (name : String) (value : Value) :
    (entries.set name value).names = if name ∈ entries.names then entries.names else entries.names ++ [name] := by
  induction entries with
  | nil => rfl
  | cons entry rest ih =>
    obtain ⟨known, old⟩ := entry
    rw [names] at ih
    rw [set]
    by_cases here : known = name
    · simp [here, names]
    · by_cases later : name ∈ names rest
      · simp_all [names]
      · simp_all [names, Ne.symm here]

theorem names_update (once : changes.names.Nodup) :
    (entries.update changes).names = entries.names ++ changes.names.filter fun name => name ∉ entries.names := by
  induction changes generalizing entries with
  | nil => exact (List.append_nil _).symm
  | cons change changes ih =>
    obtain ⟨name, value⟩ := change
    obtain ⟨new, later⟩ := List.nodup_cons.1 once
    have here : names ((name, value) :: changes) = name :: names changes := rfl
    rw [update_cons, ih later, names_set, here]
    by_cases known : name ∈ entries.names
    · rw [if_pos known, List.filter_cons_of_neg (by simpa using known)]
    · rw [if_neg known, List.filter_cons_of_pos (by simpa using known), List.append_assoc]
      -- The names behind a new one are others.
      have others : (names changes).filter (fun other => other ∉ entries.names ++ [name]) =
          (names changes).filter fun other => other ∉ entries.names := by
        refine List.filter_congr fun other member => ?_
        have apart : other ≠ name := fun same => new (same ▸ member)
        simp [apart]
      rw [others]
      rfl

end DiagramWeave.Entries
