import DiagramWeave.Proofs.Config.Leaves
import DiagramWeave.Proofs.Environment.OnePass
import DiagramWeave.Proofs.Failure
import Mathlib.Data.List.Forall2

/-!
# Texts and values with their references replaced

A text comes out as the pass over it says: each reference replaced by what it stands for and all else kept, or the names
of all variables that are missing. In a value this happens to every text, wherever it stands in lists and mappings, and
to nothing else. Of several texts that cannot be expanded the first one is reported.
-/
namespace DiagramWeave

variable {environment : Environment}

/-! ### Texts -/

/-- What stands in the result for a mention. -/
def Mention.shown (environment : Environment) (mention : Mention) : List Char :=
  (mention.value? environment).getD []

/-- The missing variables of a text that is cut, in order. -/
def missingIn (environment : Environment) (places : List (List Char × Mention)) : List String :=
  places.filterMap fun place => place.2.missing? environment

theorem value?_segment (mention : Mention) : mention.segment.value? environment = mention.value? environment := by
  rw [Mention.segment, Segment.value?, Mention.value?]
  cases environment.get? (String.ofList mention.name) <;> rfl

theorem missing?_segment (mention : Mention) :
    mention.segment.missing? environment = mention.missing? environment := by
  rw [Mention.missing?, ← value?_segment, Mention.segment, Segment.missing?]
  cases Segment.value? environment _ <;> rfl

theorem filterMap_segmentsOf (places : List (List Char × Mention)) (tail : List Char) :
    (segmentsOf places tail).filterMap (Segment.missing? environment) = missingIn environment places := by
  -- What stands between the references misses nothing.
  have plain (text : List Char) : (text.map Segment.plain).filterMap (Segment.missing? environment) = [] := by
    simp [List.filterMap_eq_nil_iff, Segment.missing?]
  rw [segmentsOf, List.filterMap_append, plain, List.append_nil]
  induction places with
  | nil => rfl
  | cons place places ih =>
    rw [List.flatMap_cons, List.filterMap_append, ih, List.filterMap_append, plain, List.nil_append, missingIn,
      missingIn, List.filterMap_cons, List.filterMap_cons, missing?_segment]
    cases place.2.missing? environment <;> rfl

theorem flatMap_segmentsOf (places : List (List Char × Mention)) (tail : List Char) :
    ((segmentsOf places tail).flatMap fun segment => (segment.value? environment).getD []) =
      fill (Mention.shown environment) places tail := by
  have plain (text : List Char) :
      ((text.map Segment.plain).flatMap fun segment => (segment.value? environment).getD []) = text := by
    simp [List.flatMap_map, Segment.value?]
  rw [segmentsOf, fill, List.flatMap_append, plain]
  congr 1
  induction places with
  | nil => rfl
  | cons place places ih =>
    rw [List.flatMap_cons, List.flatMap_append, ih, List.flatMap_append, plain, List.flatMap_singleton, value?_segment]
    rfl

/-- A text is expanded as the pass over it says. -/
theorem Pass.expand_eq {text : String} {places : List (List Char × Mention)} {tail : List Char}
    (pass : Pass text.toList places tail) (environment : Environment) :
    expand environment text =
      if missingIn environment places = [] then .ok (String.ofList (fill (Mention.shown environment) places tail))
      else .error (missingIn environment places) := by
  obtain ⟨_, _, pass', segments⟩ := exists_pass text.toList
  obtain ⟨rfl, rfl⟩ := pass.unique pass'
  rw [expand, segments]
  simp only [filterMap_segmentsOf, flatMap_segmentsOf]
  cases missingIn environment places <;> rfl

/-! ### Values -/

/-- The value at a place inside another one: each number leads to an item of a list or to the value of an entry. -/
def Value.at? : Value → List Nat → Option Value
  | value, [] => some value
  | .list items, index :: place => items[index]?.bind fun item => item.at? place
  | .mapping entries, index :: place => entries[index]?.bind fun entry => entry.2.at? place
  | _, _ :: _ => none

/-- The value has nothing in it that could be expanded. -/
def Value.isAtom : Value → Bool
  | .text _ | .list _ | .mapping _ | .circle => false
  | _ => true

/-- What becomes of a value itself, apart from what stands in it: a text is expanded, a list keeps its length, a mapping
    its names in their order, and other values stay. -/
inductive ExpandsTo (environment : Environment) : Value → Value → Prop
  | text {content expanded : String} : expand environment content = .ok expanded →
      ExpandsTo environment (.text content) (.text expanded)
  | list {items others : List Value} : items.length = others.length →
      ExpandsTo environment (.list items) (.list others)
  | mapping {entries others : List (Value × Value)} : entries.map Prod.fst = others.map Prod.fst →
      ExpandsTo environment (.mapping entries) (.mapping others)
  | atom {value : Value} : value.isAtom = true → ExpandsTo environment value value

/-- At every place of the first value the second has what becomes of it, and it has no other places. -/
def ExpandsWithin (environment : Environment) (value result : Value) : Prop :=
  ∀ place, Option.Rel (ExpandsTo environment) (value.at? place) (result.at? place)

theorem expandItems_eq_ok_iff {items others : List Value} : expandItems environment items = .ok others ↔
    List.Forall₂ (fun item other => expandValue environment item = .ok other) items others := by
  induction items generalizing others with
  | nil => cases others <;> simp [expandItems]
  | cons item items ih =>
    rw [expandItems, bind_eq_ok]
    simp only [bind_eq_ok, ih]
    cases others <;> simp [pure, Except.pure, and_comm]

theorem expandEntries_eq_ok_iff {entries others : List (Value × Value)} :
    expandEntries environment entries = .ok others ↔
      List.Forall₂ (fun entry other => entry.1 = other.1 ∧ expandValue environment entry.2 = .ok other.2)
        entries others := by
  induction entries generalizing others with
  | nil => cases others <;> simp [expandEntries]
  | cons entry entries ih =>
    rw [expandEntries, bind_eq_ok]
    simp only [bind_eq_ok, ih]
    cases others <;> simp [pure, Except.pure, Prod.ext_iff, and_assoc, and_left_comm]

theorem forall₂_entries (related : Value → Value → Prop) {entries others : List (Value × Value)} :
    List.Forall₂ (fun entry other => entry.1 = other.1 ∧ related entry.2 other.2) entries others ↔
      entries.map Prod.fst = others.map Prod.fst ∧
        List.Forall₂ (fun entry other => related entry.2 other.2) entries others := by
  induction entries generalizing others with
  | nil => cases others <;> simp
  | cons entry entries ih => cases others <;> simp [ih, and_and_and_comm]

/-- Under the places of two lists the same holds as from item to item. -/
theorem forall_place_iff {α : Type} (inner : α → Value) {items others : List α} (same : items.length = others.length) :
    (∀ (index : Nat) (place : List Nat),
      Option.Rel (ExpandsTo environment) (items[index]?.bind fun item => (inner item).at? place)
        (others[index]?.bind fun other => (inner other).at? place)) ↔
      List.Forall₂ (fun item other => ExpandsWithin environment (inner item) (inner other)) items others := by
  rw [List.forall₂_iff_get]
  constructor
  · intro related
    refine ⟨same, ?_⟩
    intro index below below' place
    have here := related index place
    rwa [List.getElem?_eq_getElem below, List.getElem?_eq_getElem below'] at here
  · rintro ⟨_, related⟩ index place
    by_cases below : index < items.length
    · have below' := same ▸ below
      rw [List.getElem?_eq_getElem below, List.getElem?_eq_getElem below']
      exact related index below below' place
    · rw [List.getElem?_eq_none (Nat.le_of_not_lt below), List.getElem?_eq_none (same ▸ Nat.le_of_not_lt below)]
      exact .none

theorem expandsWithin_list_iff {items : List Value} {result : Value} :
    ExpandsWithin environment (.list items) result ↔
      ∃ others, result = .list others ∧ List.Forall₂ (ExpandsWithin environment) items others := by
  constructor
  · intro within
    cases within [] with
    | some here =>
      cases here with
      | list same => exact ⟨_, rfl, (forall_place_iff id same).1 fun index place => within (index :: place)⟩
      | atom atom => cases atom
  · rintro ⟨others, rfl, related⟩ place
    cases place with
    | nil => exact .some (.list related.length_eq)
    | cons index place => exact (forall_place_iff id related.length_eq).2 related index place

theorem expandsWithin_mapping_iff {entries : List (Value × Value)} {result : Value} :
    ExpandsWithin environment (.mapping entries) result ↔
      ∃ others, result = .mapping others ∧ entries.map Prod.fst = others.map Prod.fst ∧
        List.Forall₂ (fun entry other => ExpandsWithin environment entry.2 other.2) entries others := by
  constructor
  · intro within
    cases within [] with
    | some here =>
      cases here with
      | mapping names =>
        have same := congrArg List.length names
        rw [List.length_map, List.length_map] at same
        exact ⟨_, rfl, names, (forall_place_iff Prod.snd same).1 fun index place => within (index :: place)⟩
      | atom atom => cases atom
  · rintro ⟨others, rfl, names, related⟩ place
    cases place with
    | nil => exact .some (.mapping names)
    | cons index place => exact (forall_place_iff Prod.snd related.length_eq).2 related index place

/-- What stands in no collection becomes what it becomes itself. -/
theorem expandsWithin_leaf_iff {value result : Value} (leaf : ∀ index place, value.at? (index :: place) = none)
    (leafToo : ∀ other, ExpandsTo environment value other → ∀ index place, other.at? (index :: place) = none) :
    ExpandsWithin environment value result ↔ ExpandsTo environment value result := by
  constructor
  · intro within
    cases within [] with
    | some here => exact here
  · intro here place
    cases place with
    | nil => exact .some here
    | cons index place =>
      rw [leaf, leafToo result here]
      exact .none

theorem expandValue_text_iff {content : String} {result : Value} :
    expandValue environment (.text content) = .ok result ↔ ExpandsWithin environment (.text content) result := by
  rw [expandsWithin_leaf_iff (fun _ _ => rfl), expandValue]
  · constructor
    · intro expands
      cases read : expand environment content with
      | error names =>
        rw [read] at expands
        cases expands
      | ok expanded =>
        rw [read] at expands
        cases expands
        exact .text read
    · intro expands
      cases expands with
      | text read => rw [read]
      | atom atom => cases atom
  · intro other expands
    cases expands <;> exact fun _ _ => rfl

theorem expandValue_atom_iff {value result : Value} (atom : value.isAtom = true) :
    expandValue environment value = .ok result ↔ ExpandsWithin environment value result := by
  have stays : expandValue environment value = .ok value := by
    cases value with
    | text | list | mapping | circle => cases atom
    | null | flag | int | float | bytes | moment | group => rfl
  have places : ∀ index place, value.at? (index :: place) = none := by
    cases value with
    | text | list | mapping | circle => cases atom
    | null | flag | int | float | bytes | moment | group => exact fun _ _ => rfl
  have same {other : Value} : ExpandsTo environment value other ↔ value = other := by
    constructor
    · intro expands
      cases expands with
      | atom => rfl
      | text | list | mapping => cases atom
    · rintro rfl
      exact .atom atom
  rw [stays, expandsWithin_leaf_iff places, same]
  · rw [Except.ok.injEq]
  · intro other expands
    exact same.1 expands ▸ places

mutual

theorem expandValue_eq_ok_iff (environment : Environment) :
    ∀ value result, expandValue environment value = .ok result ↔ ExpandsWithin environment value result
  | .list items, result => by
    rw [expandValue, map_eq_ok, expandsWithin_list_iff]
    simp only [expandItems_eq_ok_iff, expandValue_items_iff environment items]
  | .mapping entries, result => by
    rw [expandValue, map_eq_ok, expandsWithin_mapping_iff]
    simp only [expandEntries_eq_ok_iff, forall₂_entries fun value other => expandValue environment value = .ok other,
      expandValue_entries_iff environment entries]
  | .text content, result => expandValue_text_iff
  | .circle, result => by
    -- A collection that holds itself becomes nothing.
    constructor
    · intro expands
      cases expands
    · intro within
      cases within [] with
      | some here =>
        cases here with
        | atom atom => cases atom
  | .null, _ | .flag _, _ | .int _, _ | .float _, _ | .bytes _, _ | .moment, _ | .group, _ => expandValue_atom_iff rfl

theorem expandValue_items_iff (environment : Environment) :
    ∀ items others, List.Forall₂ (fun item other => expandValue environment item = .ok other) items others ↔
      List.Forall₂ (ExpandsWithin environment) items others
  | [], others => by cases others <;> simp
  | item :: items, others => by
    cases others with
    | nil => simp
    | cons other others =>
      rw [List.forall₂_cons, List.forall₂_cons, expandValue_eq_ok_iff environment item,
        expandValue_items_iff environment items]

theorem expandValue_entries_iff (environment : Environment) :
    ∀ entries others : List (Value × Value),
      List.Forall₂ (fun entry other => expandValue environment entry.2 = .ok other.2) entries others ↔
        List.Forall₂ (fun entry other => ExpandsWithin environment entry.2 other.2) entries others
  | [], others => by cases others <;> simp
  | (name, value) :: entries, others => by
    cases others with
    | nil => simp
    | cons other others =>
      rw [List.forall₂_cons, List.forall₂_cons, expandValue_eq_ok_iff environment value,
        expandValue_entries_iff environment entries]

end

/-! ### Failures -/

/-- No collection in the value holds itself. -/
def Value.Finite (value : Value) : Prop :=
  .circle ∉ value.leaves

theorem leafFault?_eq_none_iff {leaf : Value} (finite : leaf ≠ .circle) :
    leafFault? environment leaf = none ↔
      ∀ content, leaf = .text content → ∃ expanded, expand environment content = .ok expanded := by
  cases leaf with
  | text content =>
    rw [leafFault?]
    cases read : expand environment content <;> simp [read]
  | circle => exact absurd rfl finite
  | null | flag | int | float | bytes | moment | group | list | mapping => exact iff_of_true rfl nofun

theorem leafFault?_eq_some_iff {leaf : Value} {failure : Failure} (finite : leaf ≠ .circle) :
    leafFault? environment leaf = some failure ↔ ∃ content names, leaf = .text content ∧
      expand environment content = .error names ∧ failure = .configuration (.missingVariables names) := by
  cases leaf with
  | text content =>
    rw [leafFault?]
    cases read : expand environment content <;> simp [read, eq_comm]
  | circle => exact absurd rfl finite
  | null | flag | int | float | bytes | moment | group | list | mapping => exact iff_of_false nofun (by simp)

theorem expandValue_eq_error_iff {value : Value} {failure : Failure} (finite : value.Finite) :
    expandValue environment value = .error failure ↔ ∃ before content after names,
      value.leaves = before ++ .text content :: after ∧ expand environment content = .error names ∧
        failure = .configuration (.missingVariables names) ∧
        ∀ earlier, .text earlier ∈ before → ∃ expanded, expand environment earlier = .ok expanded := by
  have told : expandValue environment value = .error failure ↔
      World.failureOf (expandValue environment value) = some failure := by
    cases expandValue environment value <;> simp [World.failureOf]
  rw [told, failureOf_expandValue, List.findSome?_eq_some_iff]
  constructor
  · rintro ⟨before, leaf, after, leaves, stops, fine⟩
    rw [Value.Finite, leaves, List.mem_append, List.mem_cons, not_or, not_or] at finite
    obtain ⟨content, names, rfl, missing, rfl⟩ := (leafFault?_eq_some_iff (Ne.symm finite.2.1)).1 stops
    refine ⟨before, content, after, names, leaves, missing, rfl, ?_⟩
    intro earlier member
    exact (leafFault?_eq_none_iff (by simp)).1 (fine _ member) earlier rfl
  · rintro ⟨before, content, after, names, leaves, missing, rfl, fine⟩
    rw [Value.Finite, leaves, List.mem_append, not_or] at finite
    refine ⟨before, .text content, after, leaves, ?_, ?_⟩
    · exact (leafFault?_eq_some_iff (by simp)).2 ⟨content, names, rfl, missing, rfl⟩
    · intro leaf member
      refine (leafFault?_eq_none_iff fun same => finite.1 (same ▸ member)).2 ?_
      rintro earlier rfl
      exact fine earlier member

/-- A text is cut into references and what stands between them in one way, from the left. It is expanded when every
    variable is set or has a default, with each reference replaced by the value or the default and all else kept, and
    otherwise the missing variables are named in order. In a value this is done to every text at any place, and nothing
    else is changed; of a finite value the first text that cannot be expanded is reported. -/
theorem references_replaced_in_one_pass (environment : Environment) :
    (∀ text : String, ∃! cut : List (List Char × Mention) × List Char, Pass text.toList cut.1 cut.2) ∧
    (∀ (text : String) (places : List (List Char × Mention)) (tail : List Char), Pass text.toList places tail →
      fill Mention.written places tail = text.toList ∧
      (∀ result, expand environment text = .ok result ↔ missingIn environment places = [] ∧
        result = String.ofList (fill (Mention.shown environment) places tail)) ∧
      ∀ names, expand environment text = .error names ↔ names ≠ [] ∧ names = missingIn environment places) ∧
    (∀ value result, expandValue environment value = .ok result ↔ ExpandsWithin environment value result) ∧
    ∀ value failure, Value.Finite value → (expandValue environment value = .error failure ↔
      ∃ before content after names, value.leaves = before ++ .text content :: after ∧
        expand environment content = .error names ∧ failure = .configuration (.missingVariables names) ∧
        ∀ earlier, .text earlier ∈ before → ∃ expanded, expand environment earlier = .ok expanded) := by
  refine ⟨?_, ?_, expandValue_eq_ok_iff environment, fun _ _ finite => expandValue_eq_error_iff finite⟩
  · intro text
    obtain ⟨places, tail, pass, _⟩ := exists_pass text.toList
    refine ⟨(places, tail), pass, ?_⟩
    intro cut other
    obtain ⟨rfl, rfl⟩ := pass.unique other
    rfl
  · intro text places tail pass
    refine ⟨pass.fill_written, ?_⟩
    rw [pass.expand_eq environment]
    by_cases complete : missingIn environment places = []
    · simp [complete, eq_comm]
    · simp only [complete, if_false, reduceCtorEq, false_and, implies_true, true_and, Except.error.injEq]
      intro names
      constructor
      · rintro rfl
        exact ⟨complete, rfl⟩
      · exact fun named => named.2.symm

/-! ### An environment and a value -/

theorem not_mentions_of_free {text : List Char} (free : '$' ∉ text) (k : Nat) : ¬ Mentions (text.drop k) := by
  rintro ⟨mention, rest, _, starts⟩
  have member : '$' ∈ text.drop k := by
    rw [starts]
    exact List.mem_cons_self
  exact free (List.mem_of_mem_drop member)

/-- A variable whose value looks like a reference. -/
def lookalike : Environment := [("B", "$\x7bA\x7d")]

/-- Two texts cannot be expanded, and the name of an entry looks like a reference. -/
def nestedTexts : Value :=
  .mapping [(.text "$\x7bA\x7d", .list [.text "$\x7bA:-\x7d", .text "$\x7bC\x7d$\x7bA\x7d"]),
    (.null, .text "$\x7bD\x7d")]

theorem references_replaced_in_one_pass_lookalike :
    Pass "$\x7bA:-x\x7d $\x7bB\x7dy".toList [([], ⟨['A'], some ['x']⟩), ([' '], ⟨['B'], none⟩)] ['y'] ∧
    expand lookalike "$\x7bA:-x\x7d $\x7bB\x7dy" = .ok "x $\x7bA\x7dy" ∧
    nestedTexts.Finite ∧
    expandValue lookalike nestedTexts = .error (.configuration (.missingVariables ["C", "A"])) := by
  obtain ⟨_, texts, _, failures⟩ := references_replaced_in_one_pass lookalike
  have pass : Pass "$\x7bA:-x\x7d $\x7bB\x7dy".toList [([], ⟨['A'], some ['x']⟩), ([' '], ⟨['B'], none⟩)] ['y'] := by
    have first : Mention.WellFormed ⟨['A'], some ['x']⟩ := by
      refine ⟨by simp, by simp, ?_⟩
      rintro _ ⟨⟩
      simp
    have second : Mention.WellFormed ⟨['B'], none⟩ := ⟨by simp, by simp, nofun⟩
    have last : Pass ['y'] [] ['y'] := .done (not_mentions_of_free (by decide))
    have behind : ∀ k < [' '].length, ¬ Mentions (([' '] ++ (Mention.written ⟨['B'], none⟩ ++ ['y'])).drop k) := by
      -- The blank in front of the second reference starts none.
      intro k below
      obtain rfl : k = 0 := Nat.lt_one_iff.1 below
      rintro ⟨mention, rest, _, starts⟩
      exact absurd (List.cons.inj starts).1 (by decide)
    have whole : "$\x7bA:-x\x7d $\x7bB\x7dy".toList = [] ++ (Mention.written ⟨['A'], some ['x']⟩ ++
        ([' '] ++ (Mention.written ⟨['B'], none⟩ ++ ['y']))) := rfl
    rw [whole]
    exact .next (fun _ below => absurd below (Nat.not_lt_zero _)) first (.next behind second last)
  have finite : nestedTexts.Finite := by
    simp [Value.Finite, nestedTexts, Value.leaves, entryLeaves, itemLeaves]
  refine ⟨pass, ((texts _ _ _ pass).2.1 _).2 ⟨by decide +kernel, by decide +kernel⟩, finite, ?_⟩
  refine (failures _ _ finite).2 ⟨[.text "$\x7bA:-\x7d"], _, _, _, rfl, by decide +kernel, rfl, ?_⟩
  intro earlier member
  cases List.mem_singleton.1 member
  exact ⟨"", by decide +kernel⟩

end DiagramWeave
