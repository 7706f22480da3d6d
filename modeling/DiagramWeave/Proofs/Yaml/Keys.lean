import DiagramWeave.Proofs.Failure
import DiagramWeave.Yaml.Construct

/-!
# Names in mappings

A text is the name of one entry of a mapping at most: an entry whose key is met again gets another value and stays where
it is. This holds for all mappings in a value that is read, however deep they stand.
-/
namespace DiagramWeave

/-- The names that are texts. -/
def textNames (entries : List (Value × Value)) : List String :=
  entries.filterMap fun entry => entry.1.text?

/-- No mapping in the value has two entries with one text as their name. -/
inductive Value.NamesOnce : Value → Prop
  | single {value : Value} : (∀ items, value ≠ .list items) → (∀ entries, value ≠ .mapping entries) → NamesOnce value
  | list {items : List Value} : (∀ item ∈ items, NamesOnce item) → NamesOnce (.list items)
  | mapping {entries : List (Value × Value)} : (textNames entries).Nodup → (∀ entry ∈ entries, NamesOnce entry.2) →
      NamesOnce (.mapping entries)

theorem Value.text?_eq_some {value : Value} {name : String} : value.text? = some name ↔ value = .text name := by
  cases value <;> simp [Value.text?]

namespace Yaml.Construct

variable {entries : List (Value × Value)} {key value : Value} {name : String}

/-! ### Keys of one mapping -/

theorem sameKey_of_text? {known : Value} (here : known.text? = some name) (there : key.text? = some name) :
    sameKey known key = true := by
  rw [Value.text?_eq_some.1 here, Value.text?_eq_some.1 there, sameKey]
  exact beq_self_eq_true name

theorem textNames_cons (known old : Value) (entries : List (Value × Value)) :
    textNames ((known, old) :: entries) = known.text?.toList ++ textNames entries := by
  rw [textNames, List.filterMap_cons]
  cases known.text? <;> rfl

theorem mem_textNames_setKey (member : name ∈ textNames (setKey key value entries)) :
    key.text? = some name ∨ name ∈ textNames entries := by
  induction entries with
  | nil =>
    rw [setKey, textNames_cons] at member
    simpa [textNames] using member
  | cons entry entries ih =>
    obtain ⟨known, old⟩ := entry
    rw [setKey] at member
    split at member
    · exact .inr (by rwa [textNames_cons] at member ⊢)
    · rw [textNames_cons, List.mem_append] at member ⊢
      rcases member with here | later
      · exact .inr (.inl here)
      · exact (ih later).imp_right .inr

theorem nodup_textNames_setKey (once : (textNames entries).Nodup) (key value : Value) :
    (textNames (setKey key value entries)).Nodup := by
  induction entries with
  | nil =>
    rw [setKey, textNames_cons]
    cases key.text? <;> simp [textNames]
  | cons entry entries ih =>
    obtain ⟨known, old⟩ := entry
    rw [setKey]
    split
    · rwa [textNames_cons] at once ⊢
    next other =>
      rw [textNames_cons, List.nodup_append] at once ⊢
      refine ⟨once.1, ih once.2.1, ?_⟩
      rintro name here _ later rfl
      rcases mem_textNames_setKey later with there | later
      · exact other (sameKey_of_text? (Option.mem_toList.1 here) there)
      · exact once.2.2 name here name later rfl

theorem mem_setKey {entry : Value × Value} (member : entry ∈ setKey key value entries) :
    entry.2 = value ∨ ∃ old ∈ entries, entry.2 = old.2 := by
  induction entries with
  | nil => exact .inl (List.mem_singleton.1 member ▸ rfl)
  | cons known entries ih =>
    rw [setKey] at member
    split at member
    · rcases List.mem_cons.1 member with rfl | member
      · exact .inl rfl
      · exact .inr ⟨entry, List.mem_cons_of_mem _ member, rfl⟩
    · rcases List.mem_cons.1 member with rfl | member
      · exact .inr ⟨_, List.mem_cons_self, rfl⟩
      · refine (ih member).imp_right ?_
        rintro ⟨old, place, same⟩
        exact ⟨old, List.mem_cons_of_mem _ place, same⟩

/-- What is made entry by entry names no entry twice. -/
theorem namesOnce_foldl {pairs : List (Value × Value)} (fine : ∀ pair ∈ pairs, pair.2.NamesOnce)
    (so : (Value.mapping entries).NamesOnce) :
    (Value.mapping (pairs.foldl (fun result pair => setKey pair.1 pair.2 result) entries)).NamesOnce := by
  induction pairs generalizing entries with
  | nil => exact so
  | cons pair pairs ih =>
    obtain ⟨first, rest⟩ := List.forall_mem_cons.1 fine
    cases so with
    | single _ none => exact absurd rfl (none entries)
    | mapping once inner =>
      refine ih rest (.mapping (nodup_textNames_setKey once _ _) ?_)
      intro entry member
      rcases mem_setKey member with same | ⟨old, place, same⟩
      · exact same ▸ first
      · exact same ▸ inner old place

/-! ### Values -/

theorem namesOnce_scalarValue {tag : Tag} {text : List Char} (read : scalarValue tag text = .ok value) :
    value.NamesOnce := by
  cases tag with
  | null | text =>
    cases read
    exact .single nofun nofun
  | bool | int | float | binary =>
    obtain ⟨_, rfl, _⟩ := map_eq_ok.1 read
    exact .single nofun nofun
  | timestamp =>
    rw [scalarValue, momentValue] at read
    split at read
    · cases read
    · split at read
      · cases read
        exact .single nofun nofun
      · cases read
  | _ => cases read

theorem namesOnce_value {document : Document} {inside : List (List Char)} {tag : Tag} {steps : Nat} {node : Node}
    (made : Construct.value document inside tag steps node = .ok value) : value.NamesOnce := by
  induction steps generalizing inside tag node value with
  | zero => cases made
  | succ steps ih =>
    have groups (items : List Node) : (Value.list (items.map fun _ => .group)).NamesOnce := by
      refine .list fun item member => ?_
      obtain ⟨_, _, rfl⟩ := List.mem_map.1 member
      exact .single nofun nofun
    -- The cases are an alias, which leads on with one step less, a scalar, and the kinds of collections.
    unfold Construct.value at made
    split at made
    · split at made
      · cases made
        exact .single nofun nofun
      · split at made
        · cases made
        · exact ih made
    · split at made
      · obtain ⟨text, _, read⟩ := bind_eq_ok.1 made
        exact namesOnce_scalarValue read
      · split at made
        · obtain ⟨items, rfl, each⟩ := map_eq_ok.1 made
          refine .list fun item member => ?_
          obtain ⟨_, _, inner⟩ := exists_of_mem_mapM each item member
          exact ih inner
        · cases made
          exact groups _
        · cases made
          exact groups _
        · cases made
          exact .single nofun nofun
        · obtain ⟨entries, _, made⟩ := bind_eq_ok.1 made
          obtain ⟨pairs, each, same⟩ := bind_eq_ok.1 made
          cases same
          -- Entries that are taken over may repeat a name, but they too are set one after the other.
          refine namesOnce_foldl ?_ (.mapping List.nodup_nil nofun)
          intro pair member
          obtain ⟨entry, _, both⟩ := exists_of_mem_mapM each pair member
          obtain ⟨key, _, both⟩ := bind_eq_ok.1 both
          obtain ⟨item, inner, same⟩ := bind_eq_ok.1 both
          cases same
          exact ih inner
        · cases made

end Yaml.Construct

/-- No mapping in a value that is read names an entry twice. -/
theorem namesOnce_read {text : List Char} {value : Value} (read : Yaml.read text = .ok value) : value.NamesOnce := by
  rw [Yaml.read] at read
  split at read
  · cases read
  · obtain ⟨document, _, read⟩ := bind_eq_ok.1 read
    split at read
    · cases read
      exact .single nofun nofun
    · obtain ⟨_, _, read⟩ := bind_eq_ok.1 read
      exact Yaml.Construct.namesOnce_value read

end DiagramWeave
