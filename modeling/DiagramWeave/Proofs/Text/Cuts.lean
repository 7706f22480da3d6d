import DiagramWeave.Text.Pieces
import Mathlib.Data.List.DropRight
import Mathlib.Data.List.Infix

/-!
# Where a text is cut

A text is trimmed at its end, split at its last mark, and searched for marks. What is kept or found depends on a single
character in each case: the last one that stays, the one that the text is split at, or one that no mark can reach over.
-/
namespace DiagramWeave

variable {drop : Char → Bool} {c mark : Char} {text front behind dropped : List Char}

/-! ### Runs -/

/-- The text does not go on with a character of the run. -/
def Ends (p : Char → Bool) (text : List Char) : Prop :=
  ∀ c ∈ text.head?, p c = false

section

variable {p : Char → Bool} {run : List Char} (all : ∀ c ∈ run, p c = true) (ends : Ends p behind)
include all ends

theorem takeWhile_append_of_ends : (run ++ behind).takeWhile p = run := by
  rw [List.takeWhile_append_of_pos all]
  cases behind with
  | nil => exact List.append_nil run
  | cons c rest =>
    have stop : p c = false := ends c rfl
    rw [List.takeWhile_cons_of_neg (by simp [stop]), List.append_nil]

theorem dropWhile_append_of_ends : (run ++ behind).dropWhile p = behind := by
  rw [List.dropWhile_append_of_pos all]
  cases behind with
  | nil => rfl
  | cons c rest =>
    have stop : p c = false := ends c rfl
    exact List.dropWhile_cons_of_neg (by simp [stop])

end

/-! ### Trimming -/

theorem exists_dropped_of_trimEnd (drop : Char → Bool) (text : List Char) :
    ∃ dropped, text = Text.trimEnd drop text ++ dropped ∧ ∀ c ∈ dropped, drop c = true := by
  refine ⟨(text.reverse.takeWhile drop).reverse, ?_, fun c member => ?_⟩
  · rw [Text.trimEnd, ← List.reverse_append, List.takeWhile_append_dropWhile, List.reverse_reverse]
  · exact List.mem_takeWhile_imp (List.mem_reverse.1 member)

theorem trimEnd_append (all : ∀ c ∈ dropped, drop c = true) :
    Text.trimEnd drop (text ++ dropped) = Text.trimEnd drop text := by
  rw [Text.trimEnd, List.reverse_append,
    List.dropWhile_append_of_pos fun c member => all c (List.mem_reverse.1 member), Text.trimEnd]

theorem trimEnd_cons (text : List Char) (kept : drop c = false) :
    ∃ tail, Text.trimEnd drop (c :: text) = c :: tail := by
  obtain ⟨dropped, whole, all⟩ := exists_dropped_of_trimEnd drop (c :: text)
  cases trimmed : Text.trimEnd drop (c :: text) with
  | nil =>
    -- All would have been dropped, the character that is kept included.
    rw [trimmed, List.nil_append] at whole
    have := all c (whole ▸ List.mem_cons_self)
    rw [kept] at this
    cases this
  | cons d tail =>
    rw [trimmed, List.cons_append, List.cons.injEq] at whole
    exact ⟨tail, by rw [whole.1]⟩

/-- A last character that is kept keeps all before it. -/
theorem trimEnd_of_getLast? (last : text.getLast? = some c) (kept : drop c = false) : Text.trimEnd drop text = text := by
  obtain ⟨front, rfl⟩ := List.getLast?_eq_some_iff.1 last
  exact List.rdropWhile_concat_neg drop front c (by simp [kept])

/-- Trimming does not get past a character that is kept. -/
theorem trimEnd_append_cons (front text : List Char) (kept : drop c = false) :
    Text.trimEnd drop (front ++ c :: text) = front ++ Text.trimEnd drop (c :: text) := by
  obtain ⟨tail, trimmed⟩ := trimEnd_cons text kept
  have left : (c :: text).reverse.dropWhile drop ≠ [] := by
    intro empty
    rw [Text.trimEnd, empty] at trimmed
    cases trimmed
  rw [Text.trimEnd, List.reverse_append, List.dropWhile_append, if_neg (by simpa using left), List.reverse_append,
    List.reverse_reverse, Text.trimEnd]

/-! ### The last mark -/

theorem splitLast?_eq_none : Text.splitLast? mark text = none ↔ mark ∉ text := by
  induction text with
  | nil => simp [Text.splitLast?]
  | cons d rest ih =>
    rw [Text.splitLast?, List.mem_cons, not_or, ← ih]
    cases Text.splitLast? mark rest with
    | none =>
      by_cases same : d = mark
      · simp [same]
      · simp [same, Ne.symm same]
    | some parts => simp

theorem splitLast?_append (front : List Char) (free : mark ∉ behind) :
    Text.splitLast? mark (front ++ mark :: behind) = some (front, behind) := by
  induction front with
  | nil => simp [Text.splitLast?, splitLast?_eq_none.2 free]
  | cons d front ih => rw [List.cons_append, Text.splitLast?, ih]

/-- The text is split at the mark behind which there is no other. -/
theorem splitLast?_eq_some :
    Text.splitLast? mark text = some (front, behind) ↔ text = front ++ mark :: behind ∧ mark ∉ behind := by
  constructor
  · intro read
    induction text generalizing front with
    | nil => cases read
    | cons d rest ih =>
      rw [Text.splitLast?] at read
      split at read
      · next inner tail found =>
        cases read
        obtain ⟨rfl, free⟩ := ih found
        exact ⟨rfl, free⟩
      · next absent =>
        split at read
        · next same =>
          cases read
          exact ⟨by rw [same, List.nil_append], splitLast?_eq_none.1 absent⟩
        · cases read
  · rintro ⟨rfl, free⟩
    exact splitLast?_append front free

/-! ### Marks of several characters -/

section

variable {first second rest word : List Char} {k : Nat}

/-- A word that reaches over a place has the character that stands there. -/
theorem getElem?_of_across (opens : (first ++ c :: second).drop k = word ++ rest) (starts : k ≤ first.length)
    (ends : first.length < k + word.length) : word[first.length - k]? = some c := by
  have here : (first ++ c :: second)[first.length]? = some c := by simp
  have there : ((first ++ c :: second).drop k)[first.length - k]? = word[first.length - k]? := by
    rw [opens, List.getElem?_append_left (by omega)]
  rwa [List.getElem?_drop, Nat.add_sub_cancel' starts, here, eq_comm] at there

/-- A word does not reach over a character that it does not hold. -/
theorem word_beside (foreign : c ∉ word) (opens : (first ++ c :: second).drop k = word ++ rest) :
    k + word.length ≤ first.length ∨ first.length < k := by
  by_contra across
  exact foreign (List.mem_of_getElem? (getElem?_of_across opens (by omega) (by omega)))

/-- A word that ends within `front` is part of it. -/
theorem exists_drop_eq_word (fits : k + word.length ≤ front.length) (opens : (front ++ behind).drop k = word ++ rest) :
    ∃ left, front.drop k = word ++ left := by
  rw [List.drop_append_of_le_length (by omega)] at opens
  obtain ⟨left, same⟩ := List.prefix_of_prefix_length_le ⟨rest, opens.symm⟩ (List.prefix_append _ _)
    (by rw [List.length_drop]; omega)
  exact ⟨left, same.symm⟩

theorem infix_of_drop (opens : text.drop k = word ++ rest) : word <:+: text :=
  (List.IsPrefix.isInfix ⟨rest, opens.symm⟩).trans (List.drop_suffix _ _).isInfix

end

end DiagramWeave
