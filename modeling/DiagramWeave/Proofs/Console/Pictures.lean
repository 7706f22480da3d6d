import DiagramWeave.Console.Markup
import DiagramWeave.Proofs.World.Paths
import Mathlib.Data.List.Infix

/-!
# What pictures and brackets take from a text

Some characters are marks: markup reads them as more than themselves, or a terminal does not show them as they are. Whatever
stands in for a part of a text has fewer marks than that part, as no picture has any. So changes in one place cannot make up
for changes in another, and a text comes out as it went in only if nothing in it was changed.
-/
namespace DiagramWeave.Console

variable {text shown front behind name : List Char} {c : Char}

/-! ### Marks -/

/-- A colon, an opening bracket, a backslash or a control character. -/
def isMark (c : Char) : Bool :=
  c.toNat < 0x20 || c == ':' || c == '[' || c == '\\'

/-- The text has no marks. -/
def Unmarked (text : List Char) : Prop :=
  ∀ c ∈ text, isMark c = false

instance (text : List Char) : Decidable (Unmarked text) :=
  decidable_of_iff ((text.all fun c => !isMark c) = true) (by simp [Unmarked])

/-- What is shown is the text itself, or it has fewer marks. -/
def Thinned (text shown : List Char) : Prop :=
  shown = text ∨ shown.countP isMark < text.countP isMark

namespace Thinned

variable {last other shownToo : List Char}

theorem refl (text : List Char) : Thinned text text :=
  .inl rfl

theorem le (thinned : Thinned text shown) : shown.countP isMark ≤ text.countP isMark := by
  rcases thinned with rfl | fewer
  · exact Nat.le_refl _
  · exact Nat.le_of_lt fewer

theorem trans (thinned : Thinned text shown) (again : Thinned shown last) : Thinned text last := by
  rcases thinned with rfl | fewer
  · exact again
  · exact .inr (Nat.lt_of_le_of_lt again.le fewer)

theorem append (thinned : Thinned text shown) (too : Thinned other shownToo) :
    Thinned (text ++ other) (shown ++ shownToo) := by
  have atMost := thinned.le
  have atMostToo := too.le
  rcases thinned with rfl | fewer
  · rcases too with rfl | fewer
    · exact .inl rfl
    · exact .inr (by rw [List.countP_append, List.countP_append]; omega)
  · exact .inr (by rw [List.countP_append, List.countP_append]; omega)

theorem cons (c : Char) (thinned : Thinned text shown) : Thinned (c :: text) (c :: shown) :=
  (Thinned.refl [c]).append thinned

/-- What is lost in one part is not made up for in the other. -/
theorem append_eq_iff (thinned : Thinned text shown) (too : Thinned other shownToo) :
    shown ++ shownToo = text ++ other ↔ shown = text ∧ shownToo = other := by
  constructor
  · intro same
    have atMost := thinned.le
    have atMostToo := too.le
    have counts := congrArg (List.countP isMark) same
    rw [List.countP_append, List.countP_append] at counts
    constructor
    · exact thinned.resolve_right (by omega)
    · exact too.resolve_right (by omega)
  · rintro ⟨rfl, rfl⟩
    rfl

/-- What was lost does not come back. -/
theorem eq_iff (thinned : Thinned text shown) (again : Thinned shown last) :
    last = text ↔ shown = text ∧ last = shown := by
  constructor
  · rintro rfl
    have same := thinned.resolve_right (Nat.not_lt_of_le again.le)
    exact ⟨same, same.symm⟩
  · rintro ⟨rfl, rfl⟩
    rfl

end Thinned

/-! ### Pictures have no marks -/

/-- The rows are texts of these characters. -/
inductive Spelled : List String → List (List Char) → Prop
  | nil : Spelled [] []
  | cons {letters : List Char} {rows : List String} {spelled : List (List Char)} : Spelled rows spelled →
      Spelled (String.ofList letters :: rows) (letters :: spelled)

theorem unmarked_of_spelled {rows : List String} {spelled : List (List Char)} (same : Spelled rows spelled)
    (unmarked : (spelled.all fun letters => !letters.any isMark) = true) :
    ∀ row ∈ rows, Unmarked row.toList := by
  induction same with
  | nil => exact List.forall_mem_nil _
  | cons _ ih =>
    rw [List.all_cons, Bool.and_eq_true] at unmarked
    refine List.forall_mem_cons.2 ⟨?_, ih unmarked.2⟩
    rw [String.toList_ofList]
    simpa [Unmarked] using unmarked.1

set_option maxRecDepth 4000 in
/-- The table is spelled out once, as its characters are looked at one by one. -/
theorem exists_spelled_pictureRows :
    ∃ spelled, Spelled pictureRows spelled ∧ (spelled.all fun letters => !letters.any isMark) = true := by
  apply Exists.intro
  constructor
  · repeat apply Spelled.cons
    exact .nil
  · decide +kernel

theorem mem_of_pictureBehind? {picture : List Char} {parts : List (List Char)}
    (found : pictureBehind? name parts = some picture) : picture ∈ parts := by
  fun_induction pictureBehind? name parts with
  | case1 picture' rest => 
    cases found
    simp
  | case2 entry picture' rest other ih =>
    exact List.mem_cons_of_mem _ (List.mem_cons_of_mem _ (ih found))
  | case3 => cases found

theorem unmarked_of_picture? {picture : List Char} (found : picture? name = some picture) : Unmarked picture := by
  obtain ⟨spelled, same, unmarked⟩ := exists_spelled_pictureRows
  obtain ⟨row, member, found⟩ := List.exists_of_findSome?_eq_some found
  intro c inside
  have part := mem_of_pictureBehind? found
  have apart : c ≠ ' ' := fun blank => Text.not_mem_of_mem_splitOn part (blank ▸ inside)
  exact unmarked_of_spelled same unmarked row member c ((Text.mem_splitOn apart row.toList).1 ⟨picture, part, inside⟩)

theorem unmarked_of_named? {picture : List Char} (found : named? name = some picture) : Unmarked picture := by
  rw [named?] at found
  generalize same : variants.findSome? _ = parts at found
  obtain ⟨drawn, plain, rfl⟩ := Option.map_eq_some_iff.1 found
  refine List.forall_mem_append.2 ⟨unmarked_of_picture? plain, ?_⟩
  -- Either there is no variant, or its character stands behind the picture.
  cases parts with
  | none => exact List.forall_mem_nil _
  | some part =>
    obtain ⟨⟨ending, mark⟩, listed, ends⟩ := List.exists_of_findSome?_eq_some same
    obtain ⟨front, _, rfl⟩ := Option.map_eq_some_iff.1 ends
    simp only [variants, List.mem_cons, List.not_mem_nil, or_false, Prod.mk.injEq] at listed
    rcases listed with ⟨_, rfl⟩ | ⟨_, rfl⟩ <;> exact List.forall_mem_singleton.2 (by decide)

/-! ### Names between colons -/

/-- What stands between two colons where a picture may be named, read from left to right. -/
def codes (text : List Char) : List (List Char) :=
  match text with
  | [] => []
  | c :: rest =>
    if c = ':' then
      match _found : nameAt? rest with
      | some (name, behind) => name :: codes behind
      | none => codes rest
    else codes rest
termination_by text.length
decreasing_by
  · exact Nat.lt_succ_of_lt (nameAt?_length _found)
  · simp
  · simp

theorem eq_of_nameAt? (found : nameAt? text = some (name, behind)) : text = name ++ ':' :: behind := by
  unfold nameAt? at found
  split at found
  next rest left =>
    cases found
    rw [← left, List.takeWhile_append_dropWhile]
  · cases found

/-- A picture has fewer marks than its name between colons. -/
theorem thinned_named (name : List Char) :
    Thinned (':' :: name ++ [':']) ((named? name).getD (':' :: name ++ [':'])) ∧
      ((named? name).getD (':' :: name ++ [':']) = ':' :: name ++ [':'] ↔ named? name = none) := by
  cases found : named? name with
  | none => exact ⟨.refl _, by simp⟩
  | some picture =>
    have none : picture.countP isMark = 0 := List.countP_eq_zero.2 fun c member => by
      simp [unmarked_of_named? found c member]
    have some : 0 < (':' :: name ++ [':']).countP isMark := List.countP_pos_iff.2 ⟨':', by simp, by decide⟩
    refine ⟨.inr (none ▸ some), iff_of_false ?_ (Option.some_ne_none _)⟩
    rintro same
    rw [Option.getD_some] at same
    rw [same] at none
    omega

/-- Pictures show only where a name of one stands between colons. -/
theorem thinned_withPictures (text : List Char) :
    Thinned text (withPictures text) ∧ (withPictures text = text ↔ ∀ code ∈ codes text, named? code = none) := by
  fun_induction withPictures text with
  | case1 =>
    rw [codes]
    exact ⟨.refl _, iff_of_true rfl (List.forall_mem_nil _)⟩
  | case2 rest name behind found ih =>
    obtain ⟨thinned, same⟩ := thinned_named name
    have split : ':' :: rest = (':' :: name ++ [':']) ++ behind := by
      rw [eq_of_nameAt? found]
      simp
    have listed : codes (':' :: rest) = name :: codes behind := by
      rw [codes, if_pos rfl]
      split
      next other => cases found.symm.trans other; rfl
      next other => cases found.symm.trans other
    rw [listed, List.forall_mem_cons, split]
    exact ⟨thinned.append ih.1, (thinned.append_eq_iff ih.1).trans (and_congr same ih.2)⟩
  | case3 rest none ih =>
    have listed : codes (':' :: rest) = codes rest := by
      rw [codes, if_pos rfl]
      split
      next other => cases none.symm.trans other
      · rfl
    rw [listed, List.cons_inj_right]
    exact ⟨ih.1.cons ':', ih.2⟩
  | case4 c rest other ih =>
    have listed : codes (c :: rest) = codes rest := by rw [codes, if_neg other]
    rw [listed, List.cons_inj_right]
    exact ⟨ih.1.cons c, ih.2⟩

/-! ### Brackets behind backslashes -/

theorem thinned_plainBrackets (text : List Char) :
    Thinned text (plainBrackets text) ∧ (plainBrackets text = text ↔ ¬ ['\\', '['] <:+: text) := by
  fun_induction plainBrackets text with
  | case1 rest ih =>
    have fewer : Thinned ['\\', '['] ['['] := .inr (by decide)
    refine ⟨fewer.append ih.1, iff_of_false ?_ (not_not_intro (List.infix_append [] ['\\', '['] rest))⟩
    rintro same
    cases ((fewer.append_eq_iff ih.1).1 same).1
  | case2 c rest other ih =>
    have apart : ¬ ['\\', '['] <+: c :: rest := by
      rintro ⟨behind, same⟩
      obtain ⟨rfl, rfl⟩ := List.cons.inj same
      exact other _ rfl rfl
    rw [List.cons_inj_right, List.infix_cons_iff, or_iff_right apart]
    exact ⟨ih.1.cons c, ih.2⟩
  | case3 => exact ⟨.refl _, iff_of_true rfl (by simp)⟩

end DiagramWeave.Console
