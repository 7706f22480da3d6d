import DiagramWeave.Proofs.Console.Escape
import DiagramWeave.Proofs.Console.Pictures
import DiagramWeave.Proofs.Failure

/-!
# What stretches of markup show

Markup is read in stretches, and each stretch shows on its own: plain text without the backslashes before its brackets and
with pictures for their names, an escaped tag with pictures in it, and any other tag nothing at all. Where no tag reaches
from one text into the next, the stretches of both are those of the two, and what stands at the joint is shown as it would
be alone.
-/
namespace DiagramWeave.Console

variable {text shown behind front label : List Char} {openStyles : List OpenStyle} {all later : List Stretch} {c : Char}

/-! ### Texts of stretches -/

/-- The text that a stretch is read from. -/
def Stretch.source : Stretch → List Char
  | .plain text => text
  | .tag tagged => List.replicate tagged.slashes '\\' ++ tagged.text

theorem source_beforeAll (c : Char) (all : List Stretch) :
    (Stretch.beforeAll c all).flatMap Stretch.source = c :: all.flatMap Stretch.source := by
  rcases all with _ | ⟨_ | _, all⟩ <;> rfl

theorem flatMap_source (text : List Char) : (stretches text).flatMap Stretch.source = text := by
  induction text using stretches.induct with
  | case1 => rw [stretches, List.flatMap_nil]
  | case2 c rest tag behind found ih =>
    obtain ⟨_, whole⟩ := tagAt?_eq_some.1 found
    rw [stretches_of_tag found, List.flatMap_cons, ih, Stretch.source, whole]
    simp [TagText.text]
  | case3 c rest free ih => rw [stretches_cons free, source_beforeAll, ih]

/-- What a stretch shows when its tag is escaped. -/
def Stretch.rendition : Stretch → List Char
  | .plain text => withPictures (plainBrackets text)
  | .tag tagged => List.replicate tagged.slashes '\\' ++ withPictures tagged.text

/-- No picture is named, and outside of tags no bracket stands behind a backslash. -/
def Stretch.Kept : Stretch → Prop
  | .plain text => ¬ ['\\', '['] <:+: text ∧ ∀ code ∈ codes text, named? code = none
  | .tag tagged => ∀ code ∈ codes tagged.text, named? code = none

instance (stretch : Stretch) : Decidable stretch.Kept :=
  match stretch with
  | .plain text => inferInstanceAs (Decidable (¬ ['\\', '['] <:+: text ∧ ∀ code ∈ codes text, named? code = none))
  | .tag tagged => inferInstanceAs (Decidable (∀ code ∈ codes tagged.text, named? code = none))

theorem thinned_rendition (stretch : Stretch) :
    Thinned stretch.source stretch.rendition ∧ (stretch.rendition = stretch.source ↔ stretch.Kept) := by
  cases stretch with
  | plain text =>
    obtain ⟨brackets, kept⟩ := thinned_plainBrackets text
    obtain ⟨pictures, named⟩ := thinned_withPictures (plainBrackets text)
    refine ⟨brackets.trans pictures, (brackets.eq_iff pictures).trans ?_⟩
    rw [kept, named]
    refine and_congr_right fun free => ?_
    rw [kept.2 free]
  | tag tag =>
    obtain ⟨pictures, named⟩ := thinned_withPictures tag.text
    refine ⟨(Thinned.refl _).append pictures, ?_⟩
    rw [Stretch.rendition, Stretch.source, List.append_cancel_left_eq, named, Stretch.Kept]

theorem thinned_renditions (all : List Stretch) :
    Thinned (all.flatMap Stretch.source) (all.flatMap Stretch.rendition) ∧
      (all.flatMap Stretch.rendition = all.flatMap Stretch.source ↔ ∀ stretch ∈ all, stretch.Kept) := by
  induction all with
  | nil => exact ⟨.refl _, iff_of_true rfl (List.forall_mem_nil _)⟩
  | cons first all ih =>
    obtain ⟨thinned, kept⟩ := thinned_rendition first
    rw [List.flatMap_cons, List.flatMap_cons, List.forall_mem_cons]
    exact ⟨thinned.append ih.1, (thinned.append_eq_iff ih.1).trans (and_congr kept ih.2)⟩

/-! ### What is shown of stretches -/

theorem showStretches_plain (text : List Char) (all : List Stretch) (openStyles : List OpenStyle) :
    showStretches openStyles (.plain text :: all) =
      (showStretches openStyles all).map (withPictures (plainBrackets text) ++ ·) := by
  rw [showStretches]
  cases showStretches openStyles all <;> rfl

theorem showStretches_of_odd {tag : TagText} (odd : tag.slashes % 2 = 1) (all : List Stretch)
    (openStyles : List OpenStyle) : showStretches openStyles (.tag tag :: all) =
      (showStretches openStyles all).map (List.replicate (tag.slashes / 2) '\\' ++ withPictures tag.text ++ ·) := by
  rw [showStretches]
  simp only [if_pos odd]
  cases showStretches openStyles all <;> rfl

theorem showStretches_of_even {tag : TagText} (even : tag.slashes % 2 ≠ 1) (all : List Stretch)
    (openStyles : List OpenStyle) : showStretches openStyles (.tag tag :: all) =
      afterTag openStyles tag.inside >>= fun styles =>
        (showStretches styles all).map (List.replicate (tag.slashes / 2) '\\' ++ ·) := by
  rw [showStretches]
  simp only [if_neg even]
  cases afterTag openStyles tag.inside with
  | error fault => rfl
  | ok styles => cases came : showStretches styles all <;> simp only [bind, Except.bind, came] <;> rfl

theorem countP_slashes (count : Nat) : (List.replicate count '\\').countP isMark = count := by
  rw [List.countP_replicate, if_pos (by decide)]

/-- Of a tag at least its bracket or a backslash is lost. -/
theorem thinned_tag {tag : TagText} {rest : List Char} (later : Thinned behind rest) :
    let slashes := List.replicate (tag.slashes / 2) '\\'
    (slashes ++ rest).countP isMark < (Stretch.source (.tag tag) ++ behind).countP isMark ∧
      (tag.slashes % 2 = 1 → (slashes ++ withPictures tag.text ++ rest).countP isMark <
        (Stretch.source (.tag tag) ++ behind).countP isMark) := by
  have behind := later.le
  have pictures := (thinned_withPictures tag.text).1.le
  have bracket : 0 < tag.text.countP isMark := List.countP_pos_iff.2 ⟨'[', List.mem_cons_self, by decide⟩
  simp only [Stretch.source, List.countP_append, countP_slashes]
  constructor
  · omega
  · intro odd
    omega

/-- Stretches show their text without loss only if there is no tag among them. -/
theorem thinned_showStretches (came : showStretches openStyles all = .ok shown) :
    Thinned (all.flatMap Stretch.source) shown ∧
      (shown = all.flatMap Stretch.source → (∀ tag, .tag tag ∉ all) ∧ ∀ stretch ∈ all, stretch.Kept) := by
  induction all generalizing openStyles shown with
  | nil =>
    cases came
    exact ⟨.refl _, fun _ => ⟨fun _ => List.not_mem_nil, List.forall_mem_nil _⟩⟩
  | cons first all ih =>
    cases first with
    | plain text =>
      rw [showStretches_plain] at came
      obtain ⟨behind, rfl, rest⟩ := map_eq_ok.1 came
      obtain ⟨thinned, kept⟩ := thinned_rendition (.plain text)
      obtain ⟨later, tagless⟩ := ih rest
      rw [List.flatMap_cons]
      refine ⟨thinned.append later, fun same => ?_⟩
      obtain ⟨here, there⟩ := (thinned.append_eq_iff later).1 same
      obtain ⟨noTag, others⟩ := tagless there
      refine ⟨fun tag member => ?_, List.forall_mem_cons.2 ⟨kept.1 here, others⟩⟩
      rcases List.mem_cons.1 member with same | member
      · cases same
      · exact noTag tag member
    | tag tag =>
      have fewer : shown.countP isMark < ((Stretch.tag tag :: all).flatMap Stretch.source).countP isMark := by
        rw [List.flatMap_cons]
        by_cases odd : tag.slashes % 2 = 1
        · rw [showStretches_of_odd odd] at came
          obtain ⟨behind, rfl, rest⟩ := map_eq_ok.1 came
          exact (thinned_tag (ih rest).1).2 odd
        · rw [showStretches_of_even odd] at came
          obtain ⟨styles, _, came⟩ := bind_eq_ok.1 came
          obtain ⟨behind, rfl, rest⟩ := map_eq_ok.1 came
          exact (thinned_tag (ih rest).1).1
      exact ⟨.inr fewer, fun same => absurd fewer (by rw [same]; exact Nat.lt_irrefl _)⟩

theorem showStretches_of_kept (tagless : ∀ tag, .tag tag ∉ all) (kept : ∀ stretch ∈ all, stretch.Kept)
    (openStyles : List OpenStyle) : showStretches openStyles all = .ok (all.flatMap Stretch.source) := by
  induction all with
  | nil => rfl
  | cons first all ih =>
    obtain ⟨here, others⟩ := List.forall_mem_cons.1 kept
    have rest := ih (fun tag member => tagless tag (List.mem_cons_of_mem _ member)) others
    cases first with
    | plain text =>
      have same : withPictures (plainBrackets text) = text := (thinned_rendition (.plain text)).2.2 here
      rw [showStretches_plain, rest, same, Except.map, List.flatMap_cons, Stretch.source]
    | tag tag => exact absurd List.mem_cons_self (tagless tag)

end DiagramWeave.Console
