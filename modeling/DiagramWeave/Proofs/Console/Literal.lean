import DiagramWeave.Proofs.Console.Joints
import DiagramWeave.Proofs.Console.Wrapping

/-!
# Text that is shown literally

A line of the error stream has a heading in red, text as it was given, and text that is escaped. It shows both texts as they
are, apart from the breaks between its rows, just when nothing in them is read as markup and nothing is lost on the way to
the terminal. In the text that was given there may be no tag at all. In the escaped text tags are kept, but names of
pictures are not, nor is a backslash before a bracket outside of tags, and a single backslash at the end is doubled.
-/
namespace DiagramWeave.Console

variable {text cause front : List Char} {openStyles : List OpenStyle}

/-! ### Backslashes at the end -/

/-- The text ends in one backslash. -/
def LoneSlash (text : List Char) : Prop :=
  text.getLast? = some '\\' ∧ text.dropLast.getLast? ≠ some '\\'

instance (text : List Char) : Decidable (LoneSlash text) :=
  inferInstanceAs (Decidable (_ ∧ _))

theorem loneSlash_iff : LoneSlash text ↔ ∃ front, text = front ++ ['\\'] ∧ front.getLast? ≠ some '\\' := by
  constructor
  · rintro ⟨ends, single⟩
    obtain ⟨front, rfl⟩ := List.getLast?_eq_some_iff.1 ends
    exact ⟨front, rfl, by rwa [List.dropLast_concat] at single⟩
  · rintro ⟨front, rfl, single⟩
    exact ⟨List.getLast?_concat, by rwa [List.dropLast_concat]⟩

theorem doubleLast_of_lone (lone : LoneSlash text) : doubleLast text = text ++ ['\\'] := by
  obtain ⟨front, rfl, single⟩ := loneSlash_iff.1 lone
  rw [doubleLast, List.reverse_append, List.reverse_singleton, List.singleton_append]
  rw [← List.head?_reverse] at single
  split
  next same =>
    obtain ⟨_, before⟩ := List.cons.inj same
    rw [before] at single
    exact absurd rfl single
  · rfl
  next other => exact absurd rfl (other front.reverse)

theorem doubleLast_of_not_lone (several : ¬ LoneSlash text) : doubleLast text = text := by
  unfold doubleLast
  split
  · rfl
  next rest other ends =>
    -- The backslash would be a single one.
    have whole : text = rest.reverse ++ ['\\'] := by rw [← List.reverse_reverse text, ends, List.reverse_cons]
    refine absurd (loneSlash_iff.2 ⟨rest.reverse, whole, ?_⟩) several
    rw [List.getLast?_reverse]
    intro again
    obtain ⟨later, rfl⟩ := List.head?_eq_some_iff.1 again
    exact other later rfl
  · rfl

theorem escaped_append_slash (text : List Char) : escaped (text ++ ['\\']) = escaped text ++ ['\\'] := by
  have free : tagAt? ['\\'] = none := rfl
  rw [escaped_append (apart_slash text), escaped_cons free, escaped_nil]

theorem getLast?_escaped (text : List Char) : (escaped text).getLast? = text.getLast? := by
  induction text using stretches.induct with
  | case1 => rw [escaped_nil]
  | case2 c rest tag behind found ih =>
    obtain ⟨_, whole⟩ := tagAt?_eq_some.1 found
    rw [escaped_of_tag found, whole]
    simp [List.getLast?_append, List.getLast?_cons, ih]
  | case3 c rest free ih => rw [escaped_cons free, List.getLast?_cons, List.getLast?_cons, ih]

theorem loneSlash_escaped : LoneSlash (escaped text) ↔ LoneSlash text := by
  rw [loneSlash_iff, loneSlash_iff]
  constructor
  · rintro ⟨front, whole, single⟩
    have ends := getLast?_escaped text
    rw [whole, List.getLast?_concat] at ends
    obtain ⟨before, rfl⟩ := List.getLast?_eq_some_iff.1 ends.symm
    rw [escaped_append_slash] at whole
    obtain ⟨rfl, _⟩ := List.append_inj' whole rfl
    exact ⟨before, rfl, by rwa [getLast?_escaped] at single⟩
  · rintro ⟨front, rfl, single⟩
    exact ⟨escaped front, escaped_append_slash front, by rwa [getLast?_escaped]⟩

theorem renditions_append_slash (text : List Char) :
    (stretches (text ++ ['\\'])).flatMap Stretch.rendition = (stretches text).flatMap Stretch.rendition ++ ['\\'] := by
  have shows := showStretches_append_slash (escaped text) []
  rw [← escaped_append_slash, stretches_escaped, stretches_escaped, showStretches_doubled, showStretches_doubled] at shows
  exact Except.ok.inj shows

/-! ### On the way to the terminal -/

theorem isMark_of_isDropped {c : Char} (dropped : isDropped c = true) : isMark c = true := by
  simp only [isDropped, List.contains_iff_mem, List.mem_cons, List.not_mem_nil, or_false] at dropped
  rcases dropped with rfl | rfl | rfl | rfl | rfl <;> decide

theorem thinned_filter (text : List Char) :
    Thinned text (text.filter fun c => !isDropped c) ∧
      ((text.filter fun c => !isDropped c) = text ↔ ∀ c ∈ text, isDropped c = false) := by
  have same : (text.filter fun c => !isDropped c) = text ↔ ∀ c ∈ text, isDropped c = false := by
    simp [List.filter_eq_self]
  refine ⟨?_, same⟩
  by_cases kept : ∀ c ∈ text, isDropped c = false
  · exact .inl (same.2 kept)
  · right
    simp only [not_forall, Bool.not_eq_false] at kept
    obtain ⟨c, member, dropped⟩ := kept
    obtain ⟨front, behind, rfl⟩ := List.append_of_mem member
    -- The character that is dropped is a mark, and nothing takes its place.
    have shorter (part : List Char) : (part.filter fun c => !isDropped c).countP isMark ≤ part.countP isMark :=
      List.Sublist.countP_le List.filter_sublist
    have before := shorter front
    have after := shorter behind
    rw [List.filter_append, List.filter_cons_of_neg (by simp [dropped]), List.countP_append, List.countP_append,
      List.countP_cons_of_pos (isMark_of_isDropped dropped)]
    omega

theorem thinned_spread (text : List Char) (column : Nat) :
    Thinned text (spread column text) ∧ (spread column text = text ↔ '\t' ∉ text) := by
  fun_induction spread column text with
  | case1 column => exact ⟨.refl _, iff_of_true rfl List.not_mem_nil⟩
  | case2 column rest ih =>
    refine ⟨ih.1.cons _, ?_⟩
    rw [List.cons_inj_right, ih.2, List.mem_cons]
    simp
  | case3 column rest feed ih =>
    -- A tab is a mark, and the spaces for it are none.
    have spaces : Thinned ['\t'] (List.replicate (tabWidth - column % tabWidth) ' ') := by
      right
      rw [List.countP_replicate, if_neg (by decide)]
      decide
    refine ⟨spaces.append ih.1, iff_of_false ?_ (by simp)⟩
    intro same
    have tab : '\t' ∈ List.replicate (tabWidth - column % tabWidth) ' ' := by
      rw [((spaces.append_eq_iff ih.1).1 same).1]
      exact List.mem_singleton_self _
    cases List.eq_of_mem_replicate tab
  | case4 column c rest feed tab ih =>
    refine ⟨ih.1.cons _, ?_⟩
    rw [List.cons_inj_right, ih.2, List.mem_cons]
    simp [Ne.symm tab]

theorem spread_append_slash (text : List Char) (column : Nat) :
    spread column (text ++ ['\\']) = spread column text ++ ['\\'] := by
  fun_induction spread column text with
  | case1 column => rfl
  | case2 column rest ih => rw [List.cons_append, spread, if_pos rfl, ih, List.cons_append]
  | case3 column rest feed ih => rw [List.cons_append, spread, if_neg feed, if_pos rfl, ih, List.append_assoc]
  | case4 column c rest feed tab ih => rw [List.cons_append, spread, if_neg feed, if_neg tab, ih, List.cons_append]

/-- The text has no tabs and none of the characters that are not shown. -/
def Printed (text : List Char) : Prop :=
  ∀ c ∈ text, c ≠ '\t' ∧ isDropped c = false

instance (text : List Char) : Decidable (Printed text) :=
  decidable_of_iff ((text.all fun c => c ≠ '\t' ∧ isDropped c = false) = true) (by simp [Printed])

/-- Nothing that was lost on one stage comes back on another. -/
theorem spread_filter_eq_iff {told shown : List Char} (thinned : Thinned told shown) :
    spread 0 (shown.filter fun c => !isDropped c) = told ↔ shown = told ∧ Printed told := by
  obtain ⟨filtered, kept⟩ := thinned_filter shown
  obtain ⟨spreads, tabless⟩ := thinned_spread (shown.filter fun c => !isDropped c) 0
  rw [(thinned.trans filtered).eq_iff spreads, thinned.eq_iff filtered, tabless, kept]
  constructor
  · rintro ⟨⟨rfl, whole⟩, free⟩
    rw [kept.2 whole] at free
    exact ⟨rfl, fun c member => ⟨ne_of_mem_of_not_mem member free, whole c member⟩⟩
  · rintro ⟨rfl, printed⟩
    have whole : ∀ c ∈ shown, isDropped c = false := fun c member => (printed c member).2
    rw [kept.2 whole]
    exact ⟨⟨rfl, whole⟩, fun tab => (printed '\t' tab).1 rfl⟩

/-! ### Notices -/

/-- A line for the error stream: a heading in red if there is one, text as it was given, and text that is escaped. -/
structure Notice where
  heading : Option String
  given : String
  cause : String
  /-- The heading is plain text. -/
  unmarked : ∀ label ∈ heading, Unmarked label.toList
  joint : Joint given.toList cause.toList

namespace Notice

variable {notice : Notice}

/-- The line as it is handed to the terminal. -/
def markup (notice : Notice) : String :=
  notice.heading.elim "" (fun label => "[red]" ++ label ++ ":[/red] ") ++ notice.given ++ escape notice.cause

/-- What stands in front of the texts. -/
def title (notice : Notice) : List Char :=
  notice.heading.elim [] fun label => label.toList ++ [':', ' ']

/-- What the line is to tell. -/
def told (notice : Notice) : List Char :=
  notice.title ++ (notice.given.toList ++ notice.cause.toList)

/-- Nothing in the texts is read as markup, and the terminal shows all of their characters. -/
structure Literal (notice : Notice) : Prop where
  tagless : ∀ tag, .tag tag ∉ stretches notice.given.toList
  given : ∀ stretch ∈ stretches notice.given.toList, stretch.Kept
  cause : ∀ stretch ∈ stretches notice.cause.toList, stretch.Kept
  several : ¬ LoneSlash notice.cause.toList
  printed : Printed (notice.given.toList ++ notice.cause.toList)

/-- What is shown of the line is its title, what is shown of the text that was given, and the escaped text with pictures, and
    perhaps a second backslash at its end. -/
theorem shown_markup (notice : Notice) :
    shown notice.markup = (showStretches [] (stretches notice.given.toList)).map fun given =>
      (notice.title ++ (given ++ (stretches notice.cause.toList).flatMap Stretch.rendition) ++
        if LoneSlash notice.cause.toList then ['\\'] else []).filter fun c => !isDropped c := by
  have joined := showStretches_append_escaped notice.joint []
  -- Whatever comes behind the heading is read on its own.
  have titled (rest : List Char) : showStretches []
      (stretches ((notice.heading.elim "" fun label => "[red]" ++ label ++ ":[/red] ").toList ++ rest)) =
        (showStretches [] (stretches rest)).map (notice.title ++ ·) := by
    rw [title]
    cases headed : notice.heading with
    | none => cases same : showStretches [] (stretches rest) <;> simp [same, Except.map]
    | some label => simpa using showStretches_heading (notice.unmarked label headed) rest
  have whole : notice.markup.toList = (notice.heading.elim "" fun label => "[red]" ++ label ++ ":[/red] ").toList ++
      (notice.given.toList ++ doubleLast (escaped notice.cause.toList)) := by
    rw [markup, escape, ← escaped]
    simp
  rw [shown, whole]
  split
  next lone =>
    rw [doubleLast_of_lone (loneSlash_escaped.2 lone), ← List.append_assoc, ← List.append_assoc,
      showStretches_append_slash, List.append_assoc, titled, joined]
    cases showStretches [] (stretches notice.given.toList) <;> simp [Except.map]
  next several =>
    rw [doubleLast_of_not_lone (mt loneSlash_escaped.1 several), titled, joined]
    cases showStretches [] (stretches notice.given.toList) <;> simp [Except.map]

/-- Whatever the width of the terminal, its rows make up what the line is to tell. -/
def ShownLiterally (notice : Notice) : Prop :=
  ∀ width, 2 ≤ width → ∃ rows, print width notice.markup = .ok (withEnds rows) ∧ Wrapped width notice.told rows

theorem printed_title (notice : Notice) : Printed notice.title := by
  have ends : Printed [':', ' '] := by decide
  rw [title]
  cases headed : notice.heading with
  | none => exact List.forall_mem_nil _
  | some label =>
    refine List.forall_mem_append.2 ⟨fun c member => ?_, ends⟩
    have plain := notice.unmarked label headed c member
    constructor
    · rintro rfl
      cases plain
    · by_contra dropped
      cases plain.symm.trans (isMark_of_isDropped (eq_true_of_ne_false dropped))

theorem printed_told (notice : Notice) :
    Printed notice.told ↔ Printed (notice.given.toList ++ notice.cause.toList) := by
  apply List.forall_mem_append.trans
  exact and_iff_right notice.printed_title

/-- What stands before an escaped text does not end in a backslash. -/
theorem getLast?_before (notice : Notice) (some : notice.cause.toList ≠ []) :
    (notice.title ++ notice.given.toList).getLast? ≠ Option.some '\\' := by
  rcases notice.joint with none | none | ⟨⟨front, ends⟩, _⟩
  · rw [none, List.append_nil, title]
    cases notice.heading <;> simp
  · exact absurd none some
  · rw [ends]
    simp

/-- Behind a single backslash the terminal shows a second one. -/
theorem spread_ne_told_of_lone {before : List Char} (lone : LoneSlash notice.cause.toList) :
    spread 0 ((before ++ (stretches notice.cause.toList).flatMap Stretch.rendition ++ ['\\']).filter
      fun c => !isDropped c) ≠ notice.told := by
  intro told
  obtain ⟨front, ends, single⟩ := loneSlash_iff.1 lone
  have whole : notice.told = notice.title ++ notice.given.toList ++ front ++ ['\\'] := by
    rw [Notice.told, ends]
    simp
  have kept : (['\\'].filter fun c => !isDropped c) = ['\\'] := by decide
  rw [whole, ends, renditions_append_slash, ← List.append_assoc, List.filter_append, List.filter_append, kept,
    spread_append_slash, spread_append_slash] at told
  -- So the text that was to be told would end in two backslashes.
  have last := congrArg List.getLast? (List.append_cancel_right told)
  rw [List.getLast?_concat, List.getLast?_append] at last
  cases final : front.getLast? with
  | some c =>
    rw [final] at last single
    exact single last.symm
  | none =>
    rw [final, Option.none_or] at last
    exact notice.getLast?_before (by simp [ends]) last.symm

theorem literal_of_shownLiterally (literally : notice.ShownLiterally) : notice.Literal := by
  cases came : showStretches [] (stretches notice.given.toList) with
  | error fault =>
    obtain ⟨rows, printed, _⟩ := literally 2 (Nat.le_refl 2)
    rw [print, shown_markup, came] at printed
    cases printed
  | ok given =>
    have told := spread_eq_of_wrapped fun width wide => by
      obtain ⟨rows, printed, wrapped⟩ := literally width wide
      rw [print, shown_markup, came] at printed
      exact ⟨rows, Except.ok.inj printed, wrapped⟩
    dsimp only at told
    have several : ¬ LoneSlash notice.cause.toList := by
      intro lone
      rw [if_pos lone, ← List.append_assoc] at told
      exact spread_ne_told_of_lone lone told
    rw [if_neg several, List.append_nil] at told
    -- Now each part can only lose marks, so each comes out as it went in.
    obtain ⟨thinned, tagless⟩ := thinned_showStretches came
    obtain ⟨thinnedCause, cause⟩ := thinned_renditions (stretches notice.cause.toList)
    rw [flatMap_source] at thinned tagless thinnedCause cause
    have whole := (Thinned.refl notice.title).append (thinned.append thinnedCause)
    obtain ⟨shown, printed⟩ := (spread_filter_eq_iff whole).1 told
    obtain ⟨sameGiven, sameCause⟩ := (thinned.append_eq_iff thinnedCause).1 (List.append_cancel_left shown)
    obtain ⟨tagless, kept⟩ := tagless sameGiven
    exact ⟨tagless, kept, cause.1 sameCause, several, notice.printed_told.1 printed⟩

theorem shownLiterally_of_literal (literal : notice.Literal) : notice.ShownLiterally := by
  intro width wide
  have printed := notice.printed_told.2 literal.printed
  have given := showStretches_of_kept literal.tagless literal.given []
  have cause := (thinned_renditions _).2.2 literal.cause
  have whole : (notice.told.filter fun c => !isDropped c) = notice.told :=
    (thinned_filter notice.told).2.2 fun c member => (printed c member).2
  rw [flatMap_source] at given cause
  have shown : shown notice.markup = .ok notice.told := by
    rw [shown_markup, given, cause, if_neg literal.several, Except.map, List.append_nil, ← told, whole]
  have wrapped := wrapped_layOut wide fun tab => (printed '\t' tab).1 rfl
  refine ⟨_, ?_, wrapped⟩
  rw [print, shown]
  rfl

theorem shownLiterally_iff (notice : Notice) : notice.ShownLiterally ↔ notice.Literal :=
  ⟨literal_of_shownLiterally, shownLiterally_of_literal⟩

end Notice

end DiagramWeave.Console
