import DiagramWeave.Console.Layout
import DiagramWeave.Proofs.Block.FoundAgain

/-!
# Escaped text can be shown

Markup cannot be shown when a tag closes what is not open. Escaping puts an odd number of backslashes before every tag,
and neither what it puts in nor the backslash it may double at the end makes a tag where there was none. So all tags of
an escaped text are plain text, and a line of markup with a heading and an escaped text is always shown.
-/
namespace DiagramWeave.Console

variable {text inside behind : List Char} {slashes : Nat} {openStyles : List OpenStyle}

/-! ### Tags -/

/-- The character is no bracket. -/
def notBracket (c : Char) : Bool :=
  c != '[' && c != ']'

/-- The inside of a tag: a character that may stand first, and no brackets. -/
def IsInside (inside : List Char) : Prop :=
  ∃ c rest, inside = c :: rest ∧ startsTag c = true ∧ ∀ d ∈ rest, notBracket d = true

theorem notBracket_of_startsTag {c : Char} (starts : startsTag c = true) : notBracket c = true := by
  by_contra bracket
  have which : c = '[' ∨ c = ']' := by
    by_contra neither
    simp only [not_or] at neither
    exact bracket (by simp [notBracket, neither.1, neither.2])
  rcases which with rfl | rfl <;> cases starts

theorem IsInside.notBracket (valid : IsInside inside) : ∀ c ∈ inside, notBracket c = true := by
  obtain ⟨c, rest, rfl, starts, all⟩ := valid
  exact List.forall_mem_cons.2 ⟨notBracket_of_startsTag starts, all⟩

theorem tagInside?_eq_some :
    tagInside? text = some (inside, behind) ↔ IsInside inside ∧ text = inside ++ ']' :: behind := by
  constructor
  · intro found
    unfold tagInside? at found
    split at found
    next c rest =>
      split at found
      next starts =>
        split at found
        next behind' closed =>
          cases found
          refine ⟨⟨c, _, rfl, starts, fun d member => List.mem_takeWhile_imp member⟩, ?_⟩
          rw [List.cons_append, ← closed, List.takeWhile_append_dropWhile]
        · cases found
      · cases found
    · cases found
  · rintro ⟨⟨c, rest, rfl, starts, all⟩, rfl⟩
    obtain ⟨taken, left⟩ := span_append behind all (by decide : notBracket ']' = false)
    have left' : (rest ++ ']' :: behind).dropWhile (fun c => c != '[' && c != ']') = ']' :: behind := left
    have taken' : (rest ++ ']' :: behind).takeWhile (fun c => c != '[' && c != ']') = rest := taken
    simp only [List.cons_append, tagInside?, starts, if_true, left', taken']

/-- A tag is what stands in its brackets, with the backslashes before them. -/
theorem tagAt?_eq_some : tagAt? text = some (⟨slashes, inside⟩, behind) ↔
    IsInside inside ∧ text = List.replicate slashes '\\' ++ '[' :: (inside ++ ']' :: behind) := by
  have slash : ('[' == '\\') = false := by decide
  constructor
  · intro found
    unfold tagAt? at found
    dsimp only at found
    split at found
    next rest opened =>
      obtain ⟨⟨inside, behind'⟩, inner, same⟩ := Option.map_eq_some_iff.1 found
      cases same
      obtain ⟨valid, rfl⟩ := tagInside?_eq_some.1 inner
      refine ⟨valid, ?_⟩
      have slashes : text.takeWhile (· == '\\') =
          List.replicate (text.takeWhile (· == '\\')).length '\\' := by
        apply List.eq_replicate_of_mem
        intro c member
        have backslash := List.mem_takeWhile_imp member
        exact eq_of_beq backslash
      rw [← slashes, ← opened, List.takeWhile_append_dropWhile]
    · cases found
  · rintro ⟨valid, rfl⟩
    have all : ∀ c ∈ List.replicate slashes '\\', (c == '\\') = true := by
      intro c member
      rw [List.eq_of_mem_replicate member]
      rfl
    obtain ⟨taken, left⟩ := span_append (inside ++ ']' :: behind) all slash
    rw [tagAt?]
    simp only [taken, left, tagInside?_eq_some.2 ⟨valid, rfl⟩, Option.map_some, List.length_replicate]

theorem tagAt?_cons {c : Char} (bracket : c ≠ '[') (slash : c ≠ '\\') : tagAt? (c :: text) = none := by
  by_contra present
  obtain ⟨⟨⟨slashes, inside⟩, behind⟩, found⟩ := Option.ne_none_iff_exists'.1 present
  obtain ⟨_, whole⟩ := tagAt?_eq_some.1 found
  cases slashes with
  | zero => exact bracket (List.cons.inj whole).1
  | succ => exact slash (List.cons.inj whole).1

/-! ### Stretches of a text -/

theorem stretches_of_tag (found : tagAt? text = some (⟨slashes, inside⟩, behind)) :
    stretches text = .tag ⟨slashes, inside⟩ :: stretches behind := by
  cases text with
  | nil => cases found
  | cons c rest =>
    rw [stretches]
    split
    next tag' behind' found' =>
      cases found.symm.trans found'
      rfl
    next free => cases found.symm.trans free

theorem stretches_cons {c : Char} (free : tagAt? (c :: text) = none) :
    stretches (c :: text) = Stretch.beforeAll c (stretches text) := by
  rw [stretches]
  split
  next found => cases free.symm.trans found
  · rfl

theorem mem_beforeAll {c : Char} {tag : TagText} {all : List Stretch} :
    .tag tag ∈ Stretch.beforeAll c all ↔ .tag tag ∈ all := by
  rcases all with _ | ⟨_ | _, all⟩ <;> simp [Stretch.beforeAll]

/-- All tags of the text are plain text, as an odd number of backslashes stands before each. -/
def Plain (text : List Char) : Prop :=
  ∀ tag, .tag tag ∈ stretches text → tag.slashes % 2 = 1

theorem plain_nil : Plain [] := by
  intro tag member
  rw [stretches] at member
  cases member

theorem plain_of_tag (found : tagAt? text = some (⟨slashes, inside⟩, behind)) :
    Plain text ↔ slashes % 2 = 1 ∧ Plain behind := by
  simp only [Plain, stretches_of_tag found, List.mem_cons, Stretch.tag.injEq, forall_eq_or_imp]

theorem plain_cons {c : Char} (free : tagAt? (c :: text) = none) : Plain (c :: text) ↔ Plain text := by
  simp only [Plain, stretches_cons free, mem_beforeAll]

/-- A backslash at the end belongs to no tag. -/
theorem tagAt?_append_slash :
    tagAt? (text ++ ['\\']) = (tagAt? text).map fun (tag, behind) => (tag, behind ++ ['\\']) := by
  cases found : tagAt? text with
  | some parts =>
    obtain ⟨⟨slashes, inside⟩, behind⟩ := parts
    obtain ⟨valid, rfl⟩ := tagAt?_eq_some.1 found
    apply tagAt?_eq_some.2 ⟨valid, ?_⟩
    simp only [List.append_assoc, List.cons_append]
  | none =>
    by_contra present
    obtain ⟨⟨⟨slashes, inside⟩, behind⟩, longer⟩ := Option.ne_none_iff_exists'.1 present
    obtain ⟨valid, whole⟩ := tagAt?_eq_some.1 longer
    rcases List.eq_nil_or_concat' behind with rfl | ⟨front, last, rfl⟩
    · -- The tag would end in a backslash.
      have split : List.replicate slashes '\\' ++ '[' :: (inside ++ [']']) =
          (List.replicate slashes '\\' ++ '[' :: inside) ++ [']'] := by simp
      have ends := (List.append_inj' (whole.trans split) rfl).2
      cases ends
    · have split : List.replicate slashes '\\' ++ '[' :: (inside ++ ']' :: (front ++ [last])) =
          (List.replicate slashes '\\' ++ '[' :: (inside ++ ']' :: front)) ++ [last] := by simp
      have shorter := (List.append_inj' (whole.trans split) rfl).1
      cases found.symm.trans (tagAt?_eq_some.2 ⟨valid, shorter⟩)

theorem Plain.append_slash (plain : Plain text) : Plain (text ++ ['\\']) := by
  -- The longer text is read as the shorter one is, stretch by stretch.
  induction text using stretches.induct with
  | case1 => exact (plain_cons rfl).2 plain_nil
  | case2 c rest tag behind found ih =>
    have longer : tagAt? (c :: rest ++ ['\\']) = some (tag, behind ++ ['\\']) := by
      rw [tagAt?_append_slash, found]
      rfl
    obtain ⟨odd, later⟩ := (plain_of_tag found).1 plain
    exact (plain_of_tag longer).2 ⟨odd, ih later⟩
  | case3 c rest free ih =>
    have longer : tagAt? (c :: rest ++ ['\\']) = none := by
      rw [tagAt?_append_slash, free]
      rfl
    exact (plain_cons longer).2 (ih ((plain_cons free).1 plain))

/-! ### Escaping -/

/-- The text with its tags made plain text. -/
def escaped (text : List Char) : List Char :=
  (stretches text).flatMap Stretch.escaped

theorem escaped_nil : escaped [] = [] := by
  rw [escaped, stretches, List.flatMap_nil]

theorem escaped_of_tag (found : tagAt? text = some (⟨slashes, inside⟩, behind)) :
    escaped text = List.replicate (2 * slashes + 1) '\\' ++ '[' :: (inside ++ ']' :: escaped behind) := by
  rw [escaped, stretches_of_tag found, List.flatMap_cons, Stretch.escaped, ← escaped]
  simp only [TagText.text, List.append_assoc, List.cons_append, List.nil_append]

theorem escaped_cons {c : Char} (free : tagAt? (c :: text) = none) : escaped (c :: text) = c :: escaped text := by
  rw [escaped, stretches_cons free, escaped]
  rcases stretches text with _ | ⟨_ | _, all⟩ <;> rfl

/-- The first bracket of an escaped text closes what the first bracket of the text closes. -/
theorem closes_of_escaped {front : List Char} (free : ∀ c ∈ front, notBracket c = true)
    (closed : escaped text = front ++ ']' :: behind) : ∃ behind, text = front ++ ']' :: behind := by
  induction text using stretches.induct generalizing front with
  | case1 =>
    rw [escaped_nil] at closed
    cases front <;> cases closed
  | case2 c rest tag left found ih =>
    -- The first bracket of a tag opens.
    rw [escaped_of_tag found] at closed
    have slashes : ∀ c ∈ List.replicate (2 * tag.slashes + 1) '\\', notBracket c = true := by
      intro c member
      rw [List.eq_of_mem_replicate member]
      rfl
    obtain ⟨_, same⟩ := span_unique closed slashes (by decide) free (by decide)
    cases same
  | case3 c rest none ih =>
    rw [escaped_cons none] at closed
    cases front with
    | nil =>
      cases closed
      exact ⟨rest, rfl⟩
    | cons d front =>
      obtain ⟨rfl, later⟩ := List.cons.inj closed
      obtain ⟨behind, rfl⟩ := ih (fun e member => free e (List.mem_cons_of_mem _ member)) later
      exact ⟨behind, rfl⟩

/-- Escaping makes no tag where there was none. -/
theorem tagAt?_escaped (free : tagAt? text = none) : tagAt? (escaped text) = none := by
  induction text with
  | nil =>
    rw [escaped_nil]
    rfl
  | cons c rest ih =>
    rw [escaped_cons free]
    by_contra present
    obtain ⟨⟨⟨slashes, inside⟩, behind⟩, found⟩ := Option.ne_none_iff_exists'.1 present
    obtain ⟨valid, whole⟩ := tagAt?_eq_some.1 found
    cases slashes with
    | zero =>
      -- The brackets stood in the text.
      obtain ⟨rfl, later⟩ := List.cons.inj whole
      obtain ⟨behind, rfl⟩ := closes_of_escaped valid.notBracket later
      have tagged : tagAt? ('[' :: (inside ++ ']' :: behind)) = some (⟨0, inside⟩, behind) :=
        tagAt?_eq_some.2 ⟨valid, rfl⟩
      cases free.symm.trans tagged
    | succ slashes =>
      -- A backslash is before the tag, so the tag stood in the rest.
      obtain ⟨rfl, later⟩ := List.cons.inj whole
      cases shorter : tagAt? rest with
      | none => cases (ih shorter).symm.trans (tagAt?_eq_some.2 ⟨valid, later⟩)
      | some parts =>
        obtain ⟨⟨slashes, inside⟩, left⟩ := parts
        obtain ⟨valid, rfl⟩ := tagAt?_eq_some.1 shorter
        have tagged : tagAt? ('\\' :: (List.replicate slashes '\\' ++ '[' :: (inside ++ ']' :: left))) =
            some (⟨slashes + 1, inside⟩, left) :=
          tagAt?_eq_some.2 ⟨valid, rfl⟩
        cases free.symm.trans tagged

theorem plain_escaped (text : List Char) : Plain (escaped text) := by
  -- The escaped text has the tags of the text, and twice and one the number of backslashes is odd.
  induction text using stretches.induct with
  | case1 =>
    rw [escaped_nil]
    exact plain_nil
  | case2 c rest tag behind found ih =>
    obtain ⟨valid, _⟩ := tagAt?_eq_some.1 found
    have tagged := tagAt?_eq_some.2 ⟨valid, escaped_of_tag found⟩
    exact (plain_of_tag tagged).2 ⟨Nat.mul_add_mod 2 tag.slashes 1, ih⟩
  | case3 c rest free ih =>
    have free' := tagAt?_escaped free
    rw [escaped_cons free] at free' ⊢
    exact (plain_cons free').2 ih

theorem plain_escape (text : String) : Plain (escape text).toList := by
  have plain : Plain (escaped text.toList) := plain_escaped text.toList
  rw [escape, String.toList_ofList]
  show Plain (doubleLast (escaped text.toList))
  unfold doubleLast
  split
  · exact plain
  · exact plain.append_slash
  · exact plain

/-! ### Showing -/

/-- The markup can be shown while some styles are open. -/
def Shows (openStyles : List OpenStyle) (markup : List Char) : Prop :=
  ∃ result, showStretches openStyles (stretches markup) = .ok result

theorem Plain.shows (plain : Plain text) (openStyles : List OpenStyle) : Shows openStyles text := by
  have all (stretches : List Stretch) (odd : ∀ tag, .tag tag ∈ stretches → tag.slashes % 2 = 1) :
      ∃ result, showStretches openStyles stretches = .ok result := by
    induction stretches with
    | nil => exact ⟨[], rfl⟩
    | cons first rest ih =>
      obtain ⟨result, later⟩ := ih fun tag member => odd tag (List.mem_cons_of_mem _ member)
      cases first with
      | plain text =>
        rw [showStretches, later]
        exact ⟨_, rfl⟩
      | tag tag =>
        rw [showStretches]
        simp only [if_pos (odd tag List.mem_cons_self), later]
        exact ⟨_, rfl⟩
  exact all (stretches text) plain

theorem Shows.cons {c : Char} (free : tagAt? (c :: text) = none) (shows : Shows openStyles text) :
    Shows openStyles (c :: text) := by
  obtain ⟨result, came⟩ := shows
  rw [Shows, stretches_cons free]
  generalize stretches text = all at came
  rcases all with _ | ⟨first | tag, all⟩
  · exact ⟨_, rfl⟩
  · rw [showStretches] at came
    cases later : showStretches openStyles all with
    | error fault =>
      rw [later] at came
      cases came
    | ok result =>
      simp only [Stretch.beforeAll, showStretches, later]
      exact ⟨_, rfl⟩
  · simp only [Stretch.beforeAll]
    rw [showStretches, came]
    exact ⟨_, rfl⟩

theorem Shows.append {front : List Char} (shows : Shows openStyles text) (free : ∀ c ∈ front, c ≠ '[' ∧ c ≠ '\\') :
    Shows openStyles (front ++ text) := by
  induction front with
  | nil => exact shows
  | cons c front ih =>
    obtain ⟨⟨bracket, slash⟩, others⟩ := List.forall_mem_cons.1 free
    exact .cons (tagAt?_cons bracket slash) (ih others)

/-- A tag without backslashes switches its style. -/
theorem Shows.switch {styles : List OpenStyle} (valid : IsInside inside)
    (after : afterTag openStyles inside = .ok styles) (shows : Shows styles text) :
    Shows openStyles ('[' :: (inside ++ ']' :: text)) := by
  obtain ⟨result, came⟩ := shows
  have found : tagAt? ('[' :: (inside ++ ']' :: text)) = some (⟨0, inside⟩, text) :=
    tagAt?_eq_some.2 ⟨valid, rfl⟩
  rw [Shows, stretches_of_tag found, showStretches]
  simp only [Nat.zero_mod, Nat.zero_ne_one, if_false, after, bind, Except.bind, came]
  exact ⟨_, rfl⟩

theorem closes_bare (name : List Char) : closes ⟨name, none⟩ = .ok () := by
  unfold closes
  split
  next given => cases given
  · rfl

theorem afterTag_red : afterTag [] ['r', 'e', 'd'] = .ok [⟨normalStyle ['r', 'e', 'd'], none⟩] := by
  have bare : Text.splitFirst? '=' ['r', 'e', 'd'] = none := by decide +kernel
  rw [afterTag, bare]
  rfl

theorem afterTag_endRed : afterTag [⟨normalStyle ['r', 'e', 'd'], none⟩] ['/', 'r', 'e', 'd'] = .ok [] := by
  have bare : Text.splitFirst? '=' ['/', 'r', 'e', 'd'] = none := by decide +kernel
  have closed : Text.trim Text.isBlank ['r', 'e', 'd'] = ['r', 'e', 'd'] := by decide +kernel
  rw [afterTag, bare]
  simp only [closed]
  -- Whatever the normal form of the style is, it is that of the style that is open.
  generalize normalStyle ['r', 'e', 'd'] = style
  have named : takeOpen? style [⟨style, none⟩] = some (⟨style, none⟩, []) := if_pos rfl
  rw [named]
  simp only [closes_bare]
  rfl

theorem isInside_red : IsInside ['r', 'e', 'd'] :=
  ⟨'r', ['e', 'd'], rfl, by decide, by simp [notBracket]⟩

theorem isInside_endRed : IsInside ['/', 'r', 'e', 'd'] :=
  ⟨'/', ['r', 'e', 'd'], rfl, by decide, by simp [notBracket]⟩

/-- A red heading and an escaped text can be shown. -/
theorem print_escape (width : Nat) {heading : String} (unbracketed : '[' ∉ heading.toList)
    (unslashed : '\\' ∉ heading.toList) (message : String) : ∃ notice, print width ("[red]" ++ heading ++ "[/red] " ++ escape message) = .ok notice := by
  have free : ∀ c ∈ heading.toList, c ≠ '[' ∧ c ≠ '\\' := by
    intro c member
    exact ⟨ne_of_mem_of_not_mem member unbracketed, ne_of_mem_of_not_mem member unslashed⟩
  have shows : Shows [] ("[red]" ++ heading ++ "[/red] " ++ escape message).toList := by
    have behind := ((plain_escape message).shows []).cons (tagAt?_cons (by decide) (by decide) : tagAt? (' ' :: _) = none)
    have closed := Shows.switch isInside_endRed afterTag_endRed behind
    have opened := Shows.switch isInside_red afterTag_red (closed.append free)
    simpa using opened
  obtain ⟨result, came⟩ := shows
  rw [print, shown, came]
  exact ⟨_, rfl⟩

end DiagramWeave.Console
