import DiagramWeave.Proofs.Console.Stretches

/-!
# Markup put together

A tag may reach from one text into the next, and so may the name of a picture. Where neither is the case, the stretches of
both texts together are those of the one and of the other, but that plain text meets plain text, and both show what each of
them shows alone. This is so in front of a blank, and in front of a backslash that ends the text.
-/
namespace DiagramWeave.Console

variable {text behind front inside : List Char} {openStyles : List OpenStyle} {all later : List Stretch} {c : Char}

/-! ### Stretches -/

/-- The stretches of one text and of another behind it: plain text that meets plain text is one stretch with it. -/
def Stretch.meld : List Stretch → List Stretch → List Stretch
  | [.plain text], .plain more :: later => .plain (text ++ more) :: later
  | first :: all, later => first :: Stretch.meld all later
  | [], later => later

theorem meld_tag (tag : TagText) (all later : List Stretch) :
    Stretch.meld (.tag tag :: all) later = .tag tag :: Stretch.meld all later := by
  rw [Stretch.meld]
  simp

theorem meld_plain_cons (text : List Char) (first : Stretch) (all later : List Stretch) :
    Stretch.meld (.plain text :: first :: all) later = .plain text :: Stretch.meld (first :: all) later := by
  rw [Stretch.meld]
  simp

theorem beforeAll_meld (c : Char) (all later : List Stretch) :
    Stretch.beforeAll c (Stretch.meld all later) = Stretch.meld (Stretch.beforeAll c all) later := by
  cases all with
  | nil => rcases later with _ | ⟨_ | _, later⟩ <;> rfl
  | cons first all =>
    cases first with
    | tag tag =>
      rw [meld_tag, Stretch.beforeAll, Stretch.beforeAll, meld_plain_cons, meld_tag]
      all_goals simp
    | plain text =>
      cases all with
      | nil => rcases later with _ | ⟨_ | _, later⟩ <;> rfl
      | cons second all => rw [meld_plain_cons, Stretch.beforeAll, Stretch.beforeAll, meld_plain_cons]

/-- No tag reaches from one text into the next. -/
def Apart (text behind : List Char) : Prop :=
  ∀ rest, rest ≠ [] → rest <:+ text →
    tagAt? (rest ++ behind) = (tagAt? rest).map fun (tag, left) => (tag, left ++ behind)

theorem Apart.of_suffix {rest : List Char} (apart : Apart text behind) (ends : rest <:+ text) : Apart rest behind :=
  fun other some ends' => apart other some (ends'.trans ends)

theorem stretches_append (apart : Apart text behind) :
    stretches (text ++ behind) = Stretch.meld (stretches text) (stretches behind) := by
  -- The stretches of the text are found again in front of the other text, one after the other.
  induction text using stretches.induct with
  | case1 =>
    rw [List.nil_append, stretches.eq_def []]
    rfl
  | case2 c rest tag left found ih =>
    have longer : tagAt? (c :: rest ++ behind) = some (tag, left ++ behind) := by
      rw [apart (c :: rest) (List.cons_ne_nil c rest) List.suffix_rfl, found]
      rfl
    obtain ⟨_, whole⟩ := tagAt?_eq_some.1 found
    have ends : left <:+ c :: rest :=
      ⟨List.replicate tag.slashes '\\' ++ '[' :: (tag.inside ++ [']']), by simp [whole]⟩
    rw [stretches_of_tag longer, stretches_of_tag found, meld_tag, ih (apart.of_suffix ends)]
  | case3 c rest free ih =>
    have longer : tagAt? (c :: (rest ++ behind)) = none := by
      rw [← List.cons_append, apart (c :: rest) (List.cons_ne_nil c rest) List.suffix_rfl, free]
      rfl
    rw [List.cons_append, stretches_cons longer, stretches_cons free, ih (apart.of_suffix (List.suffix_cons c rest)),
      beforeAll_meld]

theorem apart_slash (text : List Char) : Apart text ['\\'] :=
  fun _ _ _ => tagAt?_append_slash

/-- A blank in a tag stands in its brackets. -/
theorem mem_inside_of_blank {slashes : Nat}
    (same : List.replicate slashes '\\' ++ '[' :: inside = front ++ ' ' :: behind) (member : c ∈ behind) : c ∈ inside := by
  rcases List.append_eq_append_iff.1 same with ⟨tagged, _, inner⟩ | ⟨tagged, backslashes, inner⟩
  · rcases tagged with _ | ⟨_, tagged⟩
    · cases inner
    · obtain ⟨_, rfl⟩ := List.cons.inj inner
      simp [member]
  · rcases tagged with _ | ⟨d, tagged⟩
    · cases inner
    · obtain ⟨rfl, _⟩ := List.cons.inj inner
      have blank : ' ' ∈ List.replicate slashes '\\' := by
        rw [backslashes]
        simp
      cases List.eq_of_mem_replicate blank

/-- The first bracket of the text does not close anything. -/
def Opens (text : List Char) : Prop :=
  ∀ front behind, (∀ c ∈ front, notBracket c = true) → text ≠ front ++ ']' :: behind

/-- A tag that began before a blank would be closed behind it. -/
theorem apart_blank (opens : Opens behind) : Apart (text ++ [' ']) behind := by
  intro rest some ends
  obtain ⟨front, rfl, _⟩ := (List.suffix_concat_iff.1 ends).resolve_left some
  cases found : tagAt? (front ++ [' ']) with
  | some parts =>
    obtain ⟨⟨slashes, inside⟩, left⟩ := parts
    obtain ⟨valid, whole⟩ := tagAt?_eq_some.1 found
    apply tagAt?_eq_some.2 ⟨valid, ?_⟩
    rw [whole]
    simp only [List.append_assoc, List.cons_append]
  | none =>
    by_contra present
    obtain ⟨⟨⟨slashes, inside⟩, left⟩, longer⟩ := Option.ne_none_iff_exists'.1 present
    obtain ⟨valid, whole⟩ := tagAt?_eq_some.1 longer
    have split : List.replicate slashes '\\' ++ '[' :: (inside ++ ']' :: left) =
        (List.replicate slashes '\\' ++ '[' :: inside) ++ ']' :: left := by simp
    rcases List.append_eq_append_iff.1 (whole.trans split) with ⟨tail, reaches, closed⟩ | ⟨tail, reaches, closed⟩
    · -- The tag reaches into the other text, so its last bracket is the first there.
      rw [List.append_assoc, List.singleton_append] at reaches
      exact opens tail left (fun c member => valid.notBracket c (mem_inside_of_blank reaches member)) closed
    · rcases tail with _ | ⟨d, tail⟩
      · exact opens [] left (List.forall_mem_nil _) closed.symm
      · -- The tag ends in the text.
        obtain ⟨rfl, _⟩ := List.cons.inj closed
        rw [List.append_assoc, List.cons_append] at reaches
        cases found.symm.trans (tagAt?_eq_some.2 ⟨valid, reaches⟩)

theorem opens_escaped (opens : Opens text) : Opens (escaped text) := by
  intro front behind free closed
  obtain ⟨later, whole⟩ := closes_of_escaped free closed
  exact opens front later free whole

/-! ### Pictures and brackets -/

theorem plainBrackets_append (plain : behind.head? ≠ some '[') (text : List Char) :
    plainBrackets (text ++ behind) = plainBrackets text ++ plainBrackets behind := by
  fun_induction plainBrackets text with
  | case1 rest ih => rw [List.cons_append, List.cons_append, plainBrackets, ih, List.cons_append]
  | case2 c rest other ih =>
    rw [List.cons_append, plainBrackets, ih, List.cons_append]
    -- A bracket behind this character would be in one of the texts.
    rintro left rfl bracket
    cases rest with
    | nil =>
      rw [List.nil_append] at bracket
      exact plain (by rw [bracket]; rfl)
    | cons d rest =>
      obtain ⟨rfl, _⟩ := List.cons.inj bracket
      exact other _ rfl rfl
  | case3 => rfl

theorem nameAt?_colon (text : List Char) : nameAt? (':' :: text) = some ([], text) :=
  rfl

theorem nameAt?_blank (blank : Text.isBlank c = true) (other : c ≠ ':') (text : List Char) :
    nameAt? (c :: text) = none := by
  have stops : (c != ':' && !Text.isBlank c) = false := by simp [blank]
  simp only [nameAt?, List.dropWhile_cons, stops]
  split
  next same =>
    cases same
    contradiction
  · rfl

theorem nameAt?_cons (goes : (c != ':' && !Text.isBlank c) = true) (text : List Char) :
    nameAt? (c :: text) = (nameAt? text).map fun (name, left) => (c :: name, left) := by
  simp only [nameAt?, List.dropWhile_cons, List.takeWhile_cons, goes, if_true]
  split <;> rfl

theorem nameAt?_append (unnamed : nameAt? behind = none) (text : List Char) :
    nameAt? (text ++ behind) = (nameAt? text).map fun (name, left) => (name, left ++ behind) := by
  induction text with
  | nil =>
    rw [List.nil_append, unnamed]
    rfl
  | cons c text ih =>
    rw [List.cons_append]
    by_cases goes : (c != ':' && !Text.isBlank c) = true
    · rw [nameAt?_cons goes, nameAt?_cons goes, ih, Option.map_map, Option.map_map]
      rfl
    · by_cases colon : c = ':'
      · rw [colon, nameAt?_colon, nameAt?_colon]
        rfl
      · have blank : Text.isBlank c = true := by simpa [colon] using goes
        rw [nameAt?_blank blank colon, nameAt?_blank blank colon]
        rfl

theorem withPictures_append (unnamed : nameAt? behind = none) (text : List Char) :
    withPictures (text ++ behind) = withPictures text ++ withPictures behind := by
  fun_induction withPictures text with
  | case1 => rfl
  | case2 rest name left found ih =>
    have longer : nameAt? (rest ++ behind) = some (name, left ++ behind) := by
      rw [nameAt?_append unnamed, found]
      rfl
    rw [List.cons_append, withPictures, if_pos rfl]
    split
    next other =>
      cases longer.symm.trans other
      rw [ih, List.append_assoc]
    next other => cases longer.symm.trans other
  | case3 rest none ih =>
    have longer : nameAt? (rest ++ behind) = Option.none := by
      rw [nameAt?_append unnamed, none]
      rfl
    rw [List.cons_append, withPictures, if_pos rfl]
    split
    next other => cases longer.symm.trans other
    · rw [ih, List.cons_append]
  | case4 c rest other ih => rw [List.cons_append, withPictures, if_neg other, ih, List.cons_append]

/-- What is plain text in both texts shows the same in one stretch and in two. -/
def Parts (front behind : List Char) : Prop :=
  withPictures (plainBrackets (front ++ behind)) =
    withPictures (plainBrackets front) ++ withPictures (plainBrackets behind)

theorem withPictures_blank (rest : List Char) :
    withPictures (plainBrackets (' ' :: rest)) = ' ' :: withPictures (plainBrackets rest) := by
  have apart : ' ' ≠ ':' := by decide
  rw [plainBrackets, withPictures, if_neg apart]
  simp

theorem parts_blank (front behind : List Char) : Parts (front ++ [' ']) behind := by
  have shows (rest : List Char) : withPictures (plainBrackets (front ++ ' ' :: rest)) =
      withPictures (plainBrackets front) ++ ' ' :: withPictures (plainBrackets rest) := by
    have brackets : plainBrackets (' ' :: rest) = ' ' :: plainBrackets rest := by
      rw [plainBrackets]
      simp
    have unnamed := nameAt?_blank (by decide : Text.isBlank ' ' = true) (by decide) (plainBrackets rest)
    rw [plainBrackets_append (by simp), brackets, withPictures_append unnamed, ← brackets, withPictures_blank]
  have alone := shows []
  rw [plainBrackets, withPictures] at alone
  rw [Parts, List.append_assoc, List.singleton_append, shows, alone, List.append_assoc, List.singleton_append]

theorem parts_slash (front : List Char) : Parts front ['\\'] := by
  have unnamed : nameAt? ['\\'] = none := by decide
  rw [Parts, plainBrackets_append (by simp)]
  exact withPictures_append unnamed _

/-! ### What is shown -/

theorem showStretches_cons_congr {others : List Stretch}
    (same : ∀ openStyles, showStretches openStyles all = showStretches openStyles others) (first : Stretch)
    (openStyles : List OpenStyle) :
    showStretches openStyles (first :: all) = showStretches openStyles (first :: others) := by
  cases first with
  | plain text => rw [showStretches_plain, showStretches_plain, same]
  | tag tag =>
    rw [showStretches, showStretches]
    simp only [same]

/-- The stretches show what they would if the plain text of both were not put together. -/
theorem showStretches_meld
    (parts : ∀ front behind, all.getLast? = some (.plain front) → later.head? = some (.plain behind) →
      Parts front behind)
    (openStyles : List OpenStyle) :
    showStretches openStyles (Stretch.meld all later) = showStretches openStyles (all ++ later) := by
  fun_induction Stretch.meld all later generalizing openStyles with
  | case1 text more later =>
    have joint : Parts text more := parts text more rfl rfl
    rw [List.singleton_append, showStretches_plain, showStretches_plain, showStretches_plain, joint]
    cases showStretches openStyles later <;> simp [Except.map]
  | case2 first all later other ih =>
    rw [List.cons_append]
    cases all with
    | nil =>
      apply showStretches_cons_congr
      intro openStyles
      rw [Stretch.meld, List.nil_append]
    | cons second all =>
      apply showStretches_cons_congr
      exact ih fun front behind last head => parts front behind (by rw [List.getLast?_cons_cons, last]) head
  | case3 later => rw [List.nil_append]

/-- What is shown behind stretches does not depend on them if it does not depend on the styles that are open. -/
theorem showStretches_append {tail : List Char} (shows : ∀ openStyles, showStretches openStyles later = .ok tail)
    (all : List Stretch) (openStyles : List OpenStyle) :
    showStretches openStyles (all ++ later) = (showStretches openStyles all).map (· ++ tail) := by
  induction all generalizing openStyles with
  | nil => rw [List.nil_append, shows, showStretches, Except.map, List.nil_append]
  | cons first all ih =>
    rw [List.cons_append]
    cases first with
    | plain text =>
      rw [showStretches_plain, showStretches_plain, ih]
      cases showStretches openStyles all <;> simp [Except.map]
    | tag tag =>
      by_cases odd : tag.slashes % 2 = 1
      · rw [showStretches_of_odd odd, showStretches_of_odd odd, ih]
        cases showStretches openStyles all <;> simp [Except.map]
      · rw [showStretches_of_even odd, showStretches_of_even odd]
        cases afterTag openStyles tag.inside with
        | error fault => rfl
        | ok styles =>
          simp only [bind, Except.bind, ih]
          cases showStretches styles all <;> simp [Except.map]

/-! ### Joints -/

theorem suffix_of_getLast? {last : List Char} (ends : (stretches text).getLast? = some (.plain last)) : last <:+ text := by
  obtain ⟨init, whole⟩ := List.getLast?_eq_some_iff.1 ends
  refine ⟨init.flatMap Stretch.source, ?_⟩
  rw [← flatMap_source text, whole, List.flatMap_append, List.flatMap_singleton, Stretch.source]

/-- A backslash that ends a text is shown. -/
theorem showStretches_append_slash (text : List Char) (openStyles : List OpenStyle) :
    showStretches openStyles (stretches (text ++ ['\\'])) =
      (showStretches openStyles (stretches text)).map (· ++ ['\\']) := by
  have alone : stretches ['\\'] = [.plain ['\\']] := by
    have free : tagAt? ['\\'] = none := rfl
    rw [stretches_cons free, stretches, Stretch.beforeAll]
    simp
  have shows (openStyles : List OpenStyle) : showStretches openStyles (stretches ['\\']) = .ok ['\\'] := by
    have slash : withPictures (plainBrackets ['\\']) = ['\\'] := by decide +kernel
    rw [alone, showStretches_plain, slash]
    rfl
  rw [stretches_append (apart_slash text), showStretches_meld, showStretches_append shows]
  intro front behind _ head
  rw [alone] at head
  cases head
  exact parts_slash front

/-! ### Headings -/

/-- A tag without backslashes switches its style and shows nothing. -/
theorem showStretches_switch {styles : List OpenStyle} (valid : IsInside inside)
    (after : afterTag openStyles inside = .ok styles) (rest : List Char) :
    showStretches openStyles (stretches ('[' :: (inside ++ ']' :: rest))) = showStretches styles (stretches rest) := by
  have found : tagAt? ('[' :: (inside ++ ']' :: rest)) = some (⟨0, inside⟩, rest) := tagAt?_eq_some.2 ⟨valid, rfl⟩
  have even : (⟨0, inside⟩ : TagText).slashes % 2 ≠ 1 := by simp
  rw [stretches_of_tag found, showStretches_of_even even, after]
  cases came : showStretches styles (stretches rest) <;> simp [bind, Except.bind, came, Except.map]

/-- Text without brackets and backslashes in front of a tag is a stretch of its own. -/
theorem stretches_append_tag {tag : TagText} {left : List Char} (plain : ∀ c ∈ front, c ≠ '[' ∧ c ≠ '\\')
    (found : tagAt? text = some (tag, left)) (last : Char) (plainLast : last ≠ '[' ∧ last ≠ '\\') :
    stretches (front ++ last :: text) = .plain (front ++ [last]) :: stretches text := by
  induction front with
  | nil =>
    rw [List.nil_append, stretches_cons (tagAt?_cons plainLast.1 plainLast.2), stretches_of_tag found, Stretch.beforeAll]
    · rfl
    · simp
  | cons c front ih =>
    obtain ⟨here, others⟩ := List.forall_mem_cons.1 plain
    rw [List.cons_append, stretches_cons (tagAt?_cons here.1 here.2), ih others]
    rfl

theorem showStretches_blank (rest : List Char) (openStyles : List OpenStyle) :
    showStretches openStyles (stretches (' ' :: rest)) = (showStretches openStyles (stretches rest)).map (' ' :: ·) := by
  have free : tagAt? (' ' :: rest) = none := tagAt?_cons (by decide) (by decide)
  have alone : withPictures (plainBrackets [' ']) = [' '] := by simp [plainBrackets, withPictures]
  rw [stretches_cons free]
  rcases stretches rest with _ | ⟨text | tag, all⟩
  · rw [Stretch.beforeAll, showStretches_plain, alone]
    · rfl
    · simp
  · rw [Stretch.beforeAll, showStretches_plain, showStretches_plain, withPictures_blank]
    cases showStretches openStyles all <;> simp [Except.map]
  · rw [Stretch.beforeAll, showStretches_plain, alone]
    · rfl
    · simp

theorem withPictures_append_of_free (free : ':' ∉ front) (behind : List Char) :
    withPictures (front ++ behind) = front ++ withPictures behind := by
  induction front with
  | nil => rfl
  | cons c front ih =>
    obtain ⟨other, later⟩ := not_or.1 (mt List.mem_cons.2 free)
    rw [List.cons_append, withPictures, if_neg (Ne.symm other), ih later, List.cons_append]

/-- A heading without marks is shown as it is, with a colon and a blank behind it. -/
theorem showStretches_heading {label : List Char} (unmarked : Unmarked label) (rest : List Char) :
    showStretches [] (stretches ("[red]".toList ++ label ++ ":[/red] ".toList ++ rest)) =
      (showStretches [] (stretches rest)).map ((label ++ [':', ' ']) ++ ·) := by
  have absent (c : Char) (marks : isMark c = true) : c ∉ label := by
    intro member
    cases (unmarked c member).symm.trans marks
  have plain : ∀ c ∈ label, c ≠ '[' ∧ c ≠ '\\' := fun c member =>
    ⟨ne_of_mem_of_not_mem member (absent '[' (by decide)), ne_of_mem_of_not_mem member (absent '\\' (by decide))⟩
  have brackets : plainBrackets (label ++ [':']) = label ++ [':'] := by
    apply (thinned_plainBrackets _).2.2
    intro part
    have bracket : '[' ∈ label ++ [':'] := part.subset (by simp)
    simp [absent '[' (by decide)] at bracket
  have shows : withPictures (plainBrackets (label ++ [':'])) = label ++ [':'] := by
    rw [brackets, withPictures_append_of_free (absent ':' (by decide))]
    simp [withPictures, nameAt?]
  have found : tagAt? ('[' :: (['/', 'r', 'e', 'd'] ++ ']' :: ' ' :: rest)) =
      some (⟨0, ['/', 'r', 'e', 'd']⟩, ' ' :: rest) :=
    tagAt?_eq_some.2 ⟨isInside_endRed, rfl⟩
  have whole : "[red]".toList ++ label ++ ":[/red] ".toList ++ rest = '[' :: (['r', 'e', 'd'] ++ ']' ::
      (label ++ ':' :: '[' :: (['/', 'r', 'e', 'd'] ++ ']' :: ' ' :: rest))) := by simp
  rw [whole, showStretches_switch isInside_red afterTag_red, stretches_append_tag plain found ':' (by decide),
    showStretches_plain, showStretches_switch isInside_endRed afterTag_endRed, showStretches_blank, shows]
  cases showStretches [] (stretches rest) <;> simp [Except.map]

/-! ### Escaped text -/

/-- The stretch as it is escaped. -/
def Stretch.doubled : Stretch → Stretch
  | .plain text => .plain text
  | .tag tagged => .tag ⟨2 * tagged.slashes + 1, tagged.inside⟩

theorem flatMap_escaped_meld (all later : List Stretch) :
    (Stretch.meld all later).flatMap Stretch.escaped = all.flatMap Stretch.escaped ++ later.flatMap Stretch.escaped := by
  fun_induction Stretch.meld all later with
  | case1 text more later => simp [Stretch.escaped]
  | case2 first all later other ih => rw [List.flatMap_cons, List.flatMap_cons, ih, List.append_assoc]
  | case3 later => rw [List.flatMap_nil, List.nil_append]

theorem escaped_append (apart : Apart text behind) : escaped (text ++ behind) = escaped text ++ escaped behind := by
  rw [escaped, stretches_append apart, flatMap_escaped_meld, escaped, escaped]

theorem stretches_escaped (text : List Char) : stretches (escaped text) = (stretches text).map Stretch.doubled := by
  -- An escaped tag is the tag of an escaped text, and there is no tag in it where there was none.
  induction text using stretches.induct with
  | case1 =>
    rw [escaped_nil, stretches]
    rfl
  | case2 c rest tag behind found ih =>
    obtain ⟨valid, _⟩ := tagAt?_eq_some.1 found
    rw [stretches_of_tag (tagAt?_eq_some.2 ⟨valid, escaped_of_tag found⟩), stretches_of_tag found, ih]
    rfl
  | case3 c rest free ih =>
    have free' := tagAt?_escaped free
    rw [escaped_cons free] at free' ⊢
    rw [stretches_cons free', stretches_cons free, ih]
    rcases stretches rest with _ | ⟨_ | _, all⟩ <;> rfl

theorem showStretches_doubled (all : List Stretch) (openStyles : List OpenStyle) :
    showStretches openStyles (all.map Stretch.doubled) = .ok (all.flatMap Stretch.rendition) := by
  induction all with
  | nil => rfl
  | cons first all ih =>
    cases first with
    | plain text =>
      rw [List.map_cons, Stretch.doubled, showStretches_plain, ih, Except.map, List.flatMap_cons, Stretch.rendition]
    | tag tag =>
      -- Half of the backslashes are shown, and those are all that were there before.
      have odd : (2 * tag.slashes + 1) % 2 = 1 := by omega
      have half : (2 * tag.slashes + 1) / 2 = tag.slashes := by omega
      rw [List.map_cons, Stretch.doubled, showStretches_of_odd odd, ih, Except.map, List.flatMap_cons, Stretch.rendition,
        half]
      rfl

/-- A text and an escaped text may be put together: one of them is empty, or the one ends in a blank and the other does not
    close what the first has opened. -/
def Joint (text cause : List Char) : Prop :=
  text = [] ∨ cause = [] ∨ (∃ front, text = front ++ [' ']) ∧ Opens cause

theorem showStretches_append_escaped {cause : List Char} (joint : Joint text cause) (openStyles : List OpenStyle) :
    showStretches openStyles (stretches (text ++ escaped cause)) =
      (showStretches openStyles (stretches text)).map (· ++ (stretches cause).flatMap Stretch.rendition) := by
  rcases joint with rfl | rfl | ⟨⟨front, rfl⟩, opens⟩
  · rw [List.nil_append, stretches_escaped, showStretches_doubled, stretches]
    rfl
  · rw [escaped_nil, List.append_nil, stretches.eq_def [], List.flatMap_nil]
    cases showStretches openStyles (stretches text) with
    | error fault => rfl
    | ok shown => simp [Except.map]
  · have shows := showStretches_doubled (stretches cause)
    rw [← stretches_escaped] at shows
    rw [stretches_append (apart_blank (opens_escaped opens)), showStretches_meld, showStretches_append shows]
    intro last behind ends _
    rcases List.suffix_concat_iff.1 (suffix_of_getLast? ends) with rfl | ⟨front, rfl, _⟩
    · simp [Parts, plainBrackets, withPictures]
    · exact parts_blank front behind

end DiagramWeave.Console
