import DiagramWeave.Proofs.Locator.Percent
import DiagramWeave.Proofs.Text.Cuts

/-!
# Images under a URL

Whether a base is a URL is asked when its trailing slashes are gone, and whether a locator is one is asked again when the
locator is shown. As soon as anything but slashes stands behind the scheme of the base, both answers are yes: the base is
shown as it is and the name below it is encoded once. A base that is a scheme and slashes, such as `file:///`, is a URL
for its slashes alone and none without them. It is then taken for a path and encoded itself, the colon of its scheme
included.
-/
namespace DiagramWeave

variable {text scheme rest : List Char} {base : String}

/-! ### Schemes -/

/-- A letter, and behind it letters, digits and the signs that a scheme may hold. -/
def IsScheme (scheme : List Char) : Prop :=
  ∃ c tail, scheme = c :: tail ∧ isLatinLetter c = true ∧ ∀ d ∈ tail, isSchemeCharacter d = true

/-- A scheme ends at its colon, so two slashes behind that are all that a URL needs. -/
theorem IsScheme.isUrl_append (isScheme : IsScheme scheme) (rest : List Char) :
    isUrl (scheme ++ ':' :: rest) = (Text.after? ['/', '/'] rest).isSome := by
  obtain ⟨c, tail, rfl, letter, characters⟩ := isScheme
  have stop : ¬ isSchemeCharacter ':' = true := by decide
  have left : (tail ++ ':' :: rest).dropWhile isSchemeCharacter = ':' :: rest := by
    rw [List.dropWhile_append_of_pos characters, List.dropWhile_cons_of_neg stop]
  rw [List.cons_append, isUrl, letter, left]
  rfl

/-- With one slash behind the colon the name has to bring the other. -/
theorem IsScheme.isUrl_slash (isScheme : IsScheme scheme) (name : List Char) :
    isUrl (scheme ++ [':'] ++ '/' :: name) = true ↔ name.head? = some '/' := by
  rw [List.append_assoc, List.singleton_append, isScheme.isUrl_append]
  cases name with
  | nil => decide
  | cons c rest =>
    rcases eq_or_ne c '/' with rfl | other
    · simp [Text.after?]
    · simp [Text.after?, other, other.symm]

theorem isUrl_eq_true : isUrl text = true ↔
    ∃ scheme rest, IsScheme scheme ∧ text = scheme ++ ':' :: '/' :: '/' :: rest := by
  constructor
  · intro url
    cases text with
    | nil => cases url
    | cons c tail =>
      simp only [isUrl, Bool.and_eq_true, Option.isSome_iff_exists] at url
      obtain ⟨letter, rest, found⟩ := url
      refine ⟨c :: tail.takeWhile isSchemeCharacter, rest, ⟨c, _, rfl, letter, ?_⟩, ?_⟩
      · exact fun d member => List.mem_takeWhile_imp member
      · have whole := (List.takeWhile_append_dropWhile (p := isSchemeCharacter) (l := tail)).symm
        rw [Text.after?_eq_some.1 found] at whole
        rw [List.cons_append]
        exact congrArg (c :: ·) whole
  · rintro ⟨scheme, rest, isScheme, rfl⟩
    rw [isScheme.isUrl_append]
    rfl

/-! ### Bases without their trailing slashes -/

/-- The base as it stands in a locator. -/
def bareBase (base : String) : List Char :=
  Text.trimEnd (· == '/') base.toList

/-- Nothing but slashes stands behind the colon of the scheme. -/
def SchemeAlone (base : List Char) : Prop :=
  ∃ scheme slashes, IsScheme scheme ∧ base = scheme ++ ':' :: slashes ∧ ∀ c ∈ slashes, c = '/'

theorem bareBase_of_schemeAlone (alone : SchemeAlone base.toList) :
    ∃ scheme, IsScheme scheme ∧ bareBase base = scheme ++ [':'] := by
  obtain ⟨scheme, slashes, isScheme, whole, all⟩ := alone
  refine ⟨scheme, isScheme, ?_⟩
  rw [bareBase, whole, List.append_cons, trimEnd_append (by simpa using all)]
  exact trimEnd_of_getLast? (List.getLast?_concat ..) (by decide)

/-- What is no slash is kept, and the two slashes before it with it. -/
theorem isUrl_bareBase (url : isUrl base.toList = true) (more : ¬ SchemeAlone base.toList) :
    isUrl (bareBase base) = true := by
  obtain ⟨scheme, rest, isScheme, whole⟩ := isUrl_eq_true.1 url
  obtain ⟨c, member, other⟩ : ∃ c ∈ rest, c ≠ '/' := by
    by_contra none
    push Not at none
    exact more ⟨scheme, '/' :: '/' :: rest, isScheme, whole, by simpa using none⟩
  obtain ⟨front, back, rfl⟩ := List.append_of_mem member
  have split : base.toList = (scheme ++ ':' :: '/' :: '/' :: front) ++ c :: back := by
    rw [whole, List.append_assoc]
    rfl
  rw [bareBase, split, trimEnd_append_cons _ _ (by simpa using other), isUrl_eq_true]
  exact ⟨scheme, _, isScheme, by rw [List.append_assoc]; rfl⟩

theorem isUrl_append (url : isUrl text = true) (behind : List Char) : isUrl (text ++ behind) = true := by
  obtain ⟨scheme, rest, isScheme, rfl⟩ := isUrl_eq_true.1 url
  exact isUrl_eq_true.2 ⟨scheme, rest ++ behind, isScheme, by rw [List.append_assoc]; rfl⟩

/-! ### Locators under a base -/

theorem fileLocator_of_filled (filled : base.toList ≠ []) (name : String) : (fileLocator base name).toList =
    bareBase base ++ '/' :: if isUrl (bareBase base) then percentEncode name.toList else name.toList := by
  have some : base.isEmpty = false := by
    rw [← Bool.not_eq_true, String.isEmpty_iff]
    rintro rfl
    exact filled rfl
  rw [fileLocator, some]
  simp only [Bool.false_eq_true, if_false, String.toList_ofList]
  rfl

theorem escapeLocator_toList (locator : String) : (escapeLocator locator).toList =
    if isUrl locator.toList then locator.toList else percentEncode locator.toList := by
  rw [escapeLocator]
  split
  · rfl
  · exact String.toList_ofList

theorem shown_under_bare_url (filled : base.toList ≠ []) (bare : isUrl (bareBase base) = true) (name : String) :
    (escapeLocator (fileLocator base name)).toList = bareBase base ++ '/' :: percentEncode name.toList := by
  have located := fileLocator_of_filled filled name
  rw [if_pos bare] at located
  rw [escapeLocator_toList, located, if_pos (isUrl_append bare _)]

/-- Without its slashes a scheme is no URL. Its locator is one again when the name begins with a slash. -/
theorem shown_under_scheme (filled : base.toList ≠ []) (isScheme : IsScheme scheme)
    (bare : bareBase base = scheme ++ [':']) (name : String) : (escapeLocator (fileLocator base name)).toList =
      if name.toList.head? = some '/' then bareBase base ++ '/' :: name.toList
      else percentEncode (bareBase base ++ '/' :: name.toList) := by
  have lost : isUrl (bareBase base) = false := by
    rw [bare, isScheme.isUrl_append]
    rfl
  have located := fileLocator_of_filled filled name
  rw [lost] at located
  simp only [Bool.false_eq_true, if_false] at located
  rw [escapeLocator_toList, located, bare]
  simp only [isScheme.isUrl_slash]

/-- Under a URL an image is shown by a URL: the base without its trailing slashes, a slash, and the encoded name. That is
    so unless the base is a scheme with nothing but slashes behind it. Then it is so only for names that begin with a
    slash and need no encoding. -/
theorem shown_under_url_iff (name : String) (url : isUrl base.toList = true) :
    (isUrl (escapeLocator (fileLocator base name)).toList = true ∧
      (escapeLocator (fileLocator base name)).toList = bareBase base ++ '/' :: percentEncode name.toList) ↔
    ¬ SchemeAlone base.toList ∨ (name.toList.head? = some '/' ∧ percentEncode name.toList = name.toList) := by
  have filled : base.toList ≠ [] := by
    intro empty
    rw [empty] at url
    cases url
  by_cases alone : SchemeAlone base.toList
  · obtain ⟨scheme, isScheme, bare⟩ := bareBase_of_schemeAlone alone
    have shown := shown_under_scheme filled isScheme bare name
    simp only [alone, not_true_eq_false, false_or]
    constructor
    · rintro ⟨isUrl, same⟩
      split at shown
      next slashed =>
        rw [shown] at same
        exact ⟨slashed, (List.cons.inj (List.append_cancel_left same)).2.symm⟩
      next plain =>
        -- The colon of the scheme has been encoded with the rest.
        have colon : ':' ∈ percentEncode (bareBase base ++ '/' :: name.toList) := by
          rw [← shown, same, bare]
          simp
        exact absurd colon (not_mem_percentEncode (by decide) _)
    · rintro ⟨slashed, same⟩
      rw [if_pos slashed] at shown
      rw [shown, same]
      exact ⟨bare ▸ (isScheme.isUrl_slash _).2 slashed, rfl⟩
  · have bare := isUrl_bareBase url alone
    rw [shown_under_bare_url filled bare]
    exact ⟨fun _ => .inl alone, fun _ => ⟨isUrl_append bare _, rfl⟩⟩

/-- A directory on a host, with slashes behind it, and a name that has to be encoded. -/
theorem shown_under_url_iff_spaced :
    isUrl "https://h/p//".toList = true ∧
    ((isUrl (escapeLocator (fileLocator "https://h/p//" "a (1).png")).toList = true ∧
        (escapeLocator (fileLocator "https://h/p//" "a (1).png")).toList =
          bareBase "https://h/p//" ++ '/' :: percentEncode "a (1).png".toList) ↔
      ¬ SchemeAlone "https://h/p//".toList ∨
        ("a (1).png".toList.head? = some '/' ∧ percentEncode "a (1).png".toList = "a (1).png".toList)) ∧
    escapeLocator (fileLocator "https://h/p//" "a (1).png") = "https://h/p/a%20%281%29.png" :=
  ⟨by decide, shown_under_url_iff _ (by decide), by decide +kernel⟩

/-- The scheme of local files, without a host behind it, is encoded with the name below it. -/
theorem scheme_encoded_without_host :
    isUrl "file:///".toList = true ∧
    escapeLocator (fileLocator "file:///" "a b.png") = "file%3A/a%20b.png" ∧
    isUrl (escapeLocator (fileLocator "file:///" "a b.png")).toList = false ∧
    (escapeLocator (fileLocator "file:///" "a b.png")).toList ≠
      bareBase "file:///" ++ '/' :: percentEncode "a b.png".toList := by
  decide +kernel

end DiagramWeave
