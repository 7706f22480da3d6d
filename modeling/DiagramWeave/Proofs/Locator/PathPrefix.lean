import DiagramWeave.Proofs.Locator.Distinct
import DiagramWeave.Proofs.Pipeline.Links

/-!
# Images under a path

Under a base that is no URL the locator of an image is put together raw and encoded when it is shown, unless it looks
like a URL by then. Two kinds of names bring that about: without a base, a name that is a URL itself, and under a base
that is a scheme and its colon, a name that begins with a slash, which is the second of the two slashes that a URL has
behind its colon. All other locators are shown in plain characters and percent signs, and are read back from them.
-/
namespace DiagramWeave

variable {base : String}

/-! ### Which texts are URLs -/

theorem IsScheme.slash_not_mem {scheme : List Char} (isScheme : IsScheme scheme) : '/' ∉ scheme := by
  obtain ⟨c, tail, rfl, letter, characters⟩ := isScheme
  have noLetter : isLatinLetter '/' = false := by decide
  have noCharacter : isSchemeCharacter '/' = false := by decide
  intro member
  rcases List.mem_cons.1 member with rfl | member
  · rw [noLetter] at letter
    cases letter
  · have character := characters '/' member
    rw [noCharacter] at character
    cases character

/-- A text without slashes makes no URL of what stands before it. -/
theorem isUrl_of_append {text behind : List Char} (free : '/' ∉ behind) (url : isUrl (text ++ behind) = true) :
    isUrl text = true := by
  obtain ⟨scheme, rest, isScheme, same⟩ := isUrl_eq_true.1 url
  rw [List.append_cons scheme, List.append_cons (scheme ++ [':']), List.append_cons (scheme ++ [':'] ++ ['/'])] at same
  rcases List.append_eq_append_iff.1 same with ⟨between, longer, tail⟩ | ⟨between, longer, _⟩
  · -- The last slash of the two would stand in what comes behind, unless the text ends with it.
    cases between using List.reverseRecOn with
    | nil =>
      rw [List.append_nil] at longer
      rw [← longer]
      exact isUrl_eq_true.2 ⟨scheme, [], isScheme, by simp⟩
    | append_singleton between last =>
      rw [← List.append_assoc] at longer
      have slash : '/' = last := by simpa using (List.append_inj' longer rfl).2
      exact absurd (by rw [tail, ← slash]; simp) free
  · rw [longer]
    exact isUrl_eq_true.2 ⟨scheme, between, isScheme, by simp⟩

/-- What a base without its trailing slashes ends in is no slash. -/
theorem bareBase_ne_slash (base : String) (front : List Char) : bareBase base ≠ front ++ ['/'] := by
  intro same
  have left : List.rdropWhile (· == '/') base.toList ≠ [] := by
    change bareBase base ≠ []
    rw [same]
    simp
  have last := List.rdropWhile_last_not (· == '/') base.toList left
  have ends : (List.rdropWhile (· == '/') base.toList).getLast left = '/' := by
    change (bareBase base).getLast left = '/'
    simp [same]
  exact last (by rw [ends]; rfl)

/-- The name makes the locator under the base a URL, although the base is none. -/
def ReadsAsUrl (base name : List Char) : Prop :=
  (base = [] ∧ isUrl name = true) ∨ (SchemeAlone base ∧ name.head? = some '/')

theorem isUrl_bareBase_eq_false (path : isUrl base.toList = false) : isUrl (bareBase base) = false := by
  obtain ⟨dropped, whole, _⟩ := exists_dropped_of_trimEnd (· == '/') base.toList
  cases url : isUrl (bareBase base) with
  | false => rfl
  | true =>
    have longer : isUrl (bareBase base ++ dropped) = true := isUrl_append url dropped
    rw [bareBase, ← whole, path] at longer
    cases longer

/-- A slash behind a base that is no URL makes a URL of it only when the base ends in the colon of a scheme. -/
theorem schemeAlone_of_isUrl {name : List Char} (path : isUrl base.toList = false)
    (url : isUrl (bareBase base ++ '/' :: name) = true) : SchemeAlone base.toList ∧ name.head? = some '/' := by
  obtain ⟨scheme, rest, isScheme, same⟩ := isUrl_eq_true.1 url
  rcases List.append_eq_append_iff.1 same with ⟨between, longer, tail⟩ | ⟨between, longer, tail⟩
  · -- The slash behind the base would be a character of the scheme, or its colon.
    exfalso
    cases between with
    | nil => cases tail
    | cons c between =>
      rw [List.cons_append, List.cons.injEq] at tail
      apply isScheme.slash_not_mem
      rw [longer, ← tail.1]
      simp
  · cases between with
    | nil => cases tail
    | cons c between =>
      rw [List.cons_append, List.cons.injEq] at tail
      obtain ⟨rfl, tail⟩ := tail
      cases between with
      | nil =>
        -- The base is the scheme and its colon, and the name brings the second slash.
        obtain ⟨dropped, whole, all⟩ := exists_dropped_of_trimEnd (· == '/') base.toList
        have second : '/' :: rest = name := (List.cons.inj tail).2
        refine ⟨⟨scheme, dropped, isScheme, ?_, fun c member => by simpa using all c member⟩, ?_⟩
        · rw [whole]
          change bareBase base ++ dropped = _
          rw [longer]
          simp
        · rw [← second]
          rfl
      | cons d between =>
        rw [List.cons_append, List.cons.injEq] at tail
        obtain ⟨rfl, tail⟩ := tail
        cases between with
        | nil => exact absurd (by rw [longer]; simp) (bareBase_ne_slash base (scheme ++ [':']))
        | cons e between =>
          rw [List.cons_append, List.cons.injEq] at tail
          obtain ⟨rfl, _⟩ := tail
          have bare := isUrl_bareBase_eq_false path
          rw [longer, isUrl_eq_true.2 ⟨scheme, between, isScheme, rfl⟩] at bare
          cases bare

theorem isUrl_fileLocator_iff (path : isUrl base.toList = false) (name : String) :
    isUrl (fileLocator base name).toList = true ↔ ReadsAsUrl base.toList name.toList := by
  by_cases empty : base.toList = []
  · have nameless : base.isEmpty = true := String.isEmpty_iff.2 (String.toList_inj.1 empty)
    have none : ¬ SchemeAlone [] := by
      rintro ⟨scheme, slashes, _, same, _⟩
      simp at same
    rw [fileLocator, if_pos nameless, ReadsAsUrl, empty]
    simp [none]
  · rw [fileLocator_of_filled empty, isUrl_bareBase_eq_false path, if_neg Bool.false_ne_true, ReadsAsUrl]
    constructor
    · intro url
      exact .inr (schemeAlone_of_isUrl path url)
    · rintro (⟨same, _⟩ | ⟨alone, slashed⟩)
      · exact absurd same empty
      · obtain ⟨scheme, isScheme, bare⟩ := bareBase_of_schemeAlone alone
        rw [bare]
        exact (isScheme.isUrl_slash _).2 slashed

/-! ### What is shown -/

/-- The locator is shown as a path: in plain characters and percent signs, from which it is read back, and not as a
    URL. -/
structure ShownAsPath (locator : String) : Prop where
  plain : ∀ c ∈ (escapeLocator locator).toList, isPlainInPath c = true ∨ c = '%'
  reads : percentRead? (escapeLocator locator).toList = some locator
  path : isUrl (escapeLocator locator).toList = false

theorem shownAsPath_iff (locator : String) : ShownAsPath locator ↔ isUrl locator.toList = false := by
  have colon : isPlainInPath ':' = false := by decide
  constructor
  · intro shown
    rw [← Bool.not_eq_true]
    intro url
    have same : (escapeLocator locator).toList = locator.toList := by
      rw [escapeLocator_toList, if_pos url]
    rcases shown.plain ':' (same ▸ colon_mem_of_isUrl url) with plain | sign
    · rw [colon] at plain
      cases plain
    · cases sign
  · intro path
    have shown : (escapeLocator locator).toList = percentEncode locator.toList := by
      rw [escapeLocator_toList, path, if_neg Bool.false_ne_true]
    constructor
    · intro c member
      rw [shown] at member
      exact (mem_percentEncode member).symm
    · rw [shown, percentRead?_percentEncode]
    · rw [shown, ← Bool.not_eq_true]
      intro url
      exact not_mem_percentEncode (by decide) _ (colon_mem_of_isUrl url)

/-- Only the title of a block can make its image look like a URL. -/
theorem readsAsUrl_outputName {text : String} {format : ImageFormat} {block : Block}
    (found : block ∈ scan text format.name) (base : List Char) :
    ReadsAsUrl base block.outputName.toList ↔ ReadsAsUrl base block.title.toList := by
  obtain ⟨named, extension⟩ := exists_format_of_mem_scan found
  obtain ⟨c, tail, title, _⟩ := (title_of_mem_scan found).1
  have letters : block.outputName.toList = block.title.toList ++ '.' :: named.name.toList := by
    simp [Block.outputName, extension]
  have slashless : '/' ∉ '.' :: named.name.toList := by cases named <;> decide
  have first : block.outputName.toList.head? = block.title.toList.head? := by
    rw [letters, title]
    rfl
  have url : isUrl block.outputName.toList = true ↔ isUrl block.title.toList = true := by
    rw [letters]
    exact ⟨isUrl_of_append slashless, fun url => isUrl_append url _⟩
  rw [ReadsAsUrl, ReadsAsUrl, first, url]

/-- Under a base that is no URL an image is shown by a path in plain characters and percent signs, from which its raw
    locator is read back. That is so unless its name makes a URL of the locator, and for the images of a document that
    takes a title that is a URL, where there is no base, or one that begins with a slash, where the base is a scheme and
    its colon. -/
theorem shown_under_path_iff (path : isUrl base.toList = false) :
    (∀ name : String, ShownAsPath (fileLocator base name) ↔ ¬ ReadsAsUrl base.toList name.toList) ∧
    ∀ (text : String) (format : ImageFormat), ∀ block ∈ scan text format.name,
      (ShownAsPath (fileLocator base block.outputName) ↔ ¬ ReadsAsUrl base.toList block.title.toList) := by
  have every (name : String) : ShownAsPath (fileLocator base name) ↔ ¬ ReadsAsUrl base.toList name.toList := by
    rw [shownAsPath_iff, ← isUrl_fileLocator_iff path, Bool.not_eq_true]
  refine ⟨every, ?_⟩
  intro text format block found
  rw [every, readsAsUrl_outputName found]

/-- A document with one block, whose title is a URL. -/
def linkTitled : String := "@startuml http://a (b)\nA\n@enduml"

/-- Behind a drive even a title that is a URL makes a path. -/
theorem shown_under_path_iff_drive :
    isUrl "c:/".toList = false ∧
    (ShownAsPath (fileLocator "c:/" "http://a (b).png") ↔ ¬ ReadsAsUrl "c:/".toList "http://a (b).png".toList) ∧
    ∃ block ∈ scan linkTitled ImageFormat.png.name,
      (ShownAsPath (fileLocator "c:/" block.outputName) ↔ ¬ ReadsAsUrl "c:/".toList block.title.toList) ∧
      ShownAsPath (fileLocator "c:/" block.outputName) ∧
      escapeLocator (fileLocator "c:/" block.outputName) = "c%3A/http%3A//a%20%28b%29.png" := by
  have path : isUrl "c:/".toList = false := by decide
  obtain ⟨block, found, title, name⟩ : ∃ block ∈ scan linkTitled ImageFormat.png.name,
      block.title = "http://a (b)" ∧ block.outputName = "http://a (b).png" := by decide +kernel
  have shown := (shown_under_path_iff path).2 _ _ block found
  refine ⟨path, (shown_under_path_iff path).1 _, block, found, shown, shown.2 ?_, ?_⟩
  · rw [title]
    rintro (⟨empty, _⟩ | ⟨_, slashed⟩)
    · exact absurd empty (by decide)
    · exact absurd slashed (by decide)
  · rw [name]
    decide +kernel

/-- Without a base a title that is a URL is shown as it is, with its blank and its parentheses. -/
theorem title_shown_as_url :
    isUrl "".toList = false ∧
    ∃ block ∈ scan linkTitled ImageFormat.png.name,
      escapeLocator (fileLocator "" block.outputName) = "http://a (b).png" ∧
      ¬ ShownAsPath (fileLocator "" block.outputName) := by
  obtain ⟨block, found, name⟩ : ∃ block ∈ scan linkTitled ImageFormat.png.name,
      block.outputName = "http://a (b).png" := by decide +kernel
  refine ⟨rfl, block, found, ?_⟩
  rw [name, shownAsPath_iff]
  decide +kernel

end DiagramWeave
