import DiagramWeave.Proofs.Block.Titled
import DiagramWeave.Proofs.Text.Cuts
import DiagramWeave.Proofs.Text.Lowering

/-!
# Titles and formats of headers

Splitting a header loses blanks in one place only, between the title and the point of the format. Whether these were
padding decides later whether the block is found again, so that condition has a name here.
-/
namespace DiagramWeave

/-! ### Names of formats -/

/-- The name of the format in letters of either case. -/
def ImageFormat.SpeltAs (format : ImageFormat) (letters : List Char) : Prop :=
  letters.map Char.toLower = format.name.toList

instance (format : ImageFormat) (letters : List Char) : Decidable (format.SpeltAs letters) :=
  inferInstanceAs (Decidable (_ = _))

/-- The names are plain words in small letters. -/
theorem ImageFormat.isPlain_of_mem_name (format : ImageFormat) :
    ∀ c ∈ format.name.toList, IsPlain c ∧ c.toLower = c := by
  have checked : (format.name.toList.all fun c => decide (IsPlain c ∧ c.toLower = c)) = true := by
    cases format <;> decide
  simpa using checked

/-- What names a format in small letters of any script is its name. -/
theorem ImageFormat.ofName?_lower {letters : List Char} {format : ImageFormat} :
    ofName? (String.ofList (Text.lower letters)) = some format ↔ format.SpeltAs letters := by
  rw [SpeltAs, ← lower_eq_iff fun c member => (format.isPlain_of_mem_name c member).1]
  constructor
  · intro named
    have name : format.name = String.ofList (Text.lower letters) := by simpa using List.find?_some named
    rw [name, String.toList_ofList]
  · intro spelt
    rw [spelt, String.ofList_toList, ofName?_name]

theorem ImageFormat.SpeltAs.sameLetter {letters : List Char} {format : ImageFormat} (spelt : format.SpeltAs letters) :
    List.Forall₂ (fun c d => Text.sameLetter c d = true) format.name.toList letters := by
  have plain := format.isPlain_of_mem_name
  rw [← spelt] at plain ⊢
  rw [List.forall₂_map_left_iff, List.forall₂_same]
  intro c member
  obtain ⟨⟨low, _⟩, small⟩ := plain _ (List.mem_map_of_mem member)
  simp [Text.sameLetter, Text.smallLetter, low, low_of_toLower low, small]

/-! ### Headers -/

/-- What is dropped between the title and the point of the format is padding. -/
def PaddedPoint (header : List Char) : Prop :=
  ∀ stem suffix format, Text.splitLast? '.' header = some (stem, suffix) →
    ImageFormat.ofName? (String.ofList (Text.lower suffix)) = some format →
    Text.trimEnd Text.isBlank stem = Text.trimEnd Text.isPad stem

/-- A header without a format is all title; any other is a title, blanks, a point and the letters of the
    format, which may be capitals. -/
inductive HeaderCut (header : List Char) (fallback : String) : List Char → String → Prop
  | plain : PaddedPoint header → HeaderCut header fallback header fallback
  | formatted {title blanks suffix : List Char} {format : ImageFormat} :
      header = title ++ (blanks ++ '.' :: suffix) → title ≠ [] → (∀ c ∈ blanks, Text.isBlank c = true) →
      List.Forall₂ (fun c d => Text.sameLetter c d = true) format.name.toList suffix →
      (PaddedPoint header ↔ ∀ c ∈ blanks, Text.isPad c = true) →
      HeaderCut header fallback title format.name

theorem trimEnd_isPad_eq_iff {stem blanks : List Char}
    (whole : stem = Text.trimEnd Text.isBlank stem ++ blanks) :
    Text.trimEnd Text.isBlank stem = Text.trimEnd Text.isPad stem ↔ ∀ c ∈ blanks, Text.isPad c = true := by
  constructor
  · intro same
    obtain ⟨pads, split, allPads⟩ := exists_dropped_of_trimEnd Text.isPad stem
    rw [← same] at split
    have : blanks = pads := List.append_cancel_left (whole.symm.trans split)
    rw [this]
    exact allPads
  · intro allPads
    -- Trimming blanks twice changes nothing, so the trimmed stem ends in no padding either.
    have kept : Text.trimEnd Text.isPad (Text.trimEnd Text.isBlank stem) =
        Text.trimEnd Text.isBlank stem := by
      rw [Text.trimEnd, Text.trimEnd, List.reverse_reverse, List.reverse_inj, List.dropWhile_eq_self_iff]
      intro nonempty
      have := List.head_dropWhile_not Text.isBlank (List.ne_nil_of_length_pos nonempty)
      rw [List.head_eq_getElem] at this
      intro pad
      rw [isBlank_of_isPad pad] at this
      cases this
    rw [← kept]
    conv => rhs; rw [whole]
    exact (trimEnd_append allPads).symm

theorem headerCut_formatted {header stem suffix : List Char} {format : ImageFormat} (fallback : String)
    (cut : Text.splitLast? '.' header = some (stem, suffix))
    (named : ImageFormat.ofName? (String.ofList (Text.lower suffix)) = some format)
    (shown : ¬ Text.allBlank stem = true) :
    HeaderCut header fallback (Text.trimEnd Text.isBlank stem) format.name := by
  obtain ⟨blanks, split, all⟩ := exists_dropped_of_trimEnd Text.isBlank stem
  have whole : header = Text.trimEnd Text.isBlank stem ++ (blanks ++ '.' :: suffix) := by
    rw [← List.append_assoc, ← split, (splitLast?_eq_some.1 cut).1]
  refine .formatted whole ?_ all (ImageFormat.ofName?_lower.1 named).sameLetter ?_
  · intro (empty : Text.trimEnd Text.isBlank stem = [])
    rw [empty, List.nil_append] at split
    exact shown (List.all_eq_true.2 (split ▸ all))
  · rw [← trimEnd_isPad_eq_iff split]
    constructor
    · intro padded
      exact padded stem suffix format cut named
    · intro same stem' suffix' format' cut' _
      rw [cut] at cut'
      cases cut'
      exact same

theorem headerCut_splitHeader {header : List Char} (fallback : String)
    (starts : StartsVisibly header) :
    HeaderCut header fallback (splitHeader header fallback).1 (splitHeader header fallback).2 := by
  unfold splitHeader
  split
  · next stem suffix cut =>
    split
    · next format named =>
      split
      · next blank =>
        -- Only an empty stem is blank here, as the header starts visibly.
        refine .plain fun stem' suffix' format' cut' _ => ?_
        rw [cut] at cut'
        cases cut'
        cases stem with
        | nil => rfl
        | cons d tail =>
          obtain ⟨c, rest, rfl, visible⟩ := starts
          have whole := (splitLast?_eq_some.1 cut).1
          simp only [List.cons_append, List.cons.injEq] at whole
          simp [Text.allBlank, ← whole.1, visible] at blank
      · next shown => exact headerCut_formatted fallback cut named shown
    · next unnamed =>
      refine .plain fun stem' suffix' format' cut' named => ?_
      rw [cut] at cut'
      cases cut'
      rw [unnamed] at named
      cases named
  · next uncut =>
    refine .plain fun stem suffix format cut _ => ?_
    rw [uncut] at cut
    cases cut

theorem HeaderCut.startsVisibly {header title : List Char} {fallback extension : String}
    (cut : HeaderCut header fallback title extension) (starts : StartsVisibly header) :
    StartsVisibly title := by
  cases cut with
  | plain => exact starts
  | formatted whole nonempty =>
    obtain ⟨c, tail, rfl, visible⟩ := starts
    obtain ⟨d, rest, rfl⟩ := List.exists_cons_of_ne_nil nonempty
    rw [List.cons_append, List.cons.injEq] at whole
    exact ⟨d, rest, rfl, whole.1 ▸ visible⟩

end DiagramWeave
