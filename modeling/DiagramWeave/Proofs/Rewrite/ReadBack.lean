import DiagramWeave.Proofs.Locator.PathPrefix
import DiagramWeave.Proofs.Rewrite.Splice

/-!
# Reading a reference back

A reference holds its title as it is and its locator percent-encoded. An encoded locator has no parenthesis, so the last
bracket with a parenthesis behind it is the one that ends the title, whatever the title holds. A reader that cuts the
reference there gets the title back, and from the percent signs the locator.
-/
namespace DiagramWeave

/-! ### The reader -/

/-- Ends the title of a reference. -/
def titleEnd : List Char := [']', '(']

/-- The text before and behind the last `mark`. -/
def cutAtLast? (mark : List Char) : List Char → Option (List Char × List Char)
  | [] => none
  | c :: rest =>
    match cutAtLast? mark rest with
    | some (front, behind) => some (c :: front, behind)
    | none => (Text.after? mark (c :: rest)).map fun behind => ([], behind)

/-- The text in front of a closing parenthesis at the end. -/
def beforeParenthesis? (text : List Char) : Option (List Char) :=
  if text.getLast? = some ')' then some text.dropLast else none

/-- Title and locator of a reference, which is cut at the last end of a title. -/
def readReference? (reference : String) : Option (String × String) := do
  let (front, behind) ← cutAtLast? titleEnd reference.toList
  let title ← Text.after? ['!', '['] front
  let locator ← percentRead? (← beforeParenthesis? behind)
  return (String.ofList title, locator)

/-- Only a parenthesis behind another character can end a title. -/
theorem cutAtLast?_eq_none {text : List Char} (free : '(' ∉ text.tail) : cutAtLast? titleEnd text = none := by
  induction text with
  | nil => rfl
  | cons c rest ih =>
    rw [List.tail_cons] at free
    have later : '(' ∉ rest.tail := fun member => free (List.mem_of_mem_tail member)
    rw [cutAtLast?, ih later]
    -- The mark would bring a parenthesis with it.
    cases opened : Text.after? titleEnd (c :: rest) with
    | none => rfl
    | some behind =>
      have whole := Text.after?_eq_some.1 opened
      rw [titleEnd, List.cons_append, List.cons.injEq] at whole
      rw [whole.2] at free
      exact absurd List.mem_cons_self free

theorem cutAtLast?_append (front : List Char) {behind : List Char} (free : '(' ∉ behind) :
    cutAtLast? titleEnd (front ++ ']' :: '(' :: behind) = some (front, behind) := by
  induction front with
  | nil =>
    have absent : cutAtLast? titleEnd ('(' :: behind) = none := cutAtLast?_eq_none free
    rw [List.nil_append, cutAtLast?, absent]
    rfl
  | cons c front ih => rw [List.cons_append, cutAtLast?, ih]

/-! ### References to paths -/

variable {block : Block} {locator : String}

theorem reference_of_path (path : isUrl locator.toList = false) :
    Block.reference { block with locator := some locator } =
      String.ofList ('!' :: '[' :: block.title.toList ++ ']' :: '(' :: (percentEncode locator.toList ++ [')'])) := by
  apply String.toList_inj.1
  rw [Block.reference_toList, Option.getD_some, escapeLocator_toList, path, String.toList_ofList]
  rfl

theorem readReference?_of_path (block : Block) (path : isUrl locator.toList = false) :
    readReference? (Block.reference { block with locator := some locator }) = some (block.title, locator) := by
  have free : '(' ∉ percentEncode locator.toList ++ [')'] := by
    intro member
    rcases List.mem_append.1 member with encoded | last
    · exact not_mem_percentEncode (by decide) _ encoded
    · exact absurd last (by decide)
  have opened : Text.after? ['!', '['] ('!' :: '[' :: block.title.toList) = some block.title.toList :=
    Text.after?_eq_some.2 rfl
  have closed : beforeParenthesis? (percentEncode locator.toList ++ [')']) = some (percentEncode locator.toList) := by
    rw [beforeParenthesis?, List.getLast?_concat, if_pos rfl, List.dropLast_concat]
  rw [reference_of_path path, readReference?, String.toList_ofList, cutAtLast?_append _ free]
  simp only [Option.bind_eq_bind, Option.bind_some, opened, closed, percentRead?_percentEncode, String.ofList_toList]
  rfl

/-- A reference to a path stays on the line of its title. -/
theorem isLineEnd_of_mem_reference (path : isUrl locator.toList = false)
    (oneLine : ∀ c ∈ block.title.toList, Text.isLineEnd c = false) :
    ∀ c ∈ (Block.reference { block with locator := some locator }).toList, Text.isLineEnd c = false := by
  intro c member
  rw [← Bool.not_eq_true]
  intro ends
  have signs : c ∉ ['!', '[', ']', '(', ')'] := by
    simp only [Text.isLineEnd, Bool.or_eq_true, beq_iff_eq] at ends
    rcases ends with rfl | rfl <;> decide
  have plain : c ∉ percentEncode locator.toList := by
    apply not_mem_percentEncode
    simp only [Text.isLineEnd, Bool.or_eq_true, beq_iff_eq] at ends
    rcases ends with rfl | rfl <;> decide
  have title : c ∉ block.title.toList := by
    intro inside
    rw [oneLine c inside] at ends
    cases ends
  rw [reference_of_path path, String.toList_ofList] at member
  simp only [List.mem_cons, List.not_mem_nil, or_false, not_or] at signs
  simp [signs, plain, title] at member

/-- The reference to a block whose locator is a path stays on one line, and a reader that cuts it at its last end of a
    title gets title and locator back. So it is the reference of this title and this locator alone. -/
theorem reference_reads_back {text fallback : String} (found : block ∈ scan text fallback)
    (path : isUrl locator.toList = false) :
    ∃ reference, imageReference { block with locator := some locator } = .ok reference ∧
      '\r' ∉ reference.toList ∧ '\n' ∉ reference.toList ∧
      readReference? reference = some (block.title, locator) ∧
      ∀ (other : Block) (elsewhere : String), isUrl elsewhere.toList = false →
        (imageReference { other with locator := some elsewhere } = .ok reference ↔
          other.title = block.title ∧ elsewhere = locator) := by
  have oneLine := isLineEnd_of_mem_reference path (title_of_mem_scan found).2
  have read := readReference?_of_path block path
  refine ⟨Block.reference { block with locator := some locator }, rfl, ?_, ?_, read, ?_⟩
  · intro member
    exact absurd (oneLine _ member) (by decide)
  · intro member
    exact absurd (oneLine _ member) (by decide)
  · intro other elsewhere pathToo
    have readToo := readReference?_of_path other pathToo
    constructor
    · intro same
      -- Both are read from one text.
      have references : Block.reference { other with locator := some elsewhere } =
          Block.reference { block with locator := some locator } := Except.ok.inj same
      rw [references, read] at readToo
      obtain ⟨title, located⟩ := Prod.mk.inj (Option.some.inj readToo)
      exact ⟨title.symm, located.symm⟩
    · rintro ⟨title, rfl⟩
      rw [imageReference, title]
      rfl

/-- A title with the very end of a title in it, and a locator with all that has to be encoded. -/
theorem reference_reads_back_bracketed :
    ∃ block ∈ scan "@startuml v](1) [x].svg\nA\n@enduml" defaultFormat,
      isUrl "./é (1)%20](y)".toList = false ∧ isUrl "./é".toList = false ∧
      imageReference { block with locator := some "./é (1)%20](y)" } =
        .ok "![v](1) [x]](./%C3%A9%20%281%29%2520%5D%28y%29)" ∧
      readReference? "![v](1) [x]](./%C3%A9%20%281%29%2520%5D%28y%29)" = some ("v](1) [x]", "./é (1)%20](y)") ∧
      imageReference { block with locator := some "./é" } ≠ .ok "![v](1) [x]](./%C3%A9%20%281%29%2520%5D%28y%29)" := by
  obtain ⟨block, found, title⟩ : ∃ block ∈ scan "@startuml v](1) [x].svg\nA\n@enduml" defaultFormat,
      block.title = "v](1) [x]" := by decide +kernel
  have path : isUrl "./é (1)%20](y)".toList = false := by decide
  have pathToo : isUrl "./é".toList = false := by decide
  obtain ⟨reference, made, _, _, reads, alone⟩ := reference_reads_back found path
  have shown : imageReference { block with locator := some "./é (1)%20](y)" } =
      .ok "![v](1) [x]](./%C3%A9%20%281%29%2520%5D%28y%29)" := by
    have encoded : escapeLocator "./é (1)%20](y)" = "./%C3%A9%20%281%29%2520%5D%28y%29" := by decide +kernel
    simp only [imageReference, title, encoded]
    rfl
  rw [shown] at made
  cases made
  refine ⟨block, found, path, pathToo, shown, title ▸ reads, ?_⟩
  intro same
  exact absurd ((alone block "./é" pathToo).1 same).2 (by decide)

end DiagramWeave
