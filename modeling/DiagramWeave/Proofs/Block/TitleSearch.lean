import DiagramWeave.Proofs.Rewrite.Splice

/-!
# The first block of a title

The search for a titled block takes its title as it is. It comes to the least position at which a block with this title
and format can be read, and ends behind the first closing delimiter that follows the line end there. A text can be read
so in several ways: blanks may belong to the padding or to the title, and a carriage return may be a line end with the
line feed behind it or without. Every reading has its line end at the same place, whatever the title and the format
are, so all of them end where the search does.
-/
namespace DiagramWeave

variable {title extension text behind behind' : List Char}

/-! ### Where the line of a title ends -/

/-- The text goes on with padding, perhaps with a point and the letters of the format and more padding, and then with
    `behind`. -/
inductive LeadsTo (extension text behind : List Char) : Prop
  | bare {pads : List Char} : text = pads ++ behind → (∀ c ∈ pads, Text.isPad c = true) →
      LeadsTo extension text behind
  | formatted {gap letters trail : List Char} : text = gap ++ '.' :: (letters ++ (trail ++ behind)) →
      (∀ c ∈ gap, Text.isPad c = true) → List.Forall₂ (fun c d => Text.sameLetter c d = true) extension letters →
      (∀ c ∈ trail, Text.isPad c = true) → LeadsTo extension text behind

/-- A line end comes first. -/
def StartsWithLineEnd (text : List Char) : Prop :=
  ∃ c rest, text = c :: rest ∧ Text.isLineEnd c = true

theorem LeadsTo.padded {pads : List Char} (all : ∀ c ∈ pads, Text.isPad c = true)
    (leads : LeadsTo extension text behind) : LeadsTo extension (pads ++ text) behind := by
  have both {more : List Char} (allMore : ∀ c ∈ more, Text.isPad c = true) :
      ∀ c ∈ pads ++ more, Text.isPad c = true := by
    intro c member
    exact (List.mem_append.1 member).elim (all c) (allMore c)
  cases leads with
  | bare whole allPads => exact .bare (by rw [whole, List.append_assoc]) (both allPads)
  | formatted whole allGap letter allTrail =>
    exact .formatted (by rw [whole, List.append_assoc]) (both allGap) letter allTrail

/-- Which line end the text leads to is settled: padding ends at the first other character, and if that is a point, as
    many letters follow as the format has. -/
theorem LeadsTo.unique (one : LeadsTo extension text behind) (other : LeadsTo extension text behind')
    (ends : StartsWithLineEnd behind) (ends' : StartsWithLineEnd behind') : behind = behind' := by
  obtain ⟨c, rest, rfl, isEnd⟩ := ends
  obtain ⟨c', rest', rfl, isEnd'⟩ := ends'
  have stop := isPad_of_isLineEnd isEnd
  have stop' := isPad_of_isLineEnd isEnd'
  have point : Text.isPad '.' = false := by decide
  have other' {d : Char} (ending : Text.isLineEnd d = true) : d ≠ '.' := by
    rintro rfl
    cases ending
  cases one with
  | bare whole all =>
    cases other with
    | bare whole' all' => exact (span_unique (whole.symm.trans whole') all stop all' stop').2
    | formatted whole' all' =>
      have same := (span_unique (whole.symm.trans whole') all stop all' point).2
      exact absurd (List.cons.inj same).1 (other' isEnd)
  | formatted whole all letter allTrail =>
    cases other with
    | bare whole' all' =>
      have same := (span_unique (whole.symm.trans whole') all point all' stop').2
      exact absurd (List.cons.inj same).1.symm (other' isEnd')
    | formatted whole' all' letter' allTrail' =>
      have same := (span_unique (whole.symm.trans whole') all point all' point).2
      have long : _ = _ := letter.length_eq.symm.trans letter'.length_eq
      obtain ⟨_, trails⟩ := List.append_inj (List.cons.inj same).2 long
      exact (span_unique trails allTrail stop allTrail' stop').2

/-! ### Where the block of a title ends -/

theorem afterClose?_of_isLineEnd {c : Char} (isEnd : Text.isLineEnd c = true) (rest : List Char) :
    afterClose? (c :: rest) = none := by
  have other : '@' ≠ c := by
    rintro rfl
    cases isEnd
  simp [afterClose?, Text.after?, closeMark, other]

/-- A line end is no part of a closing delimiter, so the first one may as well be looked for from the line end on. -/
theorem FirstClose.lineEnd {lineEnd rest body : List Char} (broken : lineEnd ∈ lineEnds)
    (close : FirstClose rest body behind) : FirstClose (lineEnd ++ rest) (lineEnd ++ body) behind := by
  have step {c : Char} {rest body : List Char} (isEnd : Text.isLineEnd c = true) (close : FirstClose rest body behind) :
      FirstClose (c :: rest) (c :: body) behind :=
    (firstClose_cons (afterClose?_of_isLineEnd isEnd rest)).2 ⟨body, rfl, close⟩
  simp only [lineEnds, List.mem_cons, List.not_mem_nil, or_false] at broken
  rcases broken with rfl | rfl | rfl
  · exact step (by decide) (step (by decide) close)
  · exact step (by decide) close
  · exact step (by decide) close

/-- What a reading leaves open of the text behind a title. -/
def TitledParts.afterTitle (parts : TitledParts) (behind : List Char) : List Char :=
  parts.gap ++ (parts.suffix ++ (parts.trail ++ (parts.lineEnd ++ (parts.body ++ closeMark ++ behind))))

theorem TitledAt.whole_eq {parts : TitledParts} (block : TitledAt title extension text parts behind) :
    text = openMark ++ (parts.pads ++ (title ++ parts.afterTitle behind)) := by
  rw [block.whole, TitledParts.titleLine, TitledParts.afterTitle]
  simp only [List.append_assoc]

theorem TitledAt.leadsTo {parts : TitledParts} (block : TitledAt title extension text parts behind) :
    LeadsTo extension (parts.afterTitle behind) (parts.lineEnd ++ (parts.body ++ closeMark ++ behind)) := by
  rcases block.suffix with none | ⟨letters, some, letter⟩
  · have line : parts.afterTitle behind =
        (parts.gap ++ parts.trail) ++ (parts.lineEnd ++ (parts.body ++ closeMark ++ behind)) := by
      simp only [TitledParts.afterTitle, none, List.nil_append, List.append_assoc]
    refine .bare line ?_
    intro c member
    exact (List.mem_append.1 member).elim (block.gap c) (block.trail c)
  · refine .formatted ?_ block.gap letter block.trail
    rw [TitledParts.afterTitle, some, List.cons_append]

theorem exists_split_of_pads (text : List Char) : (∀ c ∈ text, Text.isPad c = true) ∨
    ∃ pads c rest, text = pads ++ c :: rest ∧ (∀ d ∈ pads, Text.isPad d = true) ∧ Text.isPad c = false := by
  induction text with
  | nil => exact .inl (by simp)
  | cons c text ih =>
    cases pad : Text.isPad c with
    | false => exact .inr ⟨[], c, text, rfl, by simp, pad⟩
    | true =>
      rcases ih with all | ⟨pads, d, rest, rfl, all, stop⟩
      · exact .inl (List.forall_mem_cons.2 ⟨pad, all⟩)
      · exact .inr ⟨c :: pads, d, rest, rfl, List.forall_mem_cons.2 ⟨pad, all⟩, stop⟩

/-- Two readings of one text have their line ends at one place. -/
theorem TitledAt.lineEnd_unique {parts parts' : TitledParts} (one : TitledAt title extension text parts behind)
    (other : TitledAt title extension text parts' behind') :
    parts.lineEnd ++ (parts.body ++ closeMark ++ behind) = parts'.lineEnd ++ (parts'.body ++ closeMark ++ behind') := by
  have starts {parts : TitledParts} {rest : List Char} (broken : parts.lineEnd ∈ lineEnds) :
      StartsWithLineEnd (parts.lineEnd ++ rest) := by
    obtain ⟨c, tail, isEnds, isEnd⟩ := isLineEnd_of_mem_lineEnds broken
    exact ⟨c, tail ++ rest, by rw [isEnds, List.cons_append], isEnd⟩
  have same := List.append_cancel_left (one.whole_eq.symm.trans other.whole_eq)
  rcases exists_split_of_pads title with allPads | ⟨front, c, back, rfl, allFront, stop⟩
  · -- A title of padding alone cannot be told from the padding around it, and need not be.
    have first := (one.leadsTo.padded allPads).padded one.pads
    have second := (other.leadsTo.padded allPads).padded other.pads
    rw [← same] at second
    exact first.unique second (starts one.broken) (starts other.broken)
  · -- Otherwise the padding before the title ends where the title shows, so the title stands at one place.
    rw [List.append_assoc, List.append_assoc, ← List.append_assoc parts.pads, ← List.append_assoc parts'.pads,
      List.cons_append, List.cons_append] at same
    have pads {parts : TitledParts} (all : ∀ d ∈ parts.pads, Text.isPad d = true) :
        ∀ d ∈ parts.pads ++ front, Text.isPad d = true := by
      intro d member
      exact (List.mem_append.1 member).elim (all d) (allFront d)
    have shown := (span_unique same (pads one.pads) stop (pads other.pads) stop).2
    have behindTitle := List.append_cancel_left (List.cons.inj shown).2
    have second := other.leadsTo
    rw [← behindTitle] at second
    exact one.leadsTo.unique second (starts one.broken) (starts other.broken)

/-- However a text is read as a block with this title, the block ends at one place. -/
theorem TitledAt.behind_unique {parts parts' : TitledParts} (one : TitledAt title extension text parts behind)
    (other : TitledAt title extension text parts' behind') : behind = behind' := by
  have first := one.closed.lineEnd one.broken
  have second := other.closed.lineEnd other.broken
  rw [one.lineEnd_unique other] at first
  exact (first.unique second).2

/-! ### The search -/

theorem afterTitled?_eq_some : afterTitled? title extension text = some behind ↔
    ∃ parts, TitledAt title extension text parts behind := by
  constructor
  · exact titledAt_of_afterTitled?
  · rintro ⟨parts, block⟩
    obtain ⟨rest, found⟩ := Option.isSome_iff_exists.1 block.isSome_afterTitled?
    obtain ⟨parts', block'⟩ := titledAt_of_afterTitled? found
    rw [found, block.behind_unique block']

theorem findTitled?_eq_none : findTitled? title extension text = none ↔
    ∀ k, afterTitled? title extension (text.drop k) = none := by
  induction text with
  | nil =>
    simp only [findTitled?, List.drop_nil, true_iff]
    exact fun _ => rfl
  | cons c text ih =>
    rw [findTitled?]
    constructor
    · intro absent k
      cases here : afterTitled? title extension (c :: text) with
      | some rest =>
        rw [here] at absent
        cases absent
      | none =>
        rw [here] at absent
        cases k with
        | zero => exact here
        | succ k => exact ih.1 (Option.map_eq_none_iff.1 absent) k
    · intro absent
      have here : afterTitled? title extension (c :: text) = none := absent 0
      have later : findTitled? title extension text = none := ih.2 fun k => absent (k + 1)
      rw [here, later]
      rfl

/-- The text of a titled block. -/
def TitledParts.source (parts : TitledParts) (title : List Char) : List Char :=
  openMark ++ (parts.pads ++ (parts.titleLine title ++ (parts.body ++ closeMark)))

theorem TitledAt.source_append {parts : TitledParts} (block : TitledAt title extension text parts behind) :
    text = parts.source title ++ behind := by
  rw [block.whole, TitledParts.source]
  simp only [List.append_assoc]

/-- From `start` up to `stop` the text reads as a block with the title of `block`, character for character, and with its
    format behind a point, in letters of either case, or with none. -/
def Block.ReadsAt (block : Block) (text : List Char) (start stop : Nat) : Prop :=
  ∃ parts behind, TitledAt block.title.toList block.extension.toList (text.drop start) parts behind ∧
    stop = start + (parts.source block.title.toList).length

section

variable {block : Block} {document matched : String} {position start stop : Nat}

theorem Block.ReadsAt.stop_unique {stop' : Nat} (one : block.ReadsAt text start stop)
    (other : block.ReadsAt text start stop') : stop = stop' := by
  obtain ⟨parts, behind, reads, rfl⟩ := one
  obtain ⟨parts', behind', reads', rfl⟩ := other
  have same := reads.source_append.symm.trans reads'.source_append
  rw [reads.behind_unique reads'] at same
  rw [List.append_cancel_right same]

theorem Block.exists_readsAt : (∃ stop, block.ReadsAt text start stop) ↔
    (afterTitled? block.title.toList block.extension.toList (text.drop start)).isSome := by
  rw [Option.isSome_iff_exists]
  constructor
  · rintro ⟨_, parts, behind, reads, _⟩
    exact ⟨behind, afterTitled?_eq_some.2 ⟨parts, reads⟩⟩
  · rintro ⟨behind, found⟩
    obtain ⟨parts, reads⟩ := titledAt_of_afterTitled? found
    exact ⟨_, parts, behind, reads, rfl⟩

/-- What the search comes to is a block with the title, and nothing before it is one. -/
theorem Block.readsAt_of_search? (found : block.search? document position = some (start, stop, matched)) :
    IsLeast {start | position ≤ start ∧ ∃ stop, block.ReadsAt document.toList start stop} start ∧
      block.ReadsAt document.toList start stop ∧
      matched = String.ofList ((document.toList.drop start).take (stop - start)) := by
  obtain ⟨⟨before, source, rest⟩, here, same⟩ := Option.map_eq_some_iff.1 found
  cases same
  obtain ⟨whole, first, earlier⟩ := findTitled?_eq_some here
  have place : document.toList.drop (position + before.length) = source ++ rest := by
    rw [← List.drop_drop, whole, List.drop_left]
  obtain ⟨parts, reads⟩ := titledAt_of_afterTitled? first
  have taken : source = parts.source block.title.toList := List.append_cancel_right reads.source_append
  have reads' : block.ReadsAt document.toList (position + before.length)
      (position + before.length + source.length) := ⟨parts, rest, place ▸ reads, by rw [taken]⟩
  refine ⟨⟨⟨Nat.le_add_right _ _, _, reads'⟩, ?_⟩, reads', ?_⟩
  · rintro other ⟨above, readable⟩
    by_contra below
    have none := earlier (other - position) (by omega)
    rw [List.drop_drop, Nat.add_sub_cancel' above] at none
    rw [Block.exists_readsAt, none] at readable
    cases readable
  · rw [place, Nat.add_sub_cancel_left, List.take_left]

theorem Block.search?_eq_none : block.search? document position = none ↔
    ∀ start, position ≤ start → ∀ stop, ¬ block.ReadsAt document.toList start stop := by
  rw [Block.search?, Option.map_eq_none_iff, findTitled?_eq_none]
  constructor
  · intro absent start above stop reads
    have none := absent (start - position)
    rw [List.drop_drop, Nat.add_sub_cancel' above] at none
    have readable := Block.exists_readsAt.1 ⟨stop, reads⟩
    rw [none] at readable
    cases readable
  · intro absent k
    rw [List.drop_drop, ← Option.not_isSome_iff_eq_none, ← Block.exists_readsAt]
    rintro ⟨stop, reads⟩
    exact absent (position + k) (Nat.le_add_right _ _) stop reads

end

/-- The search comes to the least position, not before the one it starts from, at which the text reads as a block with
    this title and format, and to the place behind the first closing delimiter that follows the line end there. That
    place does not depend on how the text is read. There is no result just when no position is one of a block. -/
theorem search?_finds_least (block : Block) (text : String) (position : Nat) :
    (∀ start stop matched, block.search? text position = some (start, stop, matched) ↔
      IsLeast {start | position ≤ start ∧ ∃ stop, block.ReadsAt text.toList start stop} start ∧
        block.ReadsAt text.toList start stop ∧
        matched = String.ofList ((text.toList.drop start).take (stop - start))) ∧
    (block.search? text position = none ↔
      ∀ start, position ≤ start → ∀ stop, ¬ block.ReadsAt text.toList start stop) ∧
    ∀ start stop stop', block.ReadsAt text.toList start stop → block.ReadsAt text.toList start stop' →
      stop = stop' := by
  refine ⟨fun start stop matched => ⟨Block.readsAt_of_search?, ?_⟩, Block.search?_eq_none,
    fun start stop stop' one other => one.stop_unique other⟩
  rintro ⟨least, reads, rfl⟩
  cases found : block.search? text position with
  | none => exact absurd reads (Block.search?_eq_none.1 found start least.1.1 stop)
  | some result =>
    obtain ⟨start', stop', matched'⟩ := result
    obtain ⟨least', reads', rfl⟩ := Block.readsAt_of_search? found
    obtain rfl := least'.unique least
    rw [reads'.stop_unique reads]

-- The padding before a title of padding is not the title, and a format of nothing needs its point only.
example : (⟨0, "", " ", "", "", 0, 0, none⟩ : Block).search? "@startuml .\n@enduml @startuml  .\r\nA\n@enduml_@enduml" 0 =
    some (20, 51, "@startuml  .\r\nA\n@enduml_@enduml") := by
  decide +kernel

end DiagramWeave
