import DiagramWeave.Environment
import DiagramWeave.Proofs.Block.Grammar

/-!
# References are replaced in one pass

What a reference to a variable is, said without a reader, and how a text is cut into references and what stands between
them: each reference is the next one from the left behind the one before it. There is one such cut of a text, and the
segments that the reader finds are those of the cut. What a reference stands for is not looked at again.
-/
namespace DiagramWeave

/-! ### References -/

/-- The mention of a variable: its name, and a default if there is one. -/
structure Mention where
  name : List Char
  fallback : Option (List Char)

namespace Mention

/-- The mention as it is written. -/
def written (mention : Mention) : List Char :=
  '$' :: '\x7b' :: (mention.name ++ (mention.fallback.elim [] (':' :: '-' :: ·) ++ ['\x7d']))

/-- A name is not empty and holds no closing brace and no colon, and a default holds no closing brace. -/
structure WellFormed (mention : Mention) : Prop where
  named : mention.name ≠ []
  name : ∀ c ∈ mention.name, c ≠ '\x7d' ∧ c ≠ ':'
  fallback : ∀ text, mention.fallback = some text → '\x7d' ∉ text

/-- The value of the variable when it is set, or else the default. -/
def value? (environment : Environment) (mention : Mention) : Option (List Char) :=
  ((environment.get? (String.ofList mention.name)).map String.toList).or mention.fallback

/-- The name of a variable that is not set and has no default. -/
def missing? (environment : Environment) (mention : Mention) : Option String :=
  if mention.value? environment = none then some (String.ofList mention.name) else none

/-- The mention as the reader hands it on. -/
def segment (mention : Mention) : Segment :=
  .reference mention.name mention.fallback

end Mention

/-- A mention starts the text. -/
def Mentions (text : List Char) : Prop :=
  ∃ mention rest, Mention.WellFormed mention ∧ text = mention.written ++ rest

/-! ### The reader of one reference -/

theorem splitFirst?_of_free {mark : Char} {before : List Char} (behind : List Char) (free : mark ∉ before) :
    Text.splitFirst? mark (before ++ mark :: behind) = some (before, behind) := by
  induction before with
  | nil => simp [Text.splitFirst?]
  | cons c before ih =>
    rw [List.mem_cons, not_or] at free
    rw [List.cons_append, Text.splitFirst?, if_neg (Ne.symm free.1), ih free.2]
    rfl

theorem not_mem_of_splitFirst? {mark : Char} {text before behind : List Char}
    (read : Text.splitFirst? mark text = some (before, behind)) : mark ∉ before := by
  induction text generalizing before with
  | nil => cases read
  | cons c rest ih =>
    rw [Text.splitFirst?] at read
    split at read
    · cases read
      exact List.not_mem_nil
    next other =>
      obtain ⟨parts, found, same⟩ := Option.map_eq_some_iff.1 read
      cases same
      rw [List.mem_cons, not_or]
      exact ⟨Ne.symm other, ih found⟩

theorem isNameCharacter_iff {c : Char} : Segment.isNameCharacter c = true ↔ c ≠ '\x7d' ∧ c ≠ ':' := by
  simp [Segment.isNameCharacter]

/-- What is read as a reference is one. -/
theorem exists_mention_of_reference? {text rest : List Char} {segment : Segment}
    (read : Segment.reference? text = some (segment, rest)) :
    ∃ mention, Mention.WellFormed mention ∧ segment = mention.segment ∧
      '$' :: '\x7b' :: text = mention.written ++ rest := by
  have whole := List.takeWhile_append_dropWhile (p := Segment.isNameCharacter) (l := text)
  have letters : ∀ c ∈ text.takeWhile Segment.isNameCharacter, c ≠ '\x7d' ∧ c ≠ ':' := by
    intro c member
    exact isNameCharacter_iff.1 (List.mem_takeWhile_imp member)
  unfold Segment.reference? at read
  generalize text.takeWhile Segment.isNameCharacter = name at read whole letters
  generalize text.dropWhile Segment.isNameCharacter = left at read whole
  split at read
  · cases read
  next filled =>
    cases read
    refine ⟨⟨name, none⟩, ⟨filled, letters, nofun⟩, rfl, ?_⟩
    rw [← whole]
    simp [Mention.written]
  next tail filled =>
    obtain ⟨parts, closed, same⟩ := Option.map_eq_some_iff.1 read
    cases same
    refine ⟨⟨name, some parts.1⟩, ⟨filled, letters, ?_⟩, rfl, ?_⟩
    · rintro _ ⟨⟩
      exact not_mem_of_splitFirst? closed
    · rw [← whole, Text.splitFirst?_eq_some closed]
      simp [Mention.written]
  · cases read

/-- Every mention is read, and up to its end. -/
theorem Mention.WellFormed.reference? {mention : Mention} (wellFormed : mention.WellFormed) {text rest : List Char}
    (starts : '$' :: '\x7b' :: text = mention.written ++ rest) :
    Segment.reference? text = some (mention.segment, rest) := by
  obtain ⟨name, fallback⟩ := mention
  obtain ⟨c, more, rfl⟩ : ∃ c more, name = c :: more := List.exists_cons_of_ne_nil wellFormed.named
  have letters : ∀ d ∈ c :: more, Segment.isNameCharacter d = true := by
    intro d member
    exact isNameCharacter_iff.2 (wellFormed.name d member)
  cases fallback with
  | none =>
    have split : text = (c :: more) ++ '\x7d' :: rest := by simpa [written] using starts
    obtain ⟨name, left⟩ := span_append rest letters (c := '\x7d') (by decide)
    rw [Segment.reference?, split, name, left]
    rfl
  | some default =>
    have split : text = (c :: more) ++ ':' :: '-' :: (default ++ '\x7d' :: rest) := by simpa [written] using starts
    obtain ⟨name, left⟩ := span_append ('-' :: (default ++ '\x7d' :: rest)) letters (c := ':') (by decide)
    rw [Segment.reference?, split, name, left]
    simp only [splitFirst?_of_free rest (wellFormed.fallback default rfl), Option.map_some]
    rfl

theorem Mention.written_unique {mention other : Mention} {rest rest' : List Char} (wellFormed : mention.WellFormed)
    (wellFormed' : other.WellFormed) (same : mention.written ++ rest = other.written ++ rest') :
    mention = other ∧ rest = rest' := by
  obtain ⟨text, starts⟩ : ∃ text, '$' :: '\x7b' :: text = mention.written ++ rest := ⟨_, rfl⟩
  have read := wellFormed.reference? starts
  rw [wellFormed'.reference? (starts.trans same)] at read
  obtain ⟨segments, rests⟩ := Prod.mk.inj (Option.some.inj read)
  obtain ⟨names, fallbacks⟩ := Segment.reference.inj segments
  cases mention
  cases other
  simp_all

/-! ### One pass -/

/-- The text is cut into mentions, each with what stands in front of it, and what is left behind the last. Behind each
    mention the next one is the first that starts there. -/
inductive Pass : List Char → List (List Char × Mention) → List Char → Prop
  | done {text : List Char} : (∀ k, ¬ Mentions (text.drop k)) → Pass text [] text
  | next {gap rest tail : List Char} {mention : Mention} {places : List (List Char × Mention)} :
      (∀ k < gap.length, ¬ Mentions ((gap ++ (mention.written ++ rest)).drop k)) → mention.WellFormed →
      Pass rest places tail → Pass (gap ++ (mention.written ++ rest)) ((gap, mention) :: places) tail

/-- The text with something in place of each mention. -/
def fill (shown : Mention → List Char) (places : List (List Char × Mention)) (tail : List Char) : List Char :=
  (places.flatMap fun place => place.1 ++ shown place.2) ++ tail

/-- The segments of a text that is cut. -/
def segmentsOf (places : List (List Char × Mention)) (tail : List Char) : List Segment :=
  (places.flatMap fun place => place.1.map .plain ++ [place.2.segment]) ++ tail.map .plain

namespace Pass

variable {text tail tail' : List Char} {places places' : List (List Char × Mention)}

/-- Nothing is lost in a pass. -/
theorem fill_written (pass : Pass text places tail) : fill Mention.written places tail = text := by
  induction pass with
  | done => rfl
  | next _ _ _ ih =>
    rw [fill] at ih ⊢
    rw [List.flatMap_cons, List.append_assoc, ih, List.append_assoc]

/-- Of two cuts neither has its first mention before that of the other. -/
theorem unique (pass : Pass text places tail) (other : Pass text places' tail') : places = places' ∧ tail = tail' := by
  -- A mention stands where a gap ends.
  have stands (gap rest : List Char) {mention : Mention} (wellFormed : mention.WellFormed) :
      Mentions ((gap ++ (mention.written ++ rest)).drop gap.length) := by
    rw [List.drop_left]
    exact ⟨mention, rest, wellFormed, rfl⟩
  induction pass generalizing places' tail' with
  | done absent =>
    cases other with
    | done => exact ⟨rfl, rfl⟩
    | @next gap rest _ _ _ _ wellFormed => exact absurd (stands gap rest wellFormed) (absent _)
  | @next gap rest tail mention places first wellFormed more ih =>
    generalize same : gap ++ (mention.written ++ rest) = text at other first
    cases other with
    | done absent => exact absurd (same ▸ stands gap rest wellFormed) (absent _)
    | @next gap' rest' _ mention' _ first' wellFormed' more' =>
      have wide : gap.length = gap'.length := by
        apply Nat.le_antisymm
        · by_contra shorter
          exact first _ (Nat.lt_of_not_le shorter) (stands gap' rest' wellFormed')
        · by_contra shorter
          exact first' _ (Nat.lt_of_not_le shorter) (same ▸ stands gap rest wellFormed)
      obtain ⟨rfl, mentions⟩ := List.append_inj same wide
      obtain ⟨rfl, rfl⟩ := Mention.written_unique wellFormed wellFormed' mentions
      obtain ⟨rfl, rfl⟩ := ih more'
      exact ⟨rfl, rfl⟩

/-- A character in front of which no mention starts joins what stands in front of the first mention. -/
theorem exists_cons {c : Char} (pass : Pass text places tail) (absent : ¬ Mentions (c :: text)) :
    ∃ places' tail', Pass (c :: text) places' tail' ∧
      segmentsOf places' tail' = .plain c :: segmentsOf places tail := by
  cases pass with
  | done free =>
    refine ⟨[], c :: text, .done ?_, rfl⟩
    intro k
    cases k with
    | zero => exact absent
    | succ k => exact free k
  | @next gap rest _ mention places first wellFormed more =>
    have later : ∀ k < (c :: gap).length, ¬ Mentions (((c :: gap) ++ (mention.written ++ rest)).drop k) := by
      intro k below
      cases k with
      | zero => exact absent
      | succ k => exact first k (Nat.lt_of_succ_lt_succ below)
    exact ⟨(c :: gap, mention) :: places, tail, .next later wellFormed more, rfl⟩

end Pass

/-- The segments of a text are those of a pass over it. -/
theorem exists_pass (text : List Char) :
    ∃ places tail, Pass text places tail ∧ Segment.ofText text = segmentsOf places tail := by
  induction text using Segment.ofText.induct with
  | case1 =>
    refine ⟨[], [], .done ?_, by rw [Segment.ofText]; rfl⟩
    rintro k ⟨mention, rest, _, starts⟩
    rw [List.drop_nil] at starts
    cases starts
  | case2 text segment rest read ih =>
    obtain ⟨places, tail, pass, segments⟩ := ih
    obtain ⟨mention, wellFormed, rfl, starts⟩ := exists_mention_of_reference? read
    refine ⟨([], mention) :: places, tail, ?_, ?_⟩
    · rw [starts, ← List.nil_append (mention.written ++ rest)]
      exact .next (fun _ below => absurd below (Nat.not_lt_zero _)) wellFormed pass
    · rw [Segment.ofText]
      split
      next read' =>
        rw [read] at read'
        cases read'
        rw [segments]
        rfl
      next unread =>
        rw [read] at unread
        cases unread
  | case3 text unread ih =>
    obtain ⟨places, tail, pass, segments⟩ := ih
    -- Neither the dollar sign nor the brace behind it starts a mention.
    have brace : ¬ Mentions ('\x7b' :: text) := by
      rintro ⟨mention, rest, _, starts⟩
      exact absurd (List.cons.inj starts).1 (by decide)
    have dollar : ¬ Mentions ('$' :: '\x7b' :: text) := by
      rintro ⟨mention, rest, wellFormed, starts⟩
      rw [wellFormed.reference? starts] at unread
      cases unread
    obtain ⟨_, _, passBrace, segmentsBrace⟩ := pass.exists_cons brace
    obtain ⟨places', tail', passDollar, segmentsDollar⟩ := passBrace.exists_cons dollar
    refine ⟨places', tail', passDollar, ?_⟩
    rw [Segment.ofText, segmentsDollar, segmentsBrace, ← segments]
    split
    next read =>
      rw [read] at unread
      cases unread
    · rfl
  | case4 c text other ih =>
    obtain ⟨places, tail, pass, segments⟩ := ih
    have absent : ¬ Mentions (c :: text) := by
      rintro ⟨mention, rest, _, starts⟩
      rw [Mention.written, List.cons_append, List.cons.injEq] at starts
      exact other _ starts.1 starts.2
    obtain ⟨places', tail', passMore, segmentsMore⟩ := pass.exists_cons absent
    refine ⟨places', tail', passMore, ?_⟩
    rw [segmentsMore, ← segments, Segment.ofText]
    exact other

end DiagramWeave
