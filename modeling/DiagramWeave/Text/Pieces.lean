import DiagramWeave.Text.Blank

/-!
# Reading a text piece by piece

Readers take the front of a character list and hand on the rest. The lemmas say that a reader which
consumed something left a shorter text, which is what lets a scan over the whole text end.
-/
namespace DiagramWeave.Text

/-- The text behind `mark`, when the text starts with it. -/
def after? : List Char → List Char → Option (List Char)
  | [], text => some text
  | c :: mark, d :: text => if c = d then after? mark text else none
  | _ :: _, [] => none

theorem after?_eq_some {mark text rest : List Char} :
    after? mark text = some rest ↔ text = mark ++ rest := by
  induction mark generalizing text with
  | nil => simp [after?, eq_comm]
  | cons c mark ih =>
    cases text with
    | nil => simp [after?]
    | cons d text =>
      by_cases same : c = d
      · simp [after?, same, ih]
      · simp [after?, same, Ne.symm same]

/-- The text behind one line end, where carriage return and line feed together count as one. -/
def afterBreak? : List Char → Option (List Char)
  | '\r' :: '\n' :: rest => some rest
  | '\r' :: rest => some rest
  | '\n' :: rest => some rest
  | _ => none

theorem afterBreak?_length {text rest : List Char} (read : afterBreak? text = some rest) :
    rest.length < text.length := by
  unfold afterBreak? at read
  split at read
  · cases read
    simp only [List.length_cons]
    omega
  · cases read
    exact Nat.lt_succ_self _
  · cases read
    exact Nat.lt_succ_self _
  · cases read

/-- The text before and behind the last `mark`. -/
def splitLast? (mark : Char) : List Char → Option (List Char × List Char)
  | [] => none
  | c :: rest =>
    match splitLast? mark rest with
    | some (before, behind) => some (c :: before, behind)
    | none => if c = mark then some ([], rest) else none

/-- The text before and behind the first `mark`. -/
def splitFirst? (mark : Char) : List Char → Option (List Char × List Char)
  | [] => none
  | c :: rest =>
    if c = mark then some ([], rest)
    else (splitFirst? mark rest).map fun parts => (c :: parts.1, parts.2)

theorem splitFirst?_eq_some {mark : Char} {text before behind : List Char}
    (read : splitFirst? mark text = some (before, behind)) : text = before ++ mark :: behind := by
  induction text generalizing before with
  | nil => simp [splitFirst?] at read
  | cons c rest ih =>
    unfold splitFirst? at read
    split at read
    · next same =>
      cases read
      rw [same, List.nil_append]
    · simp only [Option.map_eq_some_iff] at read
      obtain ⟨parts, found, same⟩ := read
      cases same
      rw [List.cons_append, ← ih found]

/-- The parts between the marks: one more than there are marks. -/
def splitOn (mark : Char) : List Char → List (List Char)
  | [] => [[]]
  | c :: rest =>
    if c = mark then [] :: splitOn mark rest
    else match splitOn mark rest with
      | part :: parts => (c :: part) :: parts
      | [] => [[c]]

/-- The text holds `mark` somewhere. -/
def holds (mark : List Char) : List Char → Bool
  | [] => mark.isEmpty
  | c :: rest => (after? mark (c :: rest)).isSome || holds mark rest

end DiagramWeave.Text
