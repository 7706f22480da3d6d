import DiagramWeave.Json.Read
import DiagramWeave.Json.Write
import DiagramWeave.Proofs.Text.Cuts

/-!
# Numbers read as they are written

An integer is written by its digits, and the reader puts them together again. A float is written by a decimal with a
point or an exponent, whose spelling follows the grammar of JSON: no zero in front of the whole part, and a digit on both
sides of the point. So it is read as a float.
-/
namespace DiagramWeave

/-! ### Rows of digits -/

def IsDigits (text : List Char) : Prop :=
  ∀ c ∈ text, isDecimalDigit c = true

theorem isDigits_toDigits (number : Nat) : IsDigits (Nat.toDigits 10 number) := by
  intro c member
  have digit := Nat.isDigit_of_mem_toDigits (by decide) (by decide) member
  simpa [Char.isDigit, isDecimalDigit, Char.le_def] using digit

theorem readDigits_toDigits (number : Nat) : Decimal.readDigits (Nat.toDigits 10 number) = number :=
  Nat.ofDigitChars_ten_toDigits

/-- The digits of a positive number begin with its highest. -/
theorem exists_toDigits_eq_cons (number : Nat) (positive : 0 < number) :
    ∃ c rest, Nat.toDigits 10 number = c :: rest ∧ c ≠ '0' := by
  induction number using Nat.strongRecOn with
  | ind number ih =>
    by_cases small : number < 10
    · have every : ∀ digit < 10, 0 < digit → Nat.digitChar digit ≠ '0' := by decide
      exact ⟨_, [], Nat.toDigits_of_lt_base small, every number small positive⟩
    · obtain ⟨c, rest, same, other⟩ := ih (number / 10) (by omega) (by omega)
      refine ⟨c, rest ++ [(number % 10).digitChar], ?_, other⟩
      rw [Nat.toDigits_of_base_le (by decide) (by omega), same, List.cons_append]

namespace Json

theorem isWholePart_cons {c : Char} (other : c ≠ '0') (rest : List Char) : isWholePart (c :: rest) = true := by
  unfold isWholePart
  split
  next none => cases none
  next zero => exact absurd (List.cons.inj zero).1 other
  next => rfl

theorem isWholePart_toDigits (number : Nat) : isWholePart (Nat.toDigits 10 number) = true := by
  rcases Nat.eq_zero_or_pos number with rfl | positive
  · rfl
  · obtain ⟨c, rest, same, other⟩ := exists_toDigits_eq_cons number positive
    rw [same]
    exact isWholePart_cons other rest

/-! ### Spellings -/

/-- How a number without a sign is spelled. -/
structure Spelling where
  whole : List Char
  fraction : List Char
  /-- The sign of the exponent and its digits. -/
  exponent : Option (Bool × List Char)
  whole_isWholePart : isWholePart whole = true
  whole_isDigits : IsDigits whole
  fraction_isDigits : IsDigits fraction
  exponent_isDigits : ∀ negative digits, exponent = some (negative, digits) → digits ≠ [] ∧ IsDigits digits

/-- A sign in front of a number. -/
def signText (negative : Bool) : List Char :=
  if negative then ['-'] else []

def fractionText (fraction : List Char) : List Char :=
  if fraction.isEmpty then [] else '.' :: fraction

def exponentText : Option (Bool × List Char) → List Char
  | none => []
  | some (negative, digits) => 'e' :: (if negative then '-' else '+') :: digits

namespace Spelling

variable (spelling : Spelling)

/-- What stands behind the whole part. -/
def tail : List Char :=
  fractionText spelling.fraction ++ exponentText spelling.exponent

def text : List Char :=
  spelling.whole ++ spelling.tail

/-- A number is a float if it has a fraction or an exponent. -/
def IsFloat : Prop :=
  spelling.fraction ≠ [] ∨ spelling.exponent ≠ none

/-- The decimal digits of a number. -/
def ofNat (number : Nat) : Spelling where
  whole := Nat.toDigits 10 number
  fraction := []
  exponent := none
  whole_isWholePart := isWholePart_toDigits number
  whole_isDigits := isDigits_toDigits number
  fraction_isDigits := nofun
  exponent_isDigits := nofun

theorem exists_whole_eq_cons : ∃ c rest, spelling.whole = c :: rest ∧ isDecimalDigit c = true := by
  cases same : spelling.whole with
  | nil =>
    have part := spelling.whole_isWholePart
    rw [same] at part
    cases part
  | cons c rest => exact ⟨c, rest, rfl, spelling.whole_isDigits c (same ▸ List.mem_cons_self)⟩

theorem ends_exponentText (exponent : Option (Bool × List Char)) : Ends isDecimalDigit (exponentText exponent) := by
  cases exponent with
  | none => nofun
  | some exponent =>
    rintro c ⟨⟩
    decide

theorem ends_tail : Ends isDecimalDigit spelling.tail := by
  rw [tail, fractionText]
  split
  · exact ends_exponentText spelling.exponent
  · rintro c ⟨⟩
    decide

theorem takeWhile_text : spelling.text.takeWhile isDecimalDigit = spelling.whole :=
  takeWhile_append_of_ends spelling.whole_isDigits spelling.ends_tail

theorem dropWhile_text : spelling.text.dropWhile isDecimalDigit = spelling.tail :=
  dropWhile_append_of_ends spelling.whole_isDigits spelling.ends_tail

theorem isTail_tail : isTail spelling.tail = true := by
  rw [tail, fractionText]
  cases digits : spelling.fraction with
  | nil =>
    cases spelling.exponent <;> rfl
  | cons c rest => exact spelling.fraction_isDigits c (digits ▸ List.mem_cons_self)

theorem tail_eq_nil : spelling.tail = [] ↔ ¬ spelling.IsFloat := by
  rw [tail, IsFloat, fractionText]
  cases spelling.fraction <;> cases spelling.exponent <;> simp [exponentText]

theorem splitSign_exponent (negative : Bool) (digits : List Char) :
    Decimal.splitSign ((if negative then '-' else '+') :: digits) = (negative, digits) := by
  cases negative <;> rfl

theorem splitFraction_tail :
    Decimal.splitFraction spelling.tail = (spelling.fraction, exponentText spelling.exponent) := by
  have ends := ends_exponentText spelling.exponent
  rw [tail, fractionText]
  cases fraction : spelling.fraction with
  | nil =>
    rw [List.isEmpty_nil, if_pos rfl, List.nil_append]
    cases spelling.exponent <;> rfl
  | cons c rest =>
    have digits : IsDigits (c :: rest) := fraction ▸ spelling.fraction_isDigits
    rw [List.isEmpty_cons, if_neg Bool.false_ne_true, List.cons_append, Decimal.splitFraction,
      takeWhile_append_of_ends digits ends, dropWhile_append_of_ends digits ends]

theorem exists_exponent : ∃ size, Decimal.exponent? (exponentText spelling.exponent) = some size := by
  cases same : spelling.exponent with
  | none => exact ⟨0, rfl⟩
  | some sized =>
    obtain ⟨negative, digits⟩ := sized
    obtain ⟨some_digits, all⟩ := spelling.exponent_isDigits negative digits same
    have left : digits.isEmpty = false := List.isEmpty_eq_false_iff.2 some_digits
    have allDigits : digits.all isDecimalDigit = true := List.all_eq_true.2 all
    rw [exponentText, Decimal.exponent?, if_pos (.inl rfl), splitSign_exponent]
    simp only [left, allDigits, Bool.not_true, Bool.or_self, Bool.false_eq_true, if_false]
    exact ⟨_, rfl⟩

theorem exists_parts : ∃ scale, Decimal.parts? spelling.text =
    some (Decimal.readDigits (spelling.whole ++ spelling.fraction), scale) := by
  obtain ⟨c, rest, whole, _⟩ := spelling.exists_whole_eq_cons
  obtain ⟨size, exponent⟩ := spelling.exists_exponent
  have left : spelling.whole.isEmpty = false := by rw [whole]; rfl
  simp only [Decimal.parts?, takeWhile_text, dropWhile_text, splitFraction_tail, exponent, left, Bool.false_and,
    Bool.false_eq_true, if_false, Option.map_some]
  exact ⟨_, rfl⟩

theorem splitMinus_text (negative : Bool) :
    splitMinus (signText negative ++ spelling.text) = (negative, spelling.text) := by
  cases negative with
  | true => rfl
  | false =>
    obtain ⟨c, rest, whole, digit⟩ := spelling.exists_whole_eq_cons
    rw [signText, if_neg Bool.false_ne_true, List.nil_append, text, whole, List.cons_append]
    unfold splitMinus
    split
    next minus =>
      cases minus
      cases digit
    next => rfl

theorem number?_text (negative : Bool) : number? (signText negative ++ spelling.text) =
    if spelling.tail.isEmpty then
      some (.int (if negative then -(Decimal.readDigits spelling.whole : Int) else Decimal.readDigits spelling.whole))
    else (Decimal.parts? spelling.text).map fun (digits, scale) =>
      .float (Decimal.signed negative (Decimal.nearest digits scale)) := by
  have grammar : (isWholePart spelling.whole && isTail spelling.tail) = true := by
    rw [spelling.whole_isWholePart, spelling.isTail_tail]
    rfl
  simp only [number?, splitMinus_text, takeWhile_text, dropWhile_text, grammar, Bool.not_true, Bool.false_eq_true,
    if_false]

theorem exists_float (negative : Bool) (isFloat : spelling.IsFloat) :
    ∃ number, number? (signText negative ++ spelling.text) = some (.float number) := by
  obtain ⟨scale, parts⟩ := spelling.exists_parts
  have left : ¬ spelling.tail.isEmpty = true := by
    rw [List.isEmpty_iff, tail_eq_nil, not_not]
    exact isFloat
  rw [number?_text, if_neg left, parts]
  exact ⟨_, rfl⟩

theorem text_ofNat (number : Nat) : (ofNat number).text = Nat.toDigits 10 number :=
  List.append_nil _

end Spelling

theorem number?_toDigits (negative : Bool) (number : Nat) : number? (signText negative ++ Nat.toDigits 10 number) =
    some (.int (if negative then -(number : Int) else number)) := by
  have spelled := (Spelling.ofNat number).number?_text negative
  have whole : (Spelling.ofNat number).tail.isEmpty = true := rfl
  rw [Spelling.text_ofNat, if_pos whole, Spelling.ofNat, readDigits_toDigits] at spelled
  exact spelled

theorem toList_toString_int (number : Int) :
    (toString number).toList = signText (decide (number < 0)) ++ Nat.toDigits 10 number.natAbs := by
  cases number with
  | ofNat magnitude => simp [signText, toString, Int.repr]
  | negSucc magnitude => simp [signText, toString, Int.repr, Int.negSucc_lt_zero]

theorem number?_int (number : Int) : number? (toString number).toList = some (.int number) := by
  rw [toList_toString_int, number?_toDigits]
  by_cases negative : number < 0
  · simp only [negative, decide_true, if_true]
    congr 2
    omega
  · simp only [negative, decide_false, Bool.false_eq_true, if_false]
    congr 2
    omega

/-! ### Decimals as they are laid out -/

section

variable {digits : Nat} {scale : Int}

theorem ne_zero_of_onGrid? {binary : Decimal.Binary} (found : Decimal.onGrid? binary scale = some digits) :
    digits ≠ 0 := by
  rintro rfl
  simp only [Decimal.onGrid?] at found
  grind

theorem searchGrids_sound (binary : Decimal.Binary) (scale : Int) (grids : Nat) :
    (Decimal.searchGrids binary scale grids).1 ≠ 0 ∨ (Decimal.searchGrids binary scale grids).2 = 0 := by
  induction grids generalizing scale with
  | zero => exact .inr rfl
  | succ grids ih =>
    rw [Decimal.searchGrids]
    cases found : Decimal.onGrid? binary scale with
    | none => exact ih (scale - 1)
    | some digits => exact .inl (ne_zero_of_onGrid? found)

theorem dropZeros_sound (sound : digits ≠ 0 ∨ scale = 0) (steps : Nat) :
    (Decimal.dropZeros digits scale steps).1 ≠ 0 ∨ (Decimal.dropZeros digits scale steps).2 = 0 := by
  induction steps generalizing digits scale with
  | zero => exact sound
  | succ steps ih =>
    rw [Decimal.dropZeros]
    split
    next zero =>
      rw [Bool.and_eq_true, bne_iff_ne, beq_iff_eq] at zero
      exact ih (.inl (by omega))
    next => exact sound

/-- There is a digit other than zero unless the decimal is zero itself. -/
theorem shortest_sound (x : Float) : (Decimal.shortest x).1 ≠ 0 ∨ (Decimal.shortest x).2 = 0 :=
  dropZeros_sound (searchGrids_sound _ _ 20) 20

/-- The text is a float of the grammar. -/
def IsFloatText (text : List Char) : Prop :=
  ∃ spelling : Spelling, spelling.IsFloat ∧ text = spelling.text

variable {whole fraction shown : List Char}

theorem isFloatText_point (part : isWholePart whole = true) (wholeDigits : IsDigits whole)
    (fractionDigits : IsDigits fraction) (filled : fraction ≠ []) : IsFloatText (whole ++ '.' :: fraction) := by
  refine ⟨⟨whole, fraction, none, part, wholeDigits, fractionDigits, nofun⟩, .inl filled, ?_⟩
  rw [Spelling.text, Spelling.tail, fractionText, if_neg (by simpa using filled), exponentText, List.append_nil]

/-- One digit stands in front of the point, and the others behind it. -/
theorem isFloatText_power {c : Char} {rest padded : List Char} (negative : Bool) (digits : IsDigits (c :: rest))
    (some_padded : padded ≠ []) (paddedDigits : IsDigits padded) :
    IsFloatText (c :: (fractionText rest ++ exponentText (some (negative, padded)))) := by
  have part : isWholePart [c] = true := by
    by_cases zero : c = '0'
    · rw [zero]
      rfl
    · exact isWholePart_cons zero []
  refine ⟨⟨[c], rest, some (negative, padded), part, ?_, ?_, ?_⟩, .inr nofun, rfl⟩
  · intro d member
    exact digits d (List.mem_cons.2 (.inl (List.mem_singleton.1 member)))
  · exact fun d member => digits d (List.mem_cons_of_mem c member)
  · rintro _ _ ⟨⟩
    exact ⟨some_padded, paddedDigits⟩

theorem isDigits_append {front behind : List Char} (digitsFront : IsDigits front) (digitsBehind : IsDigits behind) :
    IsDigits (front ++ behind) := by
  intro c member
  rcases List.mem_append.1 member with member | member
  · exact digitsFront c member
  · exact digitsBehind c member

theorem isDigits_zeros (count : Nat) : IsDigits (List.replicate count '0') := by
  intro c member
  rw [List.eq_of_mem_replicate member]
  decide

theorem isFloatText_layOut (sound : digits ≠ 0 ∨ scale = 0) : IsFloatText (Decimal.layOut digits scale).toList := by
  have all := isDigits_toDigits digits
  have part := isWholePart_toDigits digits
  obtain ⟨c, rest, first⟩ := List.exists_cons_of_ne_nil (@Nat.toDigits_ne_nil digits 10)
  have other : digits ≠ 0 → c ≠ '0' := by
    intro positive
    obtain ⟨d, _, same, other⟩ := exists_toDigits_eq_cons digits (Nat.pos_of_ne_zero positive)
    rw [first] at same
    cases same
    exact other
  rw [first] at all part
  rw [Decimal.layOut, first]
  simp only
  split
  next positional =>
    split
    next small =>
      -- All digits stand behind the point, and zeros in front of them.
      have filled : List.replicate (-((c :: rest).length + scale)).toNat '0' ++ c :: rest ≠ [] := by simp
      have text := isFloatText_point rfl (isDigits_zeros 1) (isDigits_append (isDigits_zeros _) all) filled
      simpa using text
    next large =>
      split
      next integral =>
        -- Zeros fill the number up to the point.
        have leading : isWholePart (c :: rest ++ List.replicate scale.toNat '0') = true := by
          rcases sound with positive | none
          · exact isWholePart_cons (other positive) _
          · simpa [none] using part
        have text := isFloatText_point leading (isDigits_append all (isDigits_zeros _)) (isDigits_zeros 1) (by decide)
        simpa using text
      next broken =>
        have positive : digits ≠ 0 := sound.resolve_right (by omega)
        -- The point stands somewhere behind the first digit and in front of the last.
        obtain ⟨count, place⟩ : ∃ count, ((c :: rest).length + scale).toNat = count + 1 :=
          ⟨((c :: rest).length + scale).toNat - 1, by omega⟩
        have filled : rest.drop count ≠ [] := by
          rw [Ne, List.drop_eq_nil_iff]
          rw [List.length_cons] at place
          omega
        have wholeDigits : IsDigits (c :: rest.take count) := fun d member =>
          all d (List.mem_of_mem_take (i := count + 1) member)
        have fractionDigits : IsDigits (rest.drop count) := fun d member =>
          all d (List.mem_cons_of_mem c (List.mem_of_mem_drop member))
        have text := isFloatText_point (isWholePart_cons (other positive) _) wholeDigits fractionDigits filled
        rw [place]
        simpa using text
  next =>
    generalize ((c :: rest).length : Int) + scale - 1 = exponent
    have places := isDigits_toDigits exponent.natAbs
    have some_places : Nat.toDigits 10 exponent.natAbs ≠ [] := Nat.toDigits_ne_nil
    generalize Nat.toDigits 10 exponent.natAbs = shown at places some_places
    have padded : (if shown.length < 2 then '0' :: shown else shown) ≠ [] ∧
        IsDigits (if shown.length < 2 then '0' :: shown else shown) := by
      split
      · exact ⟨nofun, isDigits_append (isDigits_zeros 1) places⟩
      · exact ⟨some_places, places⟩
    have text := isFloatText_power (decide (exponent < 0)) all padded.1 padded.2
    have sign : (if exponent < 0 then "-" else "+").toList = [if exponent < 0 then '-' else '+'] := by
      split <;> rfl
    cases rest <;> simpa [fractionText, exponentText, sign] using text

end

/-- A float is written as a number of the grammar unless it has no decimal form. -/
theorem exists_render_eq (names : Decimal.SpecialNames) {x : Float} (number : x.isNaN = false)
    (bounded : x.isInf = false) :
    ∃ negative text, IsFloatText text ∧ (Decimal.render names x).toList = signText negative ++ text := by
  have sign : (if Decimal.isNegative x then "-" else "").toList = signText (Decimal.isNegative x) := by
    rw [signText]
    split <;> rfl
  rw [Decimal.render, number, if_neg Bool.false_ne_true, bounded]
  simp only [Bool.false_eq_true, if_false]
  split
  · refine ⟨Decimal.isNegative x, _, isFloatText_point rfl (isDigits_zeros 1) (isDigits_zeros 1) (by decide), ?_⟩
    rw [String.toList_append, sign]
    rfl
  · refine ⟨Decimal.isNegative x, _, isFloatText_layOut (shortest_sound x), ?_⟩
    rw [String.toList_append, sign]

/-! ### Numbers at the front of a text -/

theorem isNumberCharacter_of_digit {c : Char} (digit : isDecimalDigit c = true) : isNumberCharacter c = true := by
  simp [isNumberCharacter, digit]

theorem Spelling.isNumberCharacter_text (spelling : Spelling) : ∀ c ∈ spelling.text, isNumberCharacter c = true := by
  intro c member
  rw [text, tail, fractionText, List.mem_append, List.mem_append] at member
  rcases member with member | member | member
  · exact isNumberCharacter_of_digit (spelling.whole_isDigits c member)
  · split at member
    · cases member
    · rcases List.mem_cons.1 member with rfl | member
      · decide
      · exact isNumberCharacter_of_digit (spelling.fraction_isDigits c member)
  · cases same : spelling.exponent with
    | none =>
      rw [same] at member
      cases member
    | some sized =>
      obtain ⟨negative, digits⟩ := sized
      rw [same, exponentText] at member
      rcases List.mem_cons.1 member with rfl | member
      · decide
      · rcases List.mem_cons.1 member with rfl | member
        · cases negative <;> decide
        · exact isNumberCharacter_of_digit ((spelling.exponent_isDigits negative digits same).2 c member)

theorem isNumberCharacter_signText (negative : Bool) : ∀ c ∈ signText negative, isNumberCharacter c = true := by
  intro c member
  cases negative with
  | false => cases member
  | true =>
    rw [List.mem_singleton.1 member]
    rfl

/-- No word begins like a number. -/
theorem Spelling.word?_text (strict : Bool) (spelling : Spelling) (negative : Bool) (rest : List Char) :
    word? strict (signText negative ++ spelling.text ++ rest) = none := by
  obtain ⟨c, tail, whole, digit⟩ := spelling.exists_whole_eq_cons
  have front : ∃ tail, spelling.text = c :: tail := ⟨tail ++ spelling.tail, by rw [text, whole, List.cons_append]⟩
  obtain ⟨tail, same⟩ := front
  have other : c ≠ 'n' ∧ c ≠ 't' ∧ c ≠ 'f' ∧ c ≠ 'N' ∧ c ≠ 'I' ∧ c ≠ '-' := by
    refine ⟨?_, ?_, ?_, ?_, ?_, ?_⟩ <;> rintro rfl <;> cases digit
  obtain ⟨null, yes, no, nan, infinity, minus⟩ := other
  rw [same]
  cases strict <;> cases negative <;> simp [word?, words, plainWords, floatWords, signText, List.isPrefixOf?,
    Ne.symm null, Ne.symm yes, Ne.symm no, Ne.symm nan, Ne.symm infinity, Ne.symm minus]

theorem wordOrNumber?_number (strict : Bool) {negative : Bool} {spelling : Spelling} {value : Value} {rest : List Char}
    (read : number? (signText negative ++ spelling.text) = some value) (ends : Ends isNumberCharacter rest) :
    wordOrNumber? strict (signText negative ++ spelling.text ++ rest) = some (value, rest) := by
  have all : ∀ c ∈ signText negative ++ spelling.text, isNumberCharacter c = true := by
    intro c member
    rcases List.mem_append.1 member with member | member
    · exact isNumberCharacter_signText negative c member
    · exact spelling.isNumberCharacter_text c member
  rw [wordOrNumber?, spelling.word?_text strict negative, takeWhile_append_of_ends all ends,
    dropWhile_append_of_ends all ends, read]
  rfl

theorem wordOrNumber?_int (strict : Bool) (number : Int) {rest : List Char} (ends : Ends isNumberCharacter rest) :
    wordOrNumber? strict ((toString number).toList ++ rest) = some (.int number, rest) := by
  have read := number?_int number
  rw [toList_toString_int, ← Spelling.text_ofNat] at read ⊢
  exact wordOrNumber?_number strict read ends

/-- Every float is read as a float, and one that has a decimal form in the grammar, too. -/
theorem exists_wordOrNumber?_render (x : Float) :
    ∃ y, (x.isNaN = false → x.isInf = false → number? (Decimal.render floatNames x).toList = some (.float y)) ∧
      ∀ {strict rest}, (strict = true → x.isNaN = false ∧ x.isInf = false) → Ends isNumberCharacter rest →
        wordOrNumber? strict ((Decimal.render floatNames x).toList ++ rest) = some (.float y, rest) := by
  cases number : x.isNaN with
  | true =>
    refine ⟨0.0 / 0.0, nofun, fun {strict rest} plain _ => ?_⟩
    cases strict with
    | true => exact nomatch (plain rfl).1
    | false =>
      rw [Decimal.render, number]
      simp [wordOrNumber?, word?, words, plainWords, floatWords, floatNames, List.isPrefixOf?]
  | false =>
    cases bounded : x.isInf with
    | true =>
      refine ⟨if Decimal.isNegative x then -(1.0 / 0.0) else 1.0 / 0.0, nofun, fun {strict rest} plain _ => ?_⟩
      cases strict with
      | true => exact nomatch (plain rfl).2
      | false =>
        rw [Decimal.render, number, bounded]
        cases Decimal.isNegative x <;>
          simp [wordOrNumber?, word?, words, plainWords, floatWords, floatNames, List.isPrefixOf?]
    | false =>
      obtain ⟨negative, _, ⟨spelling, isFloat, rfl⟩, same⟩ := exists_render_eq floatNames number bounded
      obtain ⟨y, read⟩ := spelling.exists_float negative isFloat
      rw [same]
      exact ⟨y, fun _ _ => read, fun _ ends => wordOrNumber?_number _ read ends⟩

end Json

end DiagramWeave
