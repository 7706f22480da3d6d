import DiagramWeave.Text.SmallLetters
import Mathlib.Data.List.Basic

/-!
# Plain words in letters of either case

Small letters are found for every script, and a word of plain letters could come from letters of another one. It does not:
of all characters outside of the plain ones only the sign of the kelvin and the capital I with a point above lead to a
plain letter, and the second of them brings its point along. So a word without the letter `k` is the lowering of just
those texts that spell it in plain letters, capital or small.
-/
namespace DiagramWeave

open Text

variable {c : Char} {before text word : List Char}

/-- The plain characters, less the one letter that another sign stands for. -/
def IsPlain (c : Char) : Prop :=
  c.toNat < 0x80 ∧ c ≠ 'k'

instance (c : Char) : Decidable (IsPlain c) :=
  inferInstanceAs (Decidable (_ ∧ _))

/-! ### One letter -/

/-- The capitals of the run lead beyond the plain characters, and to characters that exist. -/
def Text.CapitalRun.Beyond (run : CapitalRun) : Prop :=
  0x80 ≤ run.first + run.shift ∧
    (run.last + run.shift < 0xd800 ∨ (0xdfff < run.first + run.shift ∧ run.last + run.shift < 0x110000))

instance (run : CapitalRun) : Decidable run.Beyond :=
  inferInstanceAs (Decidable (_ ∧ _))

theorem capitalRuns_beyond : ∀ run ∈ capitalRunsPartOne ++ capitalRunsPartTwo,
    run.last < 0x80 ∨ (run.first = 0x212a ∧ run.last = 0x212a ∧ run.shift = -8383) ∨ run.Beyond := by
  decide +kernel

theorem toNat_ofNat_of_beyond {code : Nat} (valid : code < 0xd800 ∨ (0xdfff < code ∧ code < 0x110000)) :
    (Char.ofNat code).toNat = code := by
  have isValid : code.isValidChar := valid
  rw [Char.ofNat, dif_pos isValid]
  rfl

/-- No plain letter comes from a capital of another script, but for the kelvin and the capital I with a point above. -/
theorem low_of_smallLetter (dotless : c.toNat ≠ 0x130) (plain : IsPlain (smallLetter c)) : c.toNat < 0x80 := by
  by_cases low : c.toNat < 0x80
  · exact low
  · rw [smallLetter, if_neg low, if_neg dotless] at plain
    cases found : (capitalRunsPartOne ++ capitalRunsPartTwo).find? (·.covers c.toNat) with
    | none =>
      rw [found] at plain
      exact absurd plain.1 low
    | some run =>
      rw [found] at plain
      have covers := List.find?_some found
      simp only [CapitalRun.covers, Bool.and_eq_true, decide_eq_true_eq] at covers
      obtain ⟨⟨past, upto⟩, _⟩ := covers
      rcases capitalRuns_beyond run (List.mem_of_find?_eq_some found) with short | kelvin | beyond
      · omega
      · obtain ⟨first, last, shift⟩ := kelvin
        have code : c.toNat = 0x212a := by omega
        simp only [code, shift] at plain
        exact absurd rfl plain.2
      · obtain ⟨low', valid⟩ := beyond
        have code := plain.1
        dsimp only at code
        rw [toNat_ofNat_of_beyond (by omega)] at code
        omega

theorem low_of_toLower (low : c.toLower.toNat < 0x80) : c.toNat < 0x80 := by
  by_contra high
  have kept : c.toLower = c := by
    apply dif_neg
    rintro ⟨_, capital⟩
    have : c.toNat ≤ 'Z'.toNat := capital
    have : 'Z'.toNat = 0x5a := rfl
    omega
  rw [kept] at low
  exact high low

/-! ### Words -/

theorem lowerAfter_of_low (low : ∀ c ∈ text, c.toNat < 0x80) : lowerAfter before text = text.map Char.toLower := by
  induction text generalizing before with
  | nil => rfl
  | cons c rest ih =>
    obtain ⟨here, behind⟩ := List.forall_mem_cons.1 low
    have small : smallLetter c = c.toLower := by rw [smallLetter, if_pos here]
    rw [lowerAfter, if_neg (by omega), if_neg (by omega), ih behind, small]
    rfl

theorem low_of_lowerAfter (plain : ∀ c ∈ lowerAfter before text, IsPlain c) : ∀ c ∈ text, c.toNat < 0x80 := by
  induction text generalizing before with
  | nil => simp
  | cons c rest ih =>
    rw [lowerAfter] at plain
    obtain ⟨here, behind⟩ := List.forall_mem_append.1 plain
    refine List.forall_mem_cons.2 ⟨?_, ih behind⟩
    split at here
    · -- A capital sigma becomes one of two small ones, and neither is plain.
      split at here <;> exact absurd (here _ List.mem_cons_self) (by decide)
    · split at here
      · -- The point above the capital I is left as a mark.
        exact absurd (here _ (List.mem_cons_of_mem _ List.mem_cons_self)) (by decide)
      next dotless => exact low_of_smallLetter dotless (here _ List.mem_cons_self)

/-- A plain word is the lowering of the texts that spell it in plain letters of either case. -/
theorem lower_eq_iff (plain : ∀ c ∈ word, IsPlain c) : lower text = word ↔ text.map Char.toLower = word := by
  constructor
  · rintro rfl
    exact (lowerAfter_of_low (low_of_lowerAfter plain)).symm
  · rintro rfl
    refine lowerAfter_of_low fun c member => low_of_toLower (plain _ (List.mem_map_of_mem member)).1

end DiagramWeave
