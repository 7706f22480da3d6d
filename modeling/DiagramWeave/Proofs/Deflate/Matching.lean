import DiagramWeave.Proofs.Deflate.Symbols

/-!
# The symbols of a text write the text

The pass over the bytes keeps an invariant: the symbols so far write the bytes up to the one that waits, if one does, and what is
held back is either nothing or a copy to the byte that waits, whose bytes have been compared. The chains matter only in that
they propose positions behind which the pass stands, so that no copy has distance zero.
-/
namespace DiagramWeave.Deflate

open Inflate (reaches)

/-! ### Bytes -/

theorem byteAt_eq (data : ByteArray) (position : Nat) :
    byteAt data position = data.toList.getD position 0 := by
  rw [toList_eq, byteAt, List.getD_eq_getElem?_getD]
  split
  · next inside =>
    rw [List.getElem?_eq_getElem inside]
    rfl
  · next outside =>
    rw [List.getElem?_eq_none (Nat.not_lt.1 outside)]
    rfl

theorem length_toList (data : ByteArray) : data.toList.length = data.size := by
  rw [toList_eq]
  rfl

theorem cons_reverse_take {bytes : List UInt8} {position : Nat} (inside : position < bytes.length) :
    bytes.getD position 0 :: (bytes.take position).reverse = (bytes.take (position + 1)).reverse := by
  rw [List.take_add_one, List.getElem?_eq_getElem inside, List.reverse_append, List.getD_eq_getElem?_getD,
    List.getElem?_eq_getElem inside]
  rfl

/-- A copy of bytes that agree with those behind the output writes them. -/
theorem repeatBytes_take {bytes : List UInt8} {position distance : Nat} (one : 1 ≤ distance)
    (reached : distance ≤ position) {count : Nat} (inside : position + count ≤ bytes.length)
    (agrees : ∀ i < count, bytes.getD (position - distance + i) 0 = bytes.getD (position + i) 0) :
    Symbol.repeatBytes (bytes.take position).reverse distance count =
      (bytes.take (position + count)).reverse := by
  induction count generalizing position with
  | zero => rfl
  | succ count ih =>
    -- The byte copied stands in the output already, perhaps because this very copy wrote it.
    have earlier : position - distance < (bytes.take position).length := by
      rw [List.length_take]
      omega
    have source : (bytes.take position).reverse.getD (distance - 1) 0 =
        bytes.getD (position - distance) 0 := by
      have place : (bytes.take position).length - 1 - (distance - 1) = position - distance := by
        rw [List.length_take]
        omega
      rw [List.getD_eq_getElem?_getD, List.getElem?_reverse (by rw [List.length_take]; omega), place,
        List.getElem?_take_of_lt (by omega), List.getD_eq_getElem?_getD]
    have first := agrees 0 (Nat.succ_pos count)
    rw [Nat.add_zero, Nat.add_zero] at first
    rw [Symbol.repeatBytes, source, first, cons_reverse_take (by omega),
      ih (by omega) (by omega) fun i below => ?_]
    · congr 2
      omega
    · have next := agrees (i + 1) (Nat.succ_lt_succ below)
      have back : position + 1 - distance + i = position - distance + (i + 1) := by omega
      have along : position + 1 + i = position + (i + 1) := by omega
      rw [back, along]
      exact next

/-! ### Copies -/

/-- A copy to `position` comes from an earlier place within reach, and its bytes agree. -/
structure Fits (data : ByteArray) (position : Nat) (copy : Copy) : Prop where
  earlier : copy.source < position
  near : position - copy.source ≤ reach
  short : copy.length ≤ 258
  inside : position + copy.length ≤ data.size
  agrees : ∀ i < copy.length, byteAt data (copy.source + i) = byteAt data (position + i)

theorem commonLengthFrom_spec (data : ByteArray) (first second agreed remaining : Nat) :
    commonLengthFrom data first second agreed remaining ≤ agreed + remaining ∧
      ∀ i, agreed ≤ i → i < commonLengthFrom data first second agreed remaining →
        byteAt data (first + i) = byteAt data (second + i) := by
  induction remaining generalizing agreed with
  | zero => exact ⟨Nat.le_refl _, fun i least below => absurd below (Nat.not_lt.2 least)⟩
  | succ remaining ih =>
    rw [commonLengthFrom]
    split
    · next same =>
      obtain ⟨bounded, agrees⟩ := ih (agreed + 1)
      refine ⟨by omega, fun i least below => ?_⟩
      rcases Nat.eq_or_lt_of_le least with rfl | later
      · exact same
      · exact agrees i later below
    · exact ⟨Nat.le_add_right _ _, fun i least below => absurd below (Nat.not_lt.2 least)⟩

theorem fits_commonLength {data : ByteArray} {position candidate : Nat} (inside : position ≤ data.size)
    (earlier : candidate < position) (near : position - candidate ≤ reach) :
    Fits data position
      ⟨commonLength data candidate position (min 258 (data.size - position)), candidate⟩ := by
  obtain ⟨bounded, agrees⟩ :=
    commonLengthFrom_spec data candidate position 0 (min 258 (data.size - position))
  rw [Nat.zero_add] at bounded
  rw [commonLength]
  exact ⟨earlier, near, by dsimp only; omega, by dsimp only; omega, fun i below => agrees i (Nat.zero_le i) below⟩

/-- The search returns what it was given or a copy that fits. -/
theorem followChain_spec {data : ByteArray} {earlier : Array Nat} {position enough candidate : Nat}
    {best found : Copy} {steps : Nat} (inside : position ≤ data.size) (before : candidate < position)
    (near : position - candidate ≤ reach)
    (followed : followChain data earlier position (min 258 (data.size - position)) enough candidate best
      steps = found) :
    found = best ∨ Fits data position found := by
  induction steps generalizing candidate best with
  | zero => exact .inl followed.symm
  | succ steps ih =>
    -- Whatever was measured at this candidate, the best copy so far is the one given or fits.
    unfold followChain at followed
    extract_lets length better next at followed
    have measured : better = best ∨ Fits data position better := by
      simp only [better]
      split
      · next longer =>
        right
        -- The length is taken for zero where the bytes behind the best copy differ, but then it is not longer.
        have compared : length = commonLength data candidate position (min 258 (data.size - position)) := by
          simp only [length] at longer ⊢
          split at longer
          · next agrees => rw [if_pos agrees]
          · cases longer
        rw [compared]
        exact fits_commonLength inside before near
      · exact .inl rfl
    split at followed
    · rw [← followed]
      exact measured
    · split at followed
      · next proposed =>
        rw [Bool.and_eq_true, decide_eq_true_eq, decide_eq_true_eq] at proposed
        rcases ih (by omega) (by omega) followed with same | fits
        · rw [same]
          exact measured
        · exact .inr fits
      · rw [← followed]
        exact measured

/-- What is found is longer than the copy held back, and it fits. -/
theorem longerCopy?_spec {effort : Effort} {data : ByteArray} {earlier : Array Nat}
    {position candidate held : Nat} {copy : Copy} (inside : position ≤ data.size)
    (before : candidate ≠ 0 → candidate < position)
    (found : longerCopy? effort data earlier position candidate held = some copy) :
    held < copy.length ∧ Fits data position copy := by
  unfold longerCopy? at found
  split at found
  · cases found
  · next searched =>
    simp only [not_or] at searched
    extract_lets limit steps best at found
    split at found
    · cases found
    · next longer =>
      split at found
      · cases found
      · rw [← Option.some.inj found]
        refine ⟨Nat.not_le.1 longer, ?_⟩
        rcases followChain_spec inside (before searched.1) (Nat.not_lt.1 searched.2.2.2) rfl with
          same | fits
        · exact absurd (Nat.le_of_eq (congrArg Copy.length same)) longer
        · exact fits

/-! ### Chains -/

/-- The chains propose no position at or behind this one. -/
def Chains.Before (chains : Chains) (position : Nat) : Prop :=
  ∀ hash, chains.latest.getD hash 0 ≠ 0 → chains.latest.getD hash 0 < position

theorem Chains.before_empty (size : Nat) : (Chains.empty size).Before 0 := by
  intro hash some
  exact absurd (by simp [Chains.empty, Array.getD]) some

theorem Chains.before_enter {chains : Chains} {position : Nat} (before : chains.Before position)
    (data : ByteArray) :
    (chains.enter data position).1.Before (position + 1) ∧
      ((chains.enter data position).2 ≠ 0 → (chains.enter data position).2 < position) := by
  rw [enter]
  split
  · -- Only the entry of the hash at the position has changed, and it is the position.
    refine ⟨fun hash some => ?_, before _⟩
    rw [Array.getD_eq_getD_getElem?, Array.getElem?_setIfInBounds] at some ⊢
    split
    · split
      · exact Nat.lt_succ_self position
      · exact Nat.succ_pos position
    · next apart =>
      rw [if_neg apart, ← Array.getD_eq_getD_getElem?] at some
      rw [← Array.getD_eq_getD_getElem?]
      exact Nat.lt_succ_of_lt (before hash some)
  · exact ⟨fun hash some => Nat.lt_succ_of_lt (before hash some), fun none => absurd rfl none⟩

theorem Chains.before_enterRange {chains : Chains} {position : Nat} (before : chains.Before position)
    (data : ByteArray) (count : Nat) :
    (chains.enterRange data position count).Before (position + count) := by
  induction count generalizing chains position with
  | zero => exact before
  | succ count ih =>
    have along : position + (count + 1) = position + 1 + count := by omega
    rw [enterRange, along]
    exact ih (before_enter before data).1

/-! ### The pass -/

/-- What the pass keeps: the symbols so far write the bytes before the one that waits, and a copy that is
    held back fits the byte that waits. -/
structure Pass.Holds (data : ByteArray) (pass : Pass) (symbols : List Symbol) : Prop where
  inside : pass.position ≤ data.size
  started : pass.waiting = true → 0 < pass.position
  written : Writes [] symbols
    (data.toList.take (pass.position - if pass.waiting then 1 else 0)).reverse
  chains : pass.chains.Before pass.position
  held : pass.held.length = 2 ∨
    (pass.waiting = true ∧ 3 ≤ pass.held.length ∧ Fits data (pass.position - 1) pass.held)

theorem Writes.literal {data : ByteArray} {position : Nat} {symbols : List Symbol}
    (writes : Writes [] symbols (data.toList.take position).reverse) (inside : position < data.size) :
    Writes [] (symbols ++ [.literal (byteAt data position)])
      (data.toList.take (position + 1)).reverse := by
  refine writes.append (.next trivial rfl ?_)
  have longer := cons_reverse_take (by rwa [length_toList] : position < data.toList.length)
  rw [Symbol.apply, byteAt_eq, longer]
  exact .done

theorem Writes.copy {data : ByteArray} {position : Nat} {symbols : List Symbol} {copy : Copy}
    (writes : Writes [] symbols (data.toList.take position).reverse) (fits : Fits data position copy)
    (three : 3 ≤ copy.length) :
    Writes [] (symbols ++ [.copy copy.length (position - copy.source)])
      (data.toList.take (position + copy.length)).reverse := by
  have earlier := fits.earlier
  have near := fits.near
  have inside := fits.inside
  have reached : position - copy.source ≤ (data.toList.take position).reverse.length := by
    rw [List.length_reverse, List.length_take, length_toList]
    omega
  have bounded : (Symbol.copy copy.length (position - copy.source)).Bounded :=
    ⟨three, fits.short, by omega, Nat.le_trans near (by decide)⟩
  refine writes.append (.next bounded (by simpa [reaches] using reached) ?_)
  have back : position - (position - copy.source) = copy.source := by omega
  have copied : Symbol.repeatBytes (data.toList.take position).reverse (position - copy.source)
      copy.length = (data.toList.take (position + copy.length)).reverse := by
    refine repeatBytes_take (by omega) (by omega) (by rwa [length_toList]) fun i below => ?_
    rw [back, ← byteAt_eq, ← byteAt_eq]
    exact fits.agrees i below
  rw [Symbol.apply, copied]
  exact .done

/-- The copy that was held back is written. -/
theorem Pass.Holds.flush {data : ByteArray} {pass : Pass} {symbols : List Symbol}
    (holds : pass.Holds data symbols) (three : 3 ≤ pass.held.length) :
    Pass.Holds data ⟨pass.position + (pass.held.length - 1),
        (pass.chains.enter data pass.position).1.enterRange data (pass.position + 1)
          (pass.held.length - 2), noCopy, false⟩
      (symbols ++ [.copy pass.held.length (pass.position - 1 - pass.held.source)]) := by
  obtain ⟨waits, _, fits⟩ : pass.waiting = true ∧ 3 ≤ pass.held.length ∧
      Fits data (pass.position - 1) pass.held := by
    rcases holds.held with none | some
    · omega
    · exact some
  have started := holds.started waits
  have inside := fits.inside
  have along : pass.position - 1 + pass.held.length = pass.position + (pass.held.length - 1) := by omega
  have entered : pass.position + 1 + (pass.held.length - 2) = pass.position + (pass.held.length - 1) := by
    omega
  have written := holds.written
  rw [waits, if_pos rfl] at written
  refine ⟨?_, ?_, ?_, ?_, .inl rfl⟩
  · rw [← along]
    exact inside
  · rintro ⟨⟩
  · have copied := written.copy fits three
    rwa [along] at copied
  · have before := Chains.before_enterRange (Chains.before_enter holds.chains data).1 data
      (pass.held.length - 2)
    rwa [entered] at before

/-- The byte that waits, if one does, is a literal, and the next one waits with what was found for it. -/
theorem Pass.Holds.keep {effort : Effort} {data : ByteArray} {pass : Pass} {symbols : List Symbol}
    (holds : pass.Holds data symbols) (more : pass.position < data.size) {found : Option Copy}
    (search : longerCopy? effort data (pass.chains.enter data pass.position).1.earlier pass.position
      (pass.chains.enter data pass.position).2 pass.held.length = found) :
    Pass.Holds data
      ⟨pass.position + 1, (pass.chains.enter data pass.position).1, found.getD noCopy, true⟩
      (if pass.waiting then symbols ++ [.literal (byteAt data (pass.position - 1))] else symbols) := by
  obtain ⟨entered, earlier⟩ := Chains.before_enter holds.chains data
  have written := holds.written
  refine ⟨more, fun _ => Nat.succ_pos _, ?_, entered, ?_⟩
  · -- The byte that waited is written as a literal, unless none waited.
    rw [if_pos rfl, Nat.add_sub_cancel]
    cases waits : pass.waiting with
    | false =>
      rw [waits] at written
      exact written
    | true =>
      have started := holds.started waits
      rw [waits, if_pos rfl] at written
      have longer := written.literal (by omega)
      rwa [Nat.sub_add_cancel started] at longer
  · cases found with
    | none => exact .inl rfl
    | some copy =>
      obtain ⟨longer, fits⟩ := longerCopy?_spec holds.inside earlier search
      have two : 2 ≤ pass.held.length := by
        rcases holds.held with two | ⟨_, three, _⟩
        · exact Nat.le_of_eq two.symm
        · exact Nat.le_of_succ_le three
      exact .inr ⟨rfl, Nat.lt_of_le_of_lt two longer, fits⟩

theorem writes_passFrom {effort : Effort} {data : ByteArray} {pass : Pass} {out : Array Symbol}
    (holds : pass.Holds data out.toList) :
    Writes [] (passFrom effort data pass out).toList data.toList.reverse := by
  induction pass, out using passFrom.induct effort data with
  | case1 pass out more position entered found flushed chains ih =>
    have step : passFrom effort data pass out = passFrom effort data
        ⟨position + (pass.held.length - 1), chains, noCopy, false⟩
        (out.push (.copy pass.held.length (position - 1 - pass.held.source))) := by
      rw [passFrom, dif_pos more]
      exact dif_pos flushed
    rw [step]
    refine ih ?_
    rw [Array.toList_push]
    exact holds.flush flushed.1
  | case2 pass out more position entered found kept next ih =>
    have step : passFrom effort data pass out =
        passFrom effort data ⟨position + 1, entered.1, found.getD noCopy, true⟩ next := by
      rw [passFrom, dif_pos more]
      exact dif_neg kept
    have symbols : next.toList = if pass.waiting then out.toList ++ [.literal (byteAt data (position - 1))]
        else out.toList := by
      simp only [next]
      split <;> simp
    rw [step]
    refine ih ?_
    rw [symbols]
    exact holds.keep more rfl
  | case3 pass out ended waits =>
    -- The byte that still waits is the last one, and nothing longer can be found for it.
    have started := holds.started waits
    have inside := holds.inside
    have written := holds.written
    rw [waits, if_pos rfl] at written
    have longer := written.literal (by omega)
    rw [Nat.sub_add_cancel started, List.take_of_length_le (by rw [length_toList]; omega)] at longer
    rw [passFrom, dif_neg ended, if_pos waits, Array.toList_push]
    exact longer
  | case4 pass out ended idle =>
    have written := holds.written
    rw [if_neg idle, Nat.sub_zero, List.take_of_length_le (by rw [length_toList]; omega)] at written
    rw [passFrom, dif_neg ended, if_neg idle]
    exact written

/-- The symbols of a text write the text. -/
theorem writes_symbols (effort : Effort) (data : ByteArray) :
    Writes [] (symbols effort data).toList data.toList.reverse :=
  writes_passFrom {
    inside := Nat.zero_le _
    started := fun waits => by cases waits
    written := .done
    chains := Chains.before_empty data.size
    held := .inl rfl }

end DiagramWeave.Deflate
