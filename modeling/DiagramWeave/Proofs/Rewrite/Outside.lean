import DiagramWeave.Proofs.Block.LineEnds
import DiagramWeave.Proofs.Rewrite.Splice

/-!
# What stands outside of the blocks

A rewritten document is woven of the pieces outside of its blocks and of the references to their images. When the line
ends of a document are made single line feeds, the pieces stay those between the blocks, and what is woven of them
is the same as before just when none of them held a carriage return.
-/
namespace DiagramWeave

variable {text : List Char} {blocks : List Block}

/-- The pieces of a text from `cursor` on that stand outside of the recorded spans of blocks. -/
def outside (text : List Char) (cursor : Nat) : List Block → List (List Char)
  | [] => [text.drop cursor]
  | block :: blocks => (text.drop cursor).take (block.start - cursor) :: outside text block.stop blocks

/-- The pieces with the inserted texts between them. -/
def weave : List (List Char) → List (List Char) → List Char
  | piece :: pieces, shown :: inserted => piece ++ shown ++ weave pieces inserted
  | pieces, [] => pieces.flatten
  | [], inserted => inserted.flatten

theorem spliceFrom_eq_weave (text : List Char) (cursor : Nat) (blocks : List Block) :
    spliceFrom text cursor blocks =
      weave (outside text cursor blocks) (blocks.map fun block => block.reference.toList) := by
  induction blocks generalizing cursor with
  | nil => simp [spliceFrom, outside, weave]
  | cons block blocks ih => simp only [spliceFrom, outside, List.map_cons, weave, ih]

theorem outside_located (locators : Block → String) (text : List Char) (cursor : Nat) (blocks : List Block) :
    outside text cursor (blocks.map (Block.located locators)) = outside text cursor blocks := by
  induction blocks generalizing cursor with
  | nil => rfl
  | cons block blocks ih => simp only [List.map_cons, outside, ih, Block.located]

theorem length_outside (text : List Char) (cursor : Nat) (blocks : List Block) :
    (outside text cursor blocks).length = blocks.length + 1 := by
  induction blocks generalizing cursor with
  | nil => rfl
  | cons block blocks ih => simp only [outside, List.length_cons, ih]

/-! ### The pieces of a scanned document -/

theorem inFront_nil {pieces : List (List Char)} (filled : pieces ≠ []) : inFront [] pieces = pieces := by
  obtain ⟨piece, pieces, rfl⟩ := List.exists_cons_of_ne_nil filled
  rfl

theorem inFront_inFront (front behind : List Char) (pieces : List (List Char)) :
    inFront front (inFront behind pieces) = inFront (front ++ behind) pieces := by
  cases pieces with
  | nil => rfl
  | cons piece pieces => simp only [inFront, List.append_assoc]

theorem piecesAround_ne_nil (text : List Char) : piecesAround text ≠ [] := by
  obtain ⟨_, _, first, _⟩ := exists_piecesAround text
  rw [first]
  exact List.cons_ne_nil _ _

/-- The scan and the cutting take the same steps. What was passed over since `cursor` stands in front. -/
theorem outside_scanFrom (fallback : String) (index offset : Nat) (text : List Char) : ∀ cursor ≤ offset,
    outside text cursor (scanFrom fallback index offset (text.drop offset)) =
      inFront ((text.drop cursor).take (offset - cursor)) (piecesAround (text.drop offset)) := by
  generalize same : text.drop offset = rest
  induction index, offset, rest using scanFrom.induct fallback with
  | case1 index offset rest pieces read width _ _ _ ih =>
    intro cursor behind
    obtain ⟨parts, block, _, _⟩ := blockAt?_eq_some.1 read
    have wide : width = parts.source.length := by
      simp only [width, block.whole, List.length_append, Nat.add_sub_cancel]
    have after : text.drop (offset + width) = pieces.rest := by
      rw [← List.drop_drop, same, wide, block.whole, List.drop_left]
    have later := ih after (offset + width) (Nat.le_refl _)
    rw [Nat.sub_self, List.take_zero, inFront_nil (piecesAround_ne_nil _), wide] at later
    rw [scanFrom_of_blockAt block, outside, piecesAround_of_block read, inFront, List.append_nil]
    exact congrArg (_ :: ·) later
  | case2 index offset read =>
    intro cursor behind
    have short : text.length ≤ offset := List.drop_eq_nil_iff.1 same
    have all : (text.drop cursor).take (offset - cursor) = text.drop cursor := by
      rw [List.take_of_length_le]
      rw [List.length_drop]
      omega
    rw [scanFrom_nil, outside, piecesAround_nil, inFront, List.append_nil, all]
  | case3 index offset c rest read ih =>
    intro cursor behind
    have next : text.drop (offset + 1) = rest := by
      rw [← List.drop_drop, same, List.drop_one, List.tail_cons]
    have passed : (text.drop cursor).take (offset + 1 - cursor) =
        (text.drop cursor).take (offset - cursor) ++ [c] := by
      have here : (text.drop cursor)[offset - cursor]? = some c := by
        rw [← List.head?_drop, List.drop_drop, Nat.add_sub_cancel' behind, same, List.head?_cons]
      rw [Nat.succ_sub behind, List.take_add_one, here]
      rfl
    rw [scanFrom_cons (blockAt?_eq_none.1 read), ih next cursor (Nat.le_succ_of_le behind), passed,
      piecesAround_cons read, inFront_inFront]

theorem outside_scan (text fallback : String) :
    outside text.toList 0 (scan text fallback) = piecesAround text.toList := by
  have pieces := outside_scanFrom fallback 0 0 text.toList 0 (Nat.le_refl 0)
  rw [List.drop_zero, Nat.sub_zero, List.take_zero, inFront_nil (piecesAround_ne_nil _)] at pieces
  exact pieces

/-- The text with single line feeds for its line ends. -/
def unified (text : String) : String :=
  String.ofList (unifyBreaks text.toList)

theorem outside_unified (text fallback : String) :
    outside (unified text).toList 0 (scan (unified text) fallback) =
      (outside text.toList 0 (scan text fallback)).map unifyBreaks := by
  rw [outside_scan, outside_scan, unified, String.toList_ofList, piecesAround_unifyBreaks]

theorem length_scan_unified (text fallback : String) :
    (scan (unified text) fallback).length = (scan text fallback).length := by
  have sizes := congrArg List.length (outside_unified text fallback)
  rw [List.length_map, length_outside, length_outside] at sizes
  exact Nat.succ.inj sizes

/-! ### Weaving what has changed -/

/-- Weaving puts each of the pieces and of the inserted texts in once. -/
theorem weave_perm (pieces inserted : List (List Char)) :
    (weave pieces inserted).Perm (pieces.flatten ++ inserted.flatten) := by
  fun_induction weave pieces inserted with
  | case1 piece pieces shown inserted ih =>
    simp only [List.flatten_cons, List.append_assoc]
    apply List.Perm.append_left
    exact (ih.append_left shown).trans (List.perm_append_comm_assoc ..)
  | case2 pieces => rw [List.flatten_nil, List.append_nil]
  | case3 inserted => rw [List.flatten_nil, List.nil_append]

theorem count_weave (c : Char) (pieces inserted : List (List Char)) :
    (weave pieces inserted).count c = pieces.flatten.count c + inserted.flatten.count c := by
  rw [(weave_perm pieces inserted).count_eq, List.count_append]

/-- What is woven of pieces with their line ends made single line feeds shows whether there was anything to do. -/
theorem weave_map_unifyBreaks_iff (pieces inserted : List (List Char)) :
    weave (pieces.map unifyBreaks) inserted = weave pieces inserted ↔ ∀ piece ∈ pieces, '\r' ∉ piece := by
  constructor
  · intro same
    have counts := congrArg (List.count '\r') same
    have none : (pieces.map unifyBreaks).flatten.count '\r' = 0 := by
      rw [List.count_eq_zero, List.mem_flatten]
      rintro ⟨_, unified, inside⟩
      obtain ⟨piece, _, rfl⟩ := List.mem_map.1 unified
      exact return_not_mem_unifyBreaks piece inside
    rw [count_weave, count_weave, none] at counts
    -- What was inserted is the same, so nothing can have been in the pieces.
    have empty : pieces.flatten.count '\r' = 0 := by omega
    intro piece member inside
    exact List.count_eq_zero.1 empty (List.mem_flatten.2 ⟨piece, member, inside⟩)
  · intro free
    have same : pieces.map unifyBreaks = pieces := by
      refine (List.map_congr_left fun piece member => ?_).trans (List.map_id pieces)
      exact unifyBreaks_of_free (free piece member)
    rw [same]

end DiagramWeave
