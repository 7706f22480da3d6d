import DiagramWeave.Proofs.Block.FoundAgain
import DiagramWeave.Proofs.Locator.UrlPrefix
import DiagramWeave.Proofs.Token.Lossless

/-!
# Locators tell images apart

A document shows a URL as it is and any other locator percent-encoded. A URL holds a colon and an encoded text holds
none, so what is shown tells which of the two was done, and each of the two can be undone. The name of an image ends in
the only point that no format holds, and the address of an image is cut at the slash behind its format.
-/
namespace DiagramWeave

theorem colon_mem_of_isUrl {text : List Char} (url : isUrl text = true) : ':' ∈ text := by
  obtain ⟨scheme, rest, _, rfl⟩ := isUrl_eq_true.1 url
  simp

theorem escapeLocator_injective : Function.Injective escapeLocator := by
  -- A URL cannot be shown as another locator is, for the colon.
  have apart {url path : String} (isUrl : isUrl url.toList = true) :
      url ≠ String.ofList (percentEncode path.toList) := by
    rintro rfl
    have colon := colon_mem_of_isUrl isUrl
    rw [String.toList_ofList] at colon
    exact not_mem_percentEncode (by decide) _ colon
  intro one other same
  rw [escapeLocator, escapeLocator] at same
  split at same <;> split at same
  · exact same
  next url _ => exact absurd same (apart url)
  next _ url => exact absurd same.symm (apart url)
  · exact String.toList_inj.1 (percentEncode_injective (String.ofList_inj.1 same))

theorem fileLocator_injective (base : String) : Function.Injective (fileLocator base) := by
  intro one other same
  simp only [fileLocator] at same
  split at same
  · exact same
  · split at same <;> obtain ⟨_, shown⟩ := List.cons.inj (List.append_cancel_left (String.ofList_inj.1 same))
    · exact String.toList_inj.1 (percentEncode_injective shown)
    · exact String.toList_inj.1 shown

theorem encode_injective : Function.Injective encode := by
  intro one other same
  have read := readToken?_encode one
  rw [same, readToken?_encode other] at read
  exact toUTF8_toList_injective (Prod.mk.inj (Option.some.inj read)).1.symm

/-- A text is cut at one mark only when the front holds no mark. -/
theorem eq_of_cut {mark : Char} {front other behind rest : List Char} (free : mark ∉ front) (free' : mark ∉ other)
    (same : front ++ mark :: behind = other ++ mark :: rest) : front = other ∧ behind = rest := by
  have inside {text : List Char} (free : mark ∉ text) : ∀ c ∈ text, (c != mark) = true := by
    intro c member
    exact bne_iff_ne.2 fun equal => free (equal ▸ member)
  have stop : (mark != mark) = false := bne_self_eq_false mark
  obtain ⟨fronts, rests⟩ := span_unique same (inside free) stop (inside free') stop
  exact ⟨fronts, (List.cons.inj rests).2⟩

section

variable {one other : Block} {format format' : ImageFormat}

/-- The name of an image tells title and format. -/
theorem outputName_inj (extension : one.extension = format.name) (extension' : other.extension = format'.name) :
    one.outputName = other.outputName ↔ one.title = other.title ∧ one.extension = other.extension := by
  constructor
  · intro same
    have pointless (format : ImageFormat) : '.' ∉ format.name.toList.reverse := by cases format <;> decide
    have letters (block : Block) : block.outputName.toList.reverse =
        block.extension.toList.reverse ++ '.' :: block.title.toList.reverse := by
      simp [Block.outputName]
    have cut := congrArg (List.reverse ∘ String.toList) same
    simp only [Function.comp_apply, letters] at cut
    obtain ⟨suffixes, titles⟩ := eq_of_cut (by rw [extension]; exact pointless format)
      (by rw [extension']; exact pointless format') cut
    exact ⟨String.toList_inj.1 (List.reverse_inj.1 titles), String.toList_inj.1 (List.reverse_inj.1 suffixes)⟩
  · rintro ⟨title, suffix⟩
    rw [Block.outputName, Block.outputName, title, suffix]

/-- The address of an image tells format and diagram text. -/
theorem blockUrl_inj (server : String) (extension : one.extension = format.name)
    (extension' : other.extension = format'.name) :
    blockUrl server one = blockUrl server other ↔ one.extension = other.extension ∧ one.payload = other.payload := by
  constructor
  · intro same
    have slashless (format : ImageFormat) : '/' ∉ format.name.toList := by cases format <;> decide
    have letters (block : Block) : (blockUrl server block).toList =
        server.toList ++ '/' :: (block.extension.toList ++ '/' :: (encode block.payload).toList) := by
      simp [blockUrl]
    have cut := congrArg String.toList same
    rw [letters, letters] at cut
    obtain ⟨suffixes, tokens⟩ := eq_of_cut (by rw [extension]; exact slashless format)
      (by rw [extension']; exact slashless format') (List.cons.inj (List.append_cancel_left cut)).2
    exact ⟨String.toList_inj.1 suffixes, encode_injective (String.toList_inj.1 tokens)⟩
  · rintro ⟨suffix, payload⟩
    rw [blockUrl, blockUrl, suffix, payload]

end

end DiagramWeave
