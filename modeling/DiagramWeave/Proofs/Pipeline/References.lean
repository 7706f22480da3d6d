import DiagramWeave.Proofs.Locator.Distinct
import DiagramWeave.Proofs.Pipeline.Outcomes

/-!
# References tell images apart

What a rendered document shows for a block is known from the block and the configuration. Where images are files, two
blocks of a document show the same locator just when title and format are the same; where images are links, just when
format and diagram text are. Nothing that the document does to a locator, and no base for the files, can make two
images one.
-/
namespace DiagramWeave

variable {config : Config} {client : HttpClient} {text : String}

theorem eq_splice_of_settle {locators : Block → String} {progress : Progress Failure} {fallback result : String}
    (locates : Locates locators (scan text fallback) progress) (settled : settle text progress = .ok result) :
    result = splice text (renderedBlocks text fallback locators) := by
  rw [settle] at settled
  split at settled
  · cases settled
  next fine =>
    rw [locates.whole fine] at settled
    have rewritten : rewrite text (renderedBlocks text fallback locators) = .ok result := by
      rw [renderedBlocks]
      generalize rewrite text _ = outcome at settled ⊢
      cases outcome <;> cases settled
      rfl
    rw [splice, ← toList_eq_spliceFrom (.refl _) rewritten, String.ofList_toList]

theorem eq_splice_of_preprocess {world : World} {result : String}
    (ended : ((preprocess config client text).run world).1 = .ok result) :
    result = splice text (renderedBlocks text config.format.name config.locatorFor) := by
  by_cases absent : scan text config.format.name = []
  · rw [(preprocess_of_no_blocks absent).1] at ended
    cases ended
    simp [renderedBlocks, absent, splice, spliceFrom]
  · rw [(preprocess_of_blocks absent).1] at ended
    exact eq_splice_of_settle (renderBy_locates (fun _ found => unlocated_of_mem_scan found) _) ended

theorem locatorFor_inj {one other : Block} {format format' : ImageFormat} (extension : one.extension = format.name)
    (extension' : other.extension = format'.name) : config.locatorFor one = config.locatorFor other ↔
      if config.strategy = .remoteUrl then one.extension = other.extension ∧ one.payload = other.payload
      else one.title = other.title ∧ one.extension = other.extension := by
  by_cases links : config.strategy = .remoteUrl
  · simp only [Config.locatorFor, links, if_true]
    exact blockUrl_inj config.linkServer extension extension'
  · rw [if_neg links, Config.locatorFor_of_images links, ← outputName_inj extension extension']
    exact (fileLocator_injective config.baseRef).eq_iff

/-- However the blocks of a document are rendered, a document that comes of it shows at the places of its blocks the
    locators of the configuration, and two of these are shown alike only for the same image. -/
theorem references_tell_images_apart (config : Config) (client : HttpClient) (text : String) :
    let blocks := scan text config.format.name
    let shown := fun block => escapeLocator (config.locatorFor block)
    (∀ before progress after, RenderEnds config client blocks before progress after →
      Locates config.locatorFor blocks progress ∧
        ∀ result, settle text progress = .ok result →
          result = splice text (renderedBlocks text config.format.name config.locatorFor)) ∧
    (∀ world result, ((preprocess config client text).run world).1 = .ok result →
      result = splice text (renderedBlocks text config.format.name config.locatorFor)) ∧
    ∀ one ∈ blocks, ∀ other ∈ blocks, shown one = shown other ↔
      if config.strategy = .remoteUrl then one.extension = other.extension ∧ one.payload = other.payload
      else one.title = other.title ∧ one.extension = other.extension := by
  intro blocks shown
  refine ⟨fun before progress after ends => ?_, fun world result ended => eq_splice_of_preprocess ended, ?_⟩
  · have locates := ends.locates fun block found => unlocated_of_mem_scan found
    exact ⟨locates, fun result settled => eq_splice_of_settle locates settled⟩
  · intro one found other found'
    obtain ⟨format, extension⟩ := exists_format_of_mem_scan found
    obtain ⟨format', extension'⟩ := exists_format_of_mem_scan found'
    rw [← locatorFor_inj extension extension']
    exact escapeLocator_injective.eq_iff

-- Under a URL the blank of one name is encoded, and so is the percent sign of the other.
example : ["a b", "a%20b"].map (fun title =>
      { fetching with baseRef := "http://x" }.locatorFor ⟨0, "", title, "svg", "A", 0, 0, none⟩) =
    ["http://x/a%20b.svg", "http://x/a%2520b.svg"] := by
  decide +kernel

end DiagramWeave
