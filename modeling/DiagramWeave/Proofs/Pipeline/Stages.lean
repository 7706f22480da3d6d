import DiagramWeave.Proofs.Block.Grammar
import DiagramWeave.Proofs.World.Runs

/-!
# The stages of a run

What a run over a document does apart from its log: nothing without blocks, and otherwise what rendering the blocks
does. Its outcome is the failure of the rendering or else that of rewriting the document with the blocks as rendered.
-/
namespace DiagramWeave

variable {config : Config} {client : HttpClient} {text : String} {world : World}

theorem unlocated_of_mem_scan {text fallback : String} {block : Block} (found : block ∈ scan text fallback) :
    block.locator = none := by
  obtain ⟨_, _, _, _, _, rfl⟩ := (BlocksFrom.of_scan text fallback).exists_of_mem block found
  rfl

/-- The world when the document has been scanned and its blocks are about to be rendered. -/
def World.scanned (config : Config) (text : String) (world : World) : World :=
  ((scanLogged text config.format.name).run world.ticked).2.ticked

theorem World.logged_scanned (config : Config) (text : String) (world : World) :
    World.Logged world (world.scanned config text) :=
  ⟨_, _, rfl⟩

theorem scanLogged_run_fst (text format : String) (world : World) :
    ((scanLogged text format).run world).1 = scan text format := rfl

theorem preprocess_of_no_blocks (absent : scan text config.format.name = []) :
    ((preprocess config client text).run world).1 = .ok text ∧
      World.Logged world ((preprocess config client text).run world).2 := by
  constructor
  · rw [preprocess, World.inSpan_run_fst, run_bind, scanLogged_run_fst, absent]
    rfl
  · refine World.Logged.trans ?_ (World.logged_inSpan _ _ _ _ world)
    rw [run_bind, scanLogged_run_fst, absent]
    exact ⟨_, _, rfl⟩

theorem rewrite_nil (text : String) : rewrite text [] = .ok text := by
  simp [rewrite, inIndexOrder, rewriteFrom, Except.map]

/-- What comes of the rendered blocks. -/
def settle (text : String) (progress : Progress Failure) : Except Failure String :=
  match progress.failure with
  | some failure => .error failure
  | none => (rewrite text progress.blocks).mapError .rewriting

theorem rewriteLogged_run (text : String) (blocks : List Block) (world : World) :
    ((rewriteLogged text blocks).run world).1 = (rewrite text blocks).mapError .rewriting ∧
      World.Logged world ((rewriteLogged text blocks).run world).2 := by
  constructor
  · rw [rewriteLogged, World.inSpan_run_fst]
    cases rewrite text blocks <;> rfl
  · refine World.Logged.trans ?_ (World.logged_inSpan _ _ _ _ world)
    cases rewrite text blocks <;> exact ⟨_, _, rfl⟩

theorem render_run (config : Config) (client : HttpClient) (blocks : List Block) (world : World) :
    ((render config client blocks).run world).1 = ((renderBy config client blocks).run world.ticked).1 ∧
      World.Logged ((renderBy config client blocks).run world.ticked).2
        ((render config client blocks).run world).2 :=
  ⟨rfl, World.logged_inSpan _ _ _ _ world⟩

theorem preprocess_of_blocks (present : scan text config.format.name ≠ []) :
    ((preprocess config client text).run world).1 =
        settle text ((renderBy config client (scan text config.format.name)).run
          (world.scanned config text)).1 ∧
      World.Logged ((renderBy config client (scan text config.format.name)).run (world.scanned config text)).2
        ((preprocess config client text).run world).2 := by
  have nonempty : (scan text config.format.name).isEmpty = false := by simpa using present
  obtain ⟨outcome, rendered⟩ := render_run config client
    (scan text config.format.name) ((scanLogged text config.format.name).run world.ticked).2
  rw [World.scanned]
  generalize ((renderBy config client (scan text config.format.name)).run _).1 = progress at outcome ⊢
  constructor
  · rw [preprocess, World.inSpan_run_fst, run_bind, scanLogged_run_fst]
    simp only [nonempty, Bool.false_eq_true, if_false]
    rw [run_bind, outcome, settle]
    cases progress.failure with
    | some failure => rfl
    | none => exact (rewriteLogged_run text progress.blocks _).1
  · refine World.Logged.trans ?_ (World.logged_inSpan _ _ _ _ world)
    rw [run_bind, scanLogged_run_fst]
    simp only [nonempty, Bool.false_eq_true, if_false]
    rw [run_bind, outcome]
    refine rendered.trans ?_
    cases progress.failure with
    | some failure => exact .refl _
    | none => exact (rewriteLogged_run text progress.blocks _).2

end DiagramWeave
