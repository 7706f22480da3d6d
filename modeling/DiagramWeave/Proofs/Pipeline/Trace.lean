import DiagramWeave.Proofs.Pipeline.Links
import DiagramWeave.Proofs.Pipeline.Moments
import DiagramWeave.Proofs.Render.CommandSteps
import DiagramWeave.Proofs.World.Trace

/-!
# What the trace tells of a run

The lines of a run in turn are those of its stages in order, and inside the rendering one for each block that was
attempted. A failure shows in the line of the block that failed and in those of the spans around it, and in no other.
-/
namespace DiagramWeave

variable {config : Config} {client : HttpClient} {text : String} {world before after : World} {blocks : List Block}

/-- The line of the work on a block. -/
def Block.line (block : Block) (failure : Option Failure) : SpanLine :=
  .ended "plantmark.render.block" (some (.text block.title)) failure

/-! ### One block -/

namespace LocalRender

theorem makeTemporary_tells (config : Config) (block : Block) (world : World) :
    world.Tells ((makeTemporary config.outputDir block).run world).2 [] := by
  rcases makeTemporary_run_cases config block world with ⟨_, _, _, _, _, made⟩ | ⟨_, _, _, unmade⟩
  · rw [made]
    exact .of_log_eq rfl
  · rw [unmade]
    exact .of_log_eq rfl

theorem fillTemporary_tells (path : FilePath) (block : Block) (world : World) :
    world.Tells ((fillTemporary path block).run world).2 [] := by
  rw [fillTemporary_run_eq]
  exact .of_log_eq rfl

theorem runCommand_tells (command : List String) (config : Config) (block : Block) (input : FilePath) (world : World) :
    world.Tells ((runCommand command config block input).run world).2 [] := by
  obtain ⟨_, ran⟩ := runCommand_run_eq command config block input world
  rw [ran]
  exact .noted (LogRecord.spanLine?_running _ _) rfl

theorem tidy_tells (input : FilePath) (came : Except RenderCause Int) (world : World) :
    world.Tells ((tidy input came).run world).2 [] := by
  rw [tidy_run_eq]
  cases fault : world.deleteFault with
  | none => exact .of_log_eq (by simp [warnings])
  | some cause =>
    cases came with
    | ok => exact .of_log_eq (by simp [warnings])
    | error => exact .noted (LogRecord.spanLine?_cannotDelete _ _ _) rfl

/-- What is noted while a block is rendered is no record of a span. -/
theorem renderBlock_tells (command : List String) (config : Config) (block : Block) (world : World) :
    world.Tells ((renderBlock command config block).run world).2 [] := by
  have made := makeTemporary_tells config block world
  rw [renderBlock_run_eq]
  generalize (makeTemporary config.outputDir block).run world = temporary at made ⊢
  obtain ⟨result, ready⟩ := temporary
  cases result with
  | error => exact made
  | ok input =>
    have filled := made.trans (fillTemporary_tells input block ready)
    dsimp only
    generalize (fillTemporary input block).run ready = filling at filled ⊢
    obtain ⟨result, ready⟩ := filling
    cases result with
    | error => exact filled
    | ok =>
      have ran := filled.trans (runCommand_tells command config block input ready)
      exact ran.trans (tidy_tells input _ _)

theorem labelled_spanOf (block : Block) (came : Except RenderCause Int) :
    (spanOf block came).Labelled "plantmark.render.block" (some (.text block.title)) := by
  have opened (cause : RenderCause) : (spanOf block (.error cause)).Labelled "plantmark.render.block"
      (some (.text block.title)) :=
    Span.labelled_of_names _ ["strategy", "title", "format"] rfl (by decide) (by decide)
      (by simp [Value.Plain.text])
  cases came with
  | error cause => exact opened cause
  | ok code => exact (opened (.noTemporaryFile "")).add (.int code) (by decide)

theorem work_tells (command : List String) (config : Config) (block : Block) (world : World) :
    world.Tells ((work command config block).run world).2
      [block.line (World.failureOf ((work command config block).run world).1)] := by
  have rendered := renderBlock_tells command config block world.ticked
  have labelled := labelled_spanOf block ((renderBlock command config block).run world.ticked).1
  rw [work, Block.line]
  refine World.Tells.span_alone World.failureOf ?_ ?_
  · rw [run_bind]
    cases ((renderBlock command config block).run world.ticked).1 <;> exact rendered
  · rw [run_bind]
    generalize ((renderBlock command config block).run world.ticked).1 = came at labelled ⊢
    cases came <;> exact labelled

end LocalRender

namespace RemoteRender

theorem getFrom_tells (client : HttpClient) (url : String) (timeout : Float) (left : Nat) (world : World) :
    world.Tells ((client.getFrom url timeout left).run world).2 [] := by
  induction left generalizing url world with
  | zero => exact .of_log_eq rfl
  | succ left ih =>
    have sent : world.Tells ((World.send ⟨url, timeout⟩).run world).2 [] := .of_log_eq rfl
    rw [HttpClient.getFrom, run_bind]
    cases ((World.send ⟨url, timeout⟩).run world).1 with
    | failed => exact sent
    | answer status location body =>
      cases location with
      | none => exact sent
      | some location =>
        simp only
        split
        · exact sent.trans (ih _ _)
        · exact sent

theorem labelled_spanOf (server : String) (block : Block) :
    (spanOf server block).Labelled "plantmark.render.block" (some (.text block.title)) :=
  Span.labelled_of_names _ ["strategy", "title", "format", "url"] rfl (by decide) (by decide)
    (by simp [Value.Plain.text])

theorem fetchBlock_tells (client : HttpClient) (server : String) (config : Config) (block : Block) (world : World) :
    let ran := (fetchBlock client server config block (spanOf server block)).run world
    world.Tells ran.2 [] ∧ ran.1.2.Labelled "plantmark.render.block" (some (.text block.title)) := by
  have asked := getFrom_tells client (blockUrl server block) config.timeout (redirectLimit + 1) world
  have opened := labelled_spanOf server block
  simp only [fetchBlock, HttpClient.get, run_bind]
  generalize (client.getFrom (blockUrl server block) config.timeout (redirectLimit + 1)).run world = got at asked ⊢
  obtain ⟨result, answered⟩ := got
  cases result with
  | error => exact ⟨asked, opened⟩
  | ok answer =>
    obtain ⟨status, body⟩ := answer
    have withStatus := opened.add (.int status) (show "status" ∉ ["span", "title", "error"] by decide)
    cases success : isSuccess status with
    | false =>
      simp only [success, Bool.not_false, if_true]
      exact ⟨asked, withStatus⟩
    | true =>
      simp only [success, Bool.not_true, Bool.false_eq_true, if_false, run_bind, World.writeFile_run]
      cases answered.disk.write answered.home (config.outputDir.join (FilePath.ofText block.outputName)) body with
      | ok =>
        have sized := withStatus.add (.int body.size) (show "size" ∉ ["span", "title", "error"] by decide)
        exact ⟨asked.trans (.of_log_eq rfl), sized.add (.text _) (show "path" ∉ ["span", "title", "error"] by decide)⟩
      | error fault => cases fault <;> exact ⟨asked, withStatus⟩

theorem fetchWork_tells (client : HttpClient) (server : String) (config : Config) (block : Block) (world : World) :
    world.Tells ((fetchWork client server config block).run world).2
      [block.line (World.failureOf ((fetchWork client server config block).run world).1)] := by
  obtain ⟨told, labelled⟩ := fetchBlock_tells client server config block world.ticked
  rw [fetchWork, Block.line]
  exact World.Tells.span_alone World.failureOf told labelled

end RemoteRender

theorem Config.step_tells (client : HttpClient) (images : config.strategy ≠ .remoteUrl) (block : Block) (world : World) :
    world.Tells ((config.step client block).run world).2
      [block.line (World.failureOf ((config.step client block).run world).1)] := by
  cases strategy : config.strategy with
  | localCommand =>
    simp only [Config.step, strategy]
    exact LocalRender.work_tells (commandWords config) config block world
  | remoteFetch =>
    simp only [Config.step, strategy]
    exact RemoteRender.fetchWork_tells client (config.server.getD "") config block world
  | remoteUrl => exact absurd strategy images

/-! ### The blocks -/

/-- The blocks that were attempted, with the failures of those that failed. -/
abbrev Attempts := List (Block × Option Failure)

def Attempts.lines (attempts : Attempts) : List SpanLine :=
  attempts.map fun attempt => attempt.1.line attempt.2

theorem Rendered.tells (images : config.strategy ≠ .remoteUrl)
    (rendered : Rendered (config.step client) world blocks after) :
    world.Tells after (Attempts.lines (blocks.map fun block => (block, none))) := by
  induction rendered with
  | nil world => exact .of_log_eq rfl
  | @cons world after block blocks locator fine rendered ih =>
    have first := config.step_tells client images block world
    rw [fine] at first
    exact first.trans ih

/-- Which blocks a run attempts and how its rendering fails. When blocks become links there is nothing to attempt. Images
    need their directory first, and then each block is attempted that comes behind no failure. -/
inductive Attempted (config : Config) (client : HttpClient) (blocks : List Block) (before : World) :
    Attempts → Option Failure → Prop
  | links : config.strategy = .remoteUrl → Attempted config client blocks before [] none
  | unmade {failure : Failure} : config.strategy ≠ .remoteUrl →
      ((makeOutputDirectory config.outputDir).run before).1 = .error failure →
      Attempted config client blocks before [] (some failure)
  | all {after : World} : config.strategy ≠ .remoteUrl →
      ((makeOutputDirectory config.outputDir).run before).1 = .ok () →
      Rendered (config.step client) ((makeOutputDirectory config.outputDir).run before).2 blocks after →
      Attempted config client blocks before (blocks.map fun block => (block, none)) none
  | failed {done later : List Block} {block : Block} {failure : Failure} {between : World} :
      config.strategy ≠ .remoteUrl → ((makeOutputDirectory config.outputDir).run before).1 = .ok () →
      blocks = done ++ block :: later →
      Rendered (config.step client) ((makeOutputDirectory config.outputDir).run before).2 done between →
      ((config.step client block).run between).1 = .error failure →
      Attempted config client blocks before ((done.map fun block => (block, none)) ++ [(block, some failure)])
        (some failure)

theorem makeOutputDirectory_tells (path : FilePath) (world : World) :
    world.Tells ((makeOutputDirectory path).run world).2 [] := by
  obtain ⟨directories, made⟩ := makeOutputDirectory_run_eq path world
  rw [made]
  exact .of_log_eq rfl

/-- The rendering tells of the blocks that were attempted. -/
theorem renderBy_tells (config : Config) (client : HttpClient) (unlocated : ∀ block ∈ blocks, block.locator = none)
    (before : World) :
    let run := (renderBy config client blocks).run before
    ∃ attempts, Attempted config client blocks before attempts run.1.failure ∧ before.Tells run.2 attempts.lines := by
  intro run
  by_cases images : config.strategy = .remoteUrl
  · have linked : run = (⟨blocks.map (Block.located (blockUrl (config.server.getD ""))), none⟩, before) := by
      simp only [run, renderBy, images]
      exact runBlocks_linkWork (config.server.getD "") before unlocated
    rw [linked]
    exact ⟨[], .links images, .of_log_eq rfl⟩
  · have told := makeOutputDirectory_tells config.outputDir before
    cases made : ((makeOutputDirectory config.outputDir).run before).1 with
    | error failure =>
      have stopped : run = (⟨blocks, some failure⟩, ((makeOutputDirectory config.outputDir).run before).2) := by
        simp only [run]
        rw [renderBy_eq_renderInto images, renderInto, run_bind, made]
        rfl
      rw [stopped]
      exact ⟨[], .unmade images made, told⟩
    | ok =>
      have ran : run = _ := renderBy_run images made blocks
      obtain ⟨done, failed, rendered, outcome, _⟩ := runBlocks_renderedUntil (config.step client) config.locatorOf
        (fun block world locator => Config.step_locates images) unlocated
        ((makeOutputDirectory config.outputDir).run before).2
      rw [← ran] at rendered outcome
      rw [outcome]
      generalize run.2 = after at rendered
      cases rendered with
      | all rendered => exact ⟨_, .all images made rendered, told.trans (rendered.tells images)⟩
      | @failed done later block failure between rendered fails =>
        have last := config.step_tells client images block between
        rw [fails] at last
        refine ⟨_, .failed images made rfl rendered fails, ?_⟩
        rw [Attempts.lines, List.map_append]
        exact (told.trans (rendered.tells images)).trans last

/-! ### The stages -/

theorem scanLogged_tells (text format : String) (world : World) :
    world.Tells ((scanLogged text format).run world).2 [.ended "plantmark.scan" none none] := by
  have opened : (Span.mk "plantmark.scan" [("length", .int text.length)]).Labelled "plantmark.scan" none :=
    Span.labelled_of_names _ ["length"] rfl (by decide) (by decide) (by simp [Value.Plain.int])
  exact World.Tells.span_alone (fun _ => none) (.of_log_eq rfl) (opened.add (.int _) (by decide))

theorem rewriteLogged_tells (text : String) (blocks : List Block) (world : World) :
    world.Tells ((rewriteLogged text blocks).run world).2
      [.ended "plantmark.rewrite" none (World.failureOf ((rewriteLogged text blocks).run world).1)] := by
  have opened : (Span.mk "plantmark.rewrite" [("blocks", .int blocks.length)]).Labelled "plantmark.rewrite" none :=
    Span.labelled_of_names _ ["blocks"] rfl (by decide) (by decide) (by simp [Value.Plain.int])
  rw [rewriteLogged]
  refine World.Tells.span_alone World.failureOf ?_ ?_
  · cases rewrite text blocks <;> exact .of_log_eq rfl
  · cases rewrite text blocks with
    | ok result => exact opened.add (.int _) (by decide)
    | error => exact opened

theorem render_tells (config : Config) (client : HttpClient) (unlocated : ∀ block ∈ blocks, block.locator = none)
    (world : World) :
    let run := (render config client blocks).run world
    ∃ attempts, Attempted config client blocks world.ticked attempts run.1.failure ∧
      world.Tells run.2
        (attempts.lines ++ [.ended ("plantmark.render." ++ config.strategy.name) none run.1.failure]) := by
  have opened : (Span.mk ("plantmark.render." ++ config.strategy.name) [("blocks", .int blocks.length)]).Labelled
      ("plantmark.render." ++ config.strategy.name) none :=
    Span.labelled_of_names _ ["blocks"] rfl (by decide) (by decide) (by simp [Value.Plain.int])
  obtain ⟨attempts, attempted, told⟩ := renderBy_tells config client unlocated world.ticked
  refine ⟨attempts, attempted, ?_⟩
  rw [render]
  refine World.Tells.span Progress.failure told ?_
  rw [run_bind]
  obtain ⟨rendered, failure⟩ := ((renderBy config client blocks).run world.ticked).1
  cases failure with
  | some => exact opened
  | none => exact opened.add (.int _) (by decide)

theorem labelled_preprocess (config : Config) (count : Nat) :
    ((Span.mk "plantmark.preprocess" [("strategy", .text config.strategy.name)]).add none
      [("blocks", .int count)]).Labelled "plantmark.preprocess" none := by
  have opened : (Span.mk "plantmark.preprocess" [("strategy", .text config.strategy.name)]).Labelled
      "plantmark.preprocess" none :=
    Span.labelled_of_names _ ["strategy"] rfl (by decide) (by decide) (by simp [Value.Plain.text])
  exact opened.add (.int _) (by decide)

theorem preprocess_tells_of_no_blocks (absent : scan text config.format.name = []) :
    world.Tells ((preprocess config client text).run world).2
      [.ended "plantmark.scan" none none, .ended "plantmark.preprocess" none none] := by
  have scanned := scanLogged_tells text config.format.name world.ticked
  have fine : ((preprocess config client text).run world).1 = .ok text := (preprocess_of_no_blocks absent).1
  have told : world.Tells ((preprocess config client text).run world).2
      ([.ended "plantmark.scan" none none] ++
        [.ended "plantmark.preprocess" none (World.failureOf ((preprocess config client text).run world).1)]) := by
    rw [preprocess]
    refine World.Tells.span World.failureOf ?_ ?_
    · rw [run_bind, scanLogged_run_fst, absent]
      exact scanned
    · rw [run_bind, scanLogged_run_fst, absent]
      exact labelled_preprocess config 0
  rw [fine] at told
  exact told

theorem preprocess_tells_of_blocks (present : scan text config.format.name ≠ []) :
    let ran := (preprocess config client text).run world
    ∃ attempts rendering, Attempted config client (scan text config.format.name) (world.scanned config text) attempts
        rendering ∧
      (∀ failure, rendering = some failure → ran.1 = .error failure) ∧
      world.Tells ran.2 ([.ended "plantmark.scan" none none] ++
        (attempts.lines ++ [.ended ("plantmark.render." ++ config.strategy.name) none rendering]) ++
        (if rendering = none then [.ended "plantmark.rewrite" none (World.failureOf ran.1)] else []) ++
        [.ended "plantmark.preprocess" none (World.failureOf ran.1)]) := by
  intro ran
  have nonempty : (scan text config.format.name).isEmpty = false := by simpa using present
  have scanned := scanLogged_tells text config.format.name world.ticked
  obtain ⟨attempts, attempted, rendered⟩ := render_tells config client
    (fun block (member : block ∈ scan text config.format.name) => unlocated_of_mem_scan member)
    ((scanLogged text config.format.name).run world.ticked).2
  have labelled := labelled_preprocess config (scan text config.format.name).length
  have inside := scanned.trans rendered
  have outcome : ran.1 = _ := (preprocess_of_blocks present).1
  rw [World.scanned, ← (render_run config client _ _).1] at outcome
  refine ⟨attempts, _, attempted, ?_⟩
  generalize ended : (render config client (scan text config.format.name)).run
    ((scanLogged text config.format.name).run world.ticked).2 = came at inside outcome ⊢
  obtain ⟨⟨located, failure⟩, after⟩ := came
  have rewritten := rewriteLogged_tells text located after
  -- A rendering without a failure leaves it to the rewriting how the run comes out.
  have last : failure = none → ran.1 = ((rewriteLogged text located).run after).1 := by
    rintro rfl
    rw [outcome, (rewriteLogged_run text located after).1]
    rfl
  refine ⟨fun failure failed => by rw [outcome, settle, failed], ?_⟩
  refine World.Tells.span World.failureOf ?_ ?_
  all_goals
    rw [run_bind, scanLogged_run_fst]
    simp only [nonempty, Bool.false_eq_true, if_false]
    rw [run_bind, ended]
  · cases failure with
    | some failure =>
      rw [if_neg (Option.some_ne_none failure), List.append_nil]
      exact inside
    | none =>
      rw [if_pos rfl, last rfl]
      exact inside.trans rewritten
  · cases failure <;> exact labelled

/-! ### The course of a run -/

theorem Attempted.owned {attempts : Attempts} {rendering : Option Failure}
    (attempted : Attempted config client blocks before attempts rendering) :
    ∀ attempt ∈ attempts, ∀ failure, attempt.2 = some failure → rendering = some failure := by
  have fine (done : List Block) : ∀ attempt ∈ done.map fun block => (block, (none : Option Failure)),
      attempt.2 = none := by
    intro attempt member
    obtain ⟨_, _, rfl⟩ := List.mem_map.1 member
    rfl
  intro attempt member failure failed
  cases attempted with
  | links | unmade => cases member
  | all => cases (fine _ attempt member).symm.trans failed
  | failed =>
    rcases List.mem_append.1 member with early | last
    · cases (fine _ attempt early).symm.trans failed
    · cases List.mem_singleton.1 last
      exact failed

/-- Nothing is told but success, or the failure that the caller gets. -/
def SpanLine.Reports {α : Type} (line : SpanLine) (result : Except Failure α) : Prop :=
  line.level = .debug ∧ line.error = none ∨
    ∃ failure, result = .error failure ∧ line.level = .warning ∧
      line.error = some (.text (failure.kind ++ ": " ++ failure.message))

theorem SpanLine.reports_ended {α : Type} {result : Except Failure α} {failure : Option Failure} (name : String)
    (title : Option Value) (owned : ∀ cause, failure = some cause → result = .error cause) :
    (SpanLine.ended name title failure).Reports result := by
  cases failure with
  | none => exact .inl ⟨rfl, rfl⟩
  | some cause => exact .inr ⟨cause, owned cause rfl, rfl, rfl⟩

theorem World.failureOf_eq_some {α : Type} {result : Except Failure α} {failure : Failure} :
    World.failureOf result = some failure ↔ result = .error failure := by
  cases result <;> simp [World.failureOf]

/-- The trace of a run in turn tells its course. Its lines are those of the scanning, of the blocks that were attempted, of
    their rendering, of the rewriting if the rendering did not fail, and of the whole run, each once and in this order. Without
    blocks there are only the first and the last. The failure of a block is told by the block, the rendering and the run, that
    of a rendering without its block by the rendering and the run, and that of the rewriting by the rewriting and the run.
    It is always the one that the caller gets, and all other lines tell of none. -/
theorem preprocess_tells_course (client : HttpClient)
    (alone : sideBySide config.workersFor (scan text config.format.name) = false) (world : World) :
    let blocks := scan text config.format.name
    let ran := (preprocess config client text).run world
    let outcome := World.failureOf ran.1
    (∀ before progress after, RenderEnds config client blocks before progress after →
      (render config client blocks).run before = (progress, after)) ∧
    ∃ lines, world.Tells ran.2 lines ∧ (∀ line ∈ lines, line.Reports ran.1) ∧
      (blocks = [] → ran.1 = .ok text ∧
        lines = [.ended "plantmark.scan" none none, .ended "plantmark.preprocess" none none]) ∧
      (blocks ≠ [] → ∃ attempts rendering,
        Attempted config client blocks (world.scanned config text) attempts rendering ∧
        (rendering ≠ none → outcome = rendering) ∧
        lines = .ended "plantmark.scan" none none ::
          (attempts.map fun attempt => .ended "plantmark.render.block" (some (.text attempt.1.title)) attempt.2) ++
          [.ended ("plantmark.render." ++ config.strategy.name) none rendering] ++
          (if rendering = none then [.ended "plantmark.rewrite" none outcome] else []) ++
          [.ended "plantmark.preprocess" none outcome]) := by
  intro blocks ran outcome
  constructor
  · intro before progress after ends
    cases ends with
    | inTurn => rfl
    | pooled several => cases alone.symm.trans several
  by_cases absent : blocks = []
  · have fine : ran.1 = .ok text := (preprocess_of_no_blocks absent).1
    refine ⟨_, preprocess_tells_of_no_blocks absent, ?_, fun _ => ⟨fine, rfl⟩, absurd absent⟩
    intro line member
    simp only [List.mem_cons, List.not_mem_nil, or_false] at member
    rcases member with rfl | rfl <;> exact SpanLine.reports_ended _ _ (by simp)
  · obtain ⟨attempts, rendering, attempted, failed, told⟩ := preprocess_tells_of_blocks absent
    refine ⟨_, told, ?_, fun none => absurd none absent, fun _ => ⟨attempts, rendering, attempted, ?_, ?_⟩⟩
    · have ended (cause : Failure) (same : outcome = some cause) : ran.1 = .error cause :=
        World.failureOf_eq_some.1 same
      intro line member
      simp only [List.mem_append, List.mem_singleton, Attempts.lines, List.mem_map] at member
      rcases member with ((rfl | ⟨attempt, member, rfl⟩ | rfl) | member) | rfl
      · exact SpanLine.reports_ended _ _ (by simp)
      · refine SpanLine.reports_ended _ _ fun cause same => ?_
        exact failed cause (attempted.owned attempt member cause same)
      · exact SpanLine.reports_ended _ _ failed
      · split at member
        · cases List.mem_singleton.1 member
          exact SpanLine.reports_ended _ _ ended
        · cases member
      · exact SpanLine.reports_ended _ _ ended
    · intro fails
      obtain ⟨failure, rfl⟩ := Option.ne_none_iff_exists'.1 fails
      exact World.failureOf_eq_some.2 (failed failure rfl)
    · cases rendering <;> simp [Attempts.lines, Block.line, outcome, ran]

/-- A server that shows nothing. -/
def World.refusing : World :=
  { World.still with answerRequest := fun _ => .answer 500 none "".toUTF8 }

theorem RemoteRender.fetchWork_of_refused (client : HttpClient) (server : String) (config : Config) (block : Block)
    (refused : world.answerRequest = World.refusing.answerRequest) :
    ((fetchWork client server config block).run world).1 = .error (.rendering ⟨some block.title, .badStatus 500⟩) := by
  have asked (url : String) : (World.send ⟨url, config.timeout⟩).run world.ticked =
      (.answer 500 none "".toUTF8, world.ticked.sent ⟨url, config.timeout⟩) := by
    have answer : world.answerRequest url = .answer 500 none "".toUTF8 := congrFun refused url
    rw [← answer]
    rfl
  rw [fetchWork, World.inSpan_run_fst, run_bind]
  simp only [fetchBlock, HttpClient.get, HttpClient.getFrom, run_bind, asked]
  rfl

theorem preprocess_tells_course_refused :
    let text := "@startuml a\nA\n@enduml\n@startuml b\nB\n@enduml"
    let ran := (preprocess fetching HttpClient.shared text).run World.refusing
    let failure : Failure := .rendering ⟨some "a", .badStatus 500⟩
    sideBySide fetching.workersFor (scan text fetching.format.name) = false ∧
      failure.logged = "RenderError: a: Render server returned HTTP 500" ∧
      World.refusing.Tells ran.2 [⟨.debug, "plantmark.scan", none, none⟩,
        ⟨.warning, "plantmark.render.block", some (.text "a"), some (.text failure.logged)⟩,
        ⟨.warning, "plantmark.render.remote-fetch", none, some (.text failure.logged)⟩,
        ⟨.warning, "plantmark.preprocess", none, some (.text failure.logged)⟩] := by
  intro text ran failure
  have alone : sideBySide fetching.workersFor (scan text fetching.format.name) = false := rfl
  obtain ⟨_, lines, told, _, _, course⟩ := preprocess_tells_course HttpClient.shared alone World.refusing
  refine ⟨alone, rfl, ?_⟩
  obtain ⟨first, blocks, found, title⟩ : ∃ first blocks, scan text fetching.format.name = first :: blocks ∧
      first.title = "a" := by
    have scanned : (scan text "svg").map Block.title = ["a", "b"] := by decide +kernel
    obtain ⟨first, blocks, found, title, _⟩ := List.map_eq_cons_iff.1 scanned
    exact ⟨first, blocks, found, title⟩
  have refused (between : World) (same : between.answerRequest = World.refusing.answerRequest) :
      ((fetching.step HttpClient.shared first).run between).1 = .error failure := by
    have failed := RemoteRender.fetchWork_of_refused HttpClient.shared "http://x" fetching first same
    rw [title] at failed
    exact failed
  obtain ⟨attempts, rendering, attempted, outcome, rfl⟩ := course (by simp [found])
  -- The directory can be made, and the step of the first block fails in the world that is left then.
  have made : ((makeOutputDirectory fetching.outputDir).run (World.refusing.scanned fetching text)).1 = .ok () := rfl
  have ready := refused ((makeOutputDirectory fetching.outputDir).run (World.refusing.scanned fetching text)).2 rfl
  cases attempted with
  | links strategy => cases strategy
  | unmade _ unmade => cases made.symm.trans unmade
  | all _ _ rendered =>
    rw [found] at rendered
    cases rendered with
    | cons fine => cases ready.symm.trans fine
  | @failed done later block cause between _ _ split rendered fails =>
    cases rendered with
    | cons fine =>
      cases (List.cons.inj (found.symm.trans split)).1
      cases ready.symm.trans fine
    | nil =>
      cases (List.cons.inj (found.symm.trans split)).1
      cases ready.symm.trans fails
      have strategy : "plantmark.render." ++ fetching.strategy.name = "plantmark.render.remote-fetch" := by decide
      rw [outcome (Option.some_ne_none _), if_neg (Option.some_ne_none _), strategy] at told
      simpa [SpanLine.ended, title] using told

end DiagramWeave
