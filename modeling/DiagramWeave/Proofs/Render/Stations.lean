import DiagramWeave.Proofs.Render.InTurn
import DiagramWeave.Render.Shop

/-!
# Steps and whole works

The steps of a work, taken without an interruption, do what the whole work does. So the plain loop over blocks is one
of the ways in which the works on the blocks can take their steps, and what holds of all these ways holds of it.
-/
namespace DiagramWeave

theorem World.inSpan_run_snd {α : Type} (name : String) (attributes : Entries) (failureOf : α → Option Failure)
    (work : Span → Action (α × Span)) (world : World) :
    ((inSpan name attributes failureOf work).run world).2 =
      let done := (work ⟨name, attributes⟩).run world.ticked
      ((endSpan done.1.2 (world.clock world.readings) (failureOf done.1.1)).run done.2).2 := rfl

namespace Craft

variable {σ : Type} {craft : Craft σ}

/-- A work goes from one station to another while nothing else happens. -/
inductive Goes (craft : Craft σ) (block : Block) : σ → World → σ → World → Prop
  | stays (station : σ) (world : World) : Goes craft block station world station world
  | steps {station last : σ} {world after : World} : craft.result? block station = none →
      Goes craft block ((craft.step block station).run world).1 ((craft.step block station).run world).2 last after →
      Goes craft block station world last after

theorem Goes.trans {block : Block} {first second third : σ} {one two three : World}
    (before : craft.Goes block first one second two) (after : craft.Goes block second two third three) :
    craft.Goes block first one third three := by
  induction before with
  | stays => exact after
  | steps goesOn _ ih => exact .steps goesOn (ih after)

end Craft

namespace LocalRender

variable {command : List String} {config : Config} {block : Block} {world : World}

theorem runTidily_run_eq (command : List String) (config : Config) (block : Block) (input : FilePath) (world : World) :
    (runTidily command config block input).run world =
      let ran := (runCommand command config block input).run world
      (tidy input ran.1).run ran.2 := by
  simp only [runTidily, run_bind]
  generalize (runCommand command config block input).run world = ran
  obtain ⟨came, after⟩ := ran
  -- The failure of the command is told before that of the deletion, here and there.
  cases came with
  | error cause =>
    simp only [tidy, run_bind]
    cases ((deleteTemporary input).run after).1 <;> rfl
  | ok code =>
    simp only [tidy, run_bind]
    cases ((deleteTemporary input).run after).1 <;> rfl

/-- The work on a block in its temporary file is to make the file, to fill it, to run the command and to tidy up. -/
theorem renderBlock_run_eq (command : List String) (config : Config) (block : Block) (world : World) :
    (renderBlock command config block).run world =
      let made := (makeTemporary config.outputDir block).run world
      match made.1 with
      | .error cause => (.error cause, made.2)
      | .ok input =>
        let filled := (fillTemporary input block).run made.2
        match filled.1 with
        | .error cause => (.error cause, filled.2)
        | .ok _ =>
          let ran := (runCommand command config block input).run filled.2
          (tidy input ran.1).run ran.2 := by
  simp only [renderBlock, run_bind]
  generalize (makeTemporary config.outputDir block).run world = made
  obtain ⟨result, ready⟩ := made
  cases result with
  | error cause => rfl
  | ok input =>
    simp only [run_bind]
    generalize (fillTemporary input block).run ready = filled
    obtain ⟨result, ready⟩ := filled
    cases result with
    | error cause => rfl
    | ok => exact runTidily_run_eq command config block input ready

section steps

variable (command : List String) (config : Config) (block : Block) (start : Float) (world : World)

theorem step_opened : ((craft command config).step block (.opened start)).run world =
    let made := (makeTemporary config.outputDir block).run world
    (match made.1 with
      | .error cause => .closing start (.error cause)
      | .ok input => .made start input, made.2) := by
  simp only [craft, Station.next, run_bind]
  cases ((makeTemporary config.outputDir block).run world).1 <;> rfl

theorem step_made (input : FilePath) : ((craft command config).step block (.made start input)).run world =
    let filled := (fillTemporary input block).run world
    (match filled.1 with
      | .error cause => .closing start (.error cause)
      | .ok _ => .written start input, filled.2) := by
  simp only [craft, Station.next, run_bind]
  cases ((fillTemporary input block).run world).1 <;> rfl

theorem step_written (input : FilePath) : ((craft command config).step block (.written start input)).run world =
    let ran := (runCommand command config block input).run world
    (.ran start input ran.1, ran.2) := rfl

theorem step_ran (input : FilePath) (came : Except RenderCause Int) :
    ((craft command config).step block (.ran start input came)).run world =
      let tidied := (tidy input came).run world
      (.closing start tidied.1, tidied.2) := rfl

end steps

theorem goes_renderBlock (command : List String) (config : Config) (block : Block) (start : Float) (world : World) :
    (craft command config).Goes block (.opened start) world
      (.closing start ((renderBlock command config block).run world).1)
      ((renderBlock command config block).run world).2 := by
  rw [renderBlock_run_eq]
  refine .steps rfl ?_
  rw [step_opened]
  generalize (makeTemporary config.outputDir block).run world = made
  obtain ⟨result, ready⟩ := made
  cases result with
  | error cause => exact .stays _ _
  | ok input =>
    refine .steps rfl ?_
    dsimp only
    rw [step_made]
    generalize (fillTemporary input block).run ready = filled
    obtain ⟨result, ready⟩ := filled
    cases result with
    | error cause => exact .stays _ _
    | ok =>
      refine .steps rfl ?_
      rw [step_written]
      refine .steps rfl ?_
      rw [step_ran]
      exact .stays _ _

theorem work_run_eq (command : List String) (config : Config) (block : Block) (world : World) :
    let rendered := (renderBlock command config block).run world.ticked
    (work command config block).run world =
      (resultOf config block rendered.1,
        ((World.endSpan (spanOf block rendered.1) (world.clock world.readings)
          (World.failureOf (resultOf config block rendered.1))).run rendered.2).2) := by
  refine Prod.ext ?_ ?_
  · rw [work, World.inSpan_run_fst, run_bind]
    cases ((renderBlock command config block).run world.ticked).1 <;> rfl
  · rw [work, World.inSpan_run_snd]
    simp only [run_bind]
    cases ((renderBlock command config block).run world.ticked).1 <;> rfl

/-- The steps of the work on a block do what the work does. -/
theorem goes_work (command : List String) (config : Config) (block : Block) (world : World) :
    ∃ last, (craft command config).result? block last = some ((work command config block).run world).1 ∧
      (craft command config).Goes block (craft command config).first world last
        ((work command config block).run world).2 := by
  rw [work_run_eq]
  refine ⟨.ended ((renderBlock command config block).run world.ticked).1, rfl, ?_⟩
  have opened := goes_renderBlock command config block (world.clock world.readings) world.ticked
  exact .steps rfl (opened.trans (.steps rfl (.stays _ _)))

end LocalRender

namespace RemoteRender

variable {client : HttpClient} {server : String} {config : Config} {block : Block} {world : World}

/-- Where the work goes on when the client has followed all redirects. -/
def reached (server : String) (block : Block) (start : Float) : Except String (Nat × ByteArray) → Station
  | .error cause => failing start (spanOf server block) block (.requestFailed server cause)
  | .ok (status, body) =>
    if isSuccess status then .storing start status body
    else failing start (spanWith server block status) block (.badStatus status)

theorem goes_getFrom (client : HttpClient) (server : String) (config : Config) (block : Block) (start : Float)
    (url : String) (left : Nat) (world : World) :
    (craft client server config).Goes block (.asking start url left) world
      (reached server block start ((client.getFrom url config.timeout left).run world).1)
      ((client.getFrom url config.timeout left).run world).2 := by
  induction left generalizing url world with
  | zero => exact .steps rfl (.stays _ _)
  | succ left ih =>
    refine .steps rfl ?_
    rw [HttpClient.getFrom, run_bind]
    simp only [craft, Station.next, run_bind, run_pure]
    generalize ((World.send ⟨url, config.timeout⟩).run world).2 = sent
    cases ((World.send ⟨url, config.timeout⟩).run world).1 with
    | failed cause => exact .stays _ _
    | answer status location body =>
      cases location with
      | none =>
        simp only [answered, HttpClient.redirect?, Option.map_none, ite_self]
        exact .stays _ _
      | some location =>
        cases follows : client.followRedirects && isRedirect status with
        | true =>
          simp only [answered, HttpClient.redirect?, follows, if_true, Option.map_some]
          exact ih (resolveLocation url location) sent
        | false =>
          simp only [answered, HttpClient.redirect?, follows, Bool.false_eq_true, if_false]
          exact .stays _ _

theorem goes_fetchBlock (client : HttpClient) (server : String) (config : Config) (block : Block) (start : Float)
    (world : World) :
    let fetched := (fetchBlock client server config block (spanOf server block)).run world
    (craft client server config).Goes block (.asking start (blockUrl server block) (redirectLimit + 1)) world
      (.closing start fetched.1.2 fetched.1.1) fetched.2 := by
  have asked := goes_getFrom client server config block start (blockUrl server block) (redirectLimit + 1) world
  rw [fetchBlock]
  simp only [run_bind, HttpClient.get]
  generalize ((client.getFrom (blockUrl server block) config.timeout (redirectLimit + 1)).run world).2 = after at asked ⊢
  cases came : ((client.getFrom (blockUrl server block) config.timeout (redirectLimit + 1)).run world).1 with
  | error cause =>
    rw [came] at asked
    exact asked
  | ok answer =>
    obtain ⟨status, body⟩ := answer
    rw [came, reached] at asked
    cases success : isSuccess status with
    | false =>
      simp only [success, Bool.false_eq_true, if_false] at asked
      simp only [success, Bool.not_false, if_true]
      exact asked
    | true =>
      simp only [success, if_true] at asked
      simp only [success, Bool.not_true, Bool.false_eq_true, if_false]
      refine asked.trans (.steps rfl ?_)
      simp only [craft, Station.next, store, run_bind]
      generalize (World.writeFile (config.outputDir.join (FilePath.ofText block.outputName)) body).run after = wrote
      obtain ⟨result, after⟩ := wrote
      cases result with
      | ok => exact .stays _ _
      | error fault => cases fault <;> exact .stays _ _

theorem fetchWork_run_eq (client : HttpClient) (server : String) (config : Config) (block : Block) (world : World) :
    let fetched := (fetchBlock client server config block (spanOf server block)).run world.ticked
    let result := fetched.1.1.map fun _ => fileLocator config.baseRef block.outputName
    (fetchWork client server config block).run world =
      (result, ((World.endSpan fetched.1.2 (world.clock world.readings) (World.failureOf result)).run fetched.2).2) :=
  rfl

/-- The steps of the work on a block do what the work does. -/
theorem goes_work (client : HttpClient) (server : String) (config : Config) (block : Block) (world : World) :
    ∃ last, (craft client server config).result? block last =
        some ((fetchWork client server config block).run world).1 ∧
      (craft client server config).Goes block (craft client server config).first world last
        ((fetchWork client server config block).run world).2 := by
  have asked := goes_fetchBlock client server config block (world.clock world.readings) world.ticked
  rw [fetchWork_run_eq]
  generalize (fetchBlock client server config block (spanOf server block)).run world.ticked = fetched at asked ⊢
  exact ⟨.ended _, rfl, .steps rfl (asked.trans (.steps rfl (.stays _ _)))⟩

end RemoteRender

end DiagramWeave
