import DiagramWeave.Pipeline

/-!
# Running actions

An action is a function on worlds. The lemmas open sequences and spans step by step, so that what an action does to
the world is found by rewriting. A span leaves nothing behind but a later clock and one more record in the log.
-/
namespace DiagramWeave

theorem run_pure {σ α : Type} (result : α) (state : σ) :
    (pure result : StateM σ α).run state = (result, state) := rfl

theorem run_bind {σ α β : Type} (action : StateM σ α) (next : α → StateM σ β) (state : σ) :
    (action >>= next).run state = (next (action.run state).1).run (action.run state).2 := rfl

theorem run_get {σ : Type} (state : σ) : (get : StateM σ σ).run state = (state, state) := rfl

theorem run_set {σ : Type} (next state : σ) : (set next : StateM σ Unit).run state = ((), next) := rfl

namespace World

/-- The second world differs from the first in the clock and the log alone. -/
def Logged (before after : World) : Prop :=
  ∃ readings log, after = { before with readings := readings, log := log }

theorem Logged.refl (world : World) : Logged world world :=
  ⟨world.readings, world.log, rfl⟩

theorem Logged.trans {first second third : World} (one : Logged first second) (two : Logged second third) :
    Logged first third := by
  obtain ⟨_, _, rfl⟩ := one
  obtain ⟨readings, log, rfl⟩ := two
  exact ⟨readings, log, rfl⟩

section

variable {first second third : World}

/-- Between the two worlds nothing was asked of processes or servers. -/
def Handled (before after : World) : Prop :=
  ∃ disk drawn readings log,
    after = { before with disk := disk, drawnNames := drawn, readings := readings, log := log }

theorem Handled.trans (one : Handled first second) (two : Handled second third) : Handled first third := by
  obtain ⟨_, _, _, _, rfl⟩ := one
  obtain ⟨disk, drawn, readings, log, rfl⟩ := two
  exact ⟨disk, drawn, readings, log, rfl⟩

theorem Handled.processes_eq (handled : Handled first second) : second.processes = first.processes := by
  obtain ⟨_, _, _, _, rfl⟩ := handled
  rfl

theorem Handled.requests_eq (handled : Handled first second) : second.requests = first.requests := by
  obtain ⟨_, _, _, _, rfl⟩ := handled
  rfl

theorem Handled.runProcess_eq (handled : Handled first second) : second.runProcess = first.runProcess := by
  obtain ⟨_, _, _, _, rfl⟩ := handled
  rfl

theorem Handled.deleteFault_eq (handled : Handled first second) : second.deleteFault = first.deleteFault := by
  obtain ⟨_, _, _, _, rfl⟩ := handled
  rfl

theorem Logged.handled (logged : Logged first second) : Handled first second := by
  obtain ⟨readings, log, rfl⟩ := logged
  exact ⟨first.disk, first.drawnNames, readings, log, rfl⟩

end

/-- The world when a span has been opened. -/
def ticked (world : World) : World :=
  { world with readings := world.readings + 1 }

theorem logged_ticked (world : World) : Logged world world.ticked :=
  ⟨world.readings + 1, world.log, rfl⟩

section
variable {α : Type}

theorem inSpan_run_fst (name : String) (attributes : Entries) (failureOf : α → Option Failure)
    (work : Span → Action (α × Span)) (world : World) :
    ((inSpan name attributes failureOf work).run world).1 =
      ((work ⟨name, attributes⟩).run world.ticked).1.1 := rfl

theorem logged_inSpan (name : String) (attributes : Entries) (failureOf : α → Option Failure)
    (work : Span → Action (α × Span)) (world : World) :
    Logged ((work ⟨name, attributes⟩).run world.ticked).2
      ((inSpan name attributes failureOf work).run world).2 :=
  ⟨_, _, rfl⟩

end

/-- A world in which nothing has happened yet. Processes succeed, and a server shows each address as its image. -/
def still : World where
  home := ["home"]
  environment := []
  disk := ⟨[], [["home"]]⟩
  runProcess _ := .exited 0 none none false
  answerRequest url := .answer 200 none url.toUTF8
  deleteFault := none
  temporaryFault := none
  randomNames number := toString number
  drawnNames := 0
  clock _ := 0.0
  readings := 0
  processes := []
  requests := []
  log := []

end World

/-- A local command, and all else by default. -/
def drawing : Config :=
  ⟨.image, some "plantuml -charset 'UTF-8'", none, World.still.homePath, ".", .png, 60.0, 4, .localCommand⟩

end DiagramWeave
