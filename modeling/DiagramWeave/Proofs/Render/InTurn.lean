import DiagramWeave.Proofs.World.Runs
import DiagramWeave.Render.Pool

/-!
# Rendering in turn

The plain loop over blocks gives locators to the blocks in front of the first one that fails and stops there. Which
works were started is noted, and they are those of the blocks up to that one.

What a block may become, whose failure a run may end with and when no run can fail are said here for every way of
rendering.
-/
namespace DiagramWeave

variable {ε : Type} {twice : Block → ε} {outcome : Nat → Except ε String}

/-- The block had no locator and has got what its own work came to. -/
def Gets (result : Except ε String) (block located : Block) : Prop :=
  block.locator = none ∧ ∃ locator, result = .ok locator ∧ located = { block with locator := some locator }

/-- No work fails and no block has a locator yet. -/
def Clean (outcome : Nat → Except ε String) (blocks : List Block) : Prop :=
  ∀ number block, blocks[number]? = some block →
    block.locator = none ∧ ∃ locator, outcome number = .ok locator

/-- The failure is that of a work that was started, or of a block that had a locator when its work was done. -/
def Blamed (twice : Block → ε) (outcome : Nat → Except ε String) (blocks : List Block) (started : List Nat)
    (failure : ε) : Prop :=
  ∃ number ∈ started, ∃ block, blocks[number]? = some block ∧
    (outcome number = .error failure ∨ block.locator ≠ none ∧ failure = twice block)

/-- Every block has got what its own work came to. -/
structure Completed (outcome : Nat → Except ε String) (blocks results : List Block) : Prop where
  size : results.length = blocks.length
  gets : ∀ number block, blocks[number]? = some block →
    ∃ located, results[number]? = some located ∧ Gets (outcome number) block located

/-- Every block is as it was, or has got what its own work came to and this work was started. -/
structure Interrupted (outcome : Nat → Except ε String) (blocks results : List Block) (started : List Nat) :
    Prop where
  size : results.length = blocks.length
  kept : ∀ number block, blocks[number]? = some block → results[number]? = some block ∨
    number ∈ started ∧ ∃ located, results[number]? = some located ∧ Gets (outcome number) block located

theorem Block.assign_eq_ok {result : Except ε String} {block located : Block} :
    block.assign twice result = .ok located ↔ Gets result block located := by
  cases result with
  | error failure => simp [Block.assign, Gets]
  | ok locator => cases held : block.locator <;> simp [Block.assign, Block.locate?, Gets, held, eq_comm]

theorem Block.fails_of_assign {result : Except ε String} {block : Block} {failure : ε}
    (failed : block.assign twice result = .error failure) :
    result = .error failure ∨ block.locator ≠ none ∧ failure = twice block := by
  cases result with
  | error cause => exact .inl (by simpa [Block.assign] using failed)
  | ok locator =>
    cases held : block.locator <;> simp_all [Block.assign, Block.locate?]

theorem not_clean_of_blamed {blocks : List Block} {started : List Nat} {failure : ε}
    (blamed : Blamed twice outcome blocks started failure) : ¬ Clean outcome blocks := by
  intro clean
  obtain ⟨number, _, block, here, failed⟩ := blamed
  obtain ⟨unlocated, locator, ok⟩ := clean number block here
  rcases failed with failed | ⟨located, _⟩
  · rw [ok] at failed
    cases failed
  · exact located unlocated

theorem Blamed.mono {blocks : List Block} {started more : List Nat} {failure : ε}
    (blamed : Blamed twice outcome blocks started failure) (grows : ∀ number ∈ started, number ∈ more) :
    Blamed twice outcome blocks more failure := by
  obtain ⟨number, begun, found⟩ := blamed
  exact ⟨number, grows number begun, found⟩

theorem Completed.clean {blocks results : List Block} (completed : Completed outcome blocks results) :
    Clean outcome blocks := by
  intro number block here
  obtain ⟨_, _, unlocated, locator, ok, _⟩ := completed.gets number block here
  exact ⟨unlocated, locator, ok⟩

/-- What the works come to leaves one result only. -/
theorem Completed.unique {blocks first second : List Block} (one : Completed outcome blocks first)
    (other : Completed outcome blocks second) : first = second := by
  apply List.ext_getElem?
  intro number
  cases here : blocks[number]? with
  | none =>
    have short := List.getElem?_eq_none_iff.1 here
    rw [List.getElem?_eq_none (one.size ▸ short), List.getElem?_eq_none (other.size ▸ short)]
  | some block =>
    obtain ⟨_, atFirst, _, locator, ok, rfl⟩ := one.gets number block here
    obtain ⟨_, atSecond, _, locator', ok', rfl⟩ := other.gets number block here
    rw [ok] at ok'
    cases ok'
    rw [atFirst, atSecond]

theorem Completed.cons {block located : Block} {blocks results : List Block}
    (completed : Completed (fun number => outcome (number + 1)) blocks results)
    (gets : Gets (outcome 0) block located) :
    Completed outcome (block :: blocks) (located :: results) := by
  refine ⟨by simp [completed.size], fun number => ?_⟩
  cases number with
  | zero => simpa using gets
  | succ number => exact completed.gets number

theorem Interrupted.cons {block located : Block} {blocks results : List Block} {started : List Nat}
    (interrupted : Interrupted (fun number => outcome (number + 1)) blocks results started)
    (gets : Gets (outcome 0) block located) :
    Interrupted outcome (block :: blocks) (located :: results) (0 :: started.map Nat.succ) := by
  refine ⟨by simp [interrupted.size], fun number other here => ?_⟩
  cases number with
  | zero =>
    cases here
    exact .inr ⟨by simp, located, rfl, gets⟩
  | succ number =>
    rcases interrupted.kept number other here with same | ⟨begun, found⟩
    · exact .inl same
    · exact .inr ⟨by simpa using begun, found⟩

/-- One step of the loop: the work on the first block, and then the others unless it failed. -/
theorem runBlocks_run_cons {σ : Type} (work : Block → StateM σ (Except ε String)) (block : Block)
    (blocks : List Block) (state : σ) :
    (runBlocks twice work (block :: blocks)).run state =
      match block.assign twice ((work block).run state).1 with
      | .error failure => (⟨block :: blocks, some failure⟩, ((work block).run state).2)
      | .ok located =>
        let rest := (runBlocks twice work blocks).run ((work block).run state).2
        (⟨located :: rest.1.blocks, rest.1.failure⟩, rest.2) := by
  rw [runBlocks, run_bind]
  cases ((work block).run state).1 with
  | error failure => rfl
  | ok locator =>
    simp only [Block.assign]
    cases block.locate? locator <;> rfl

theorem workInTurn_run (block : Block) (k : Nat) :
    (workInTurn outcome block).run (List.range k) = (outcome k, List.range (k + 1)) := by
  rw [List.range_succ]
  exact congrArg (fun turn => (outcome turn, List.range k ++ [turn])) List.length_range

/-- The loop when the works before number `k` are over. Either every block gets its locator, or the works up
    to some block `last` were started, and this one failed. -/
theorem runBlocks_workInTurn (twice : Block → ε) (outcome : Nat → Except ε String) (blocks : List Block)
    (k : Nat) :
    let run := (runBlocks twice (workInTurn outcome) blocks).run (List.range k)
    let later := fun number => outcome (number + k)
    run.1.failure = none ∧ run.2 = List.range (blocks.length + k) ∧ Completed later blocks run.1.blocks ∨
      ∃ last failure, run.1.failure = some failure ∧ run.2 = List.range (last + 1 + k) ∧
        Blamed twice later blocks (List.range (last + 1)) failure ∧
        Interrupted later blocks run.1.blocks (List.range (last + 1)) := by
  induction blocks generalizing k with
  | nil => exact .inl ⟨rfl, congrArg List.range (Nat.zero_add k).symm, rfl, by simp⟩
  | cons block blocks ih =>
    -- The numbers of the other blocks are one more than their places among them.
    have shift : (fun number => outcome (number + (k + 1))) = fun number => outcome (number + 1 + k) :=
      funext fun number => by rw [Nat.add_right_comm, Nat.add_assoc]
    simp only [runBlocks_run_cons, workInTurn_run]
    cases assigned : block.assign twice (outcome k) with
    | error failure =>
      have blame : Blamed twice (fun number => outcome (number + k)) (block :: blocks) (List.range 1) failure :=
        ⟨0, by simp, block, rfl, by simpa using Block.fails_of_assign assigned⟩
      exact .inr ⟨0, failure, rfl, by rw [Nat.add_comm], blame, rfl, fun number block here => .inl here⟩
    | ok located =>
      have gets : Gets (outcome (0 + k)) block located := by simpa using Block.assign_eq_ok.1 assigned
      rcases ih (k + 1) with ⟨fine, started, completed⟩ | ⟨last, failure, failed, started, blamed, interrupted⟩
      · rw [shift] at completed
        refine .inl ⟨fine, ?_, completed.cons gets⟩
        rw [started, List.length_cons, Nat.add_right_comm, Nat.add_assoc]
      · rw [shift] at blamed interrupted
        obtain ⟨number, begun, bad, here, blame⟩ := blamed
        have begunToo : number + 1 ∈ List.range (last + 1 + 1) := by simpa using begun
        refine .inr ⟨last + 1, failure, failed, ?_, ⟨number + 1, begunToo, bad, here, blame⟩, ?_⟩
        · rw [started, Nat.add_right_comm _ 1 k, ← Nat.add_assoc]
        · have upTo : List.range (last + 1 + 1) = 0 :: (List.range (last + 1)).map Nat.succ := List.range_succ_eq_map
          rw [upTo]
          exact Interrupted.cons interrupted gets

end DiagramWeave
