import DiagramWeave.Proofs.Render.Stations
import Mathlib.Logic.Relation

/-!
# Works that interrupt each other

A bench moves when one of its works takes a step, whichever it is. What every move preserves holds however the works
interrupt each other. The plain loop is one way to move: the works on the blocks come one after the other, and when it
ends each of them is over or has not begun.
-/
namespace DiagramWeave

namespace Bench

variable {σ : Type} {craft : Craft σ} {bench next : Bench σ} {blocks : List Block} {world : World}

/-- A work that is not over takes a step, or something is noted. -/
inductive Moves (craft : Craft σ) (bench : Bench σ) : Bench σ → Prop
  | work {number : Nat} {block : Block} {station : σ} : bench.works[number]? = some (block, station) →
      craft.result? block station = none → Moves craft bench (bench.advance craft number block station)
  | note (message : String) : Moves craft bench (bench.noted message)

def Reaches (craft : Craft σ) : Bench σ → Bench σ → Prop :=
  Relation.ReflTransGen (Moves craft)

theorem Reaches.refl (bench : Bench σ) : Reaches craft bench bench :=
  Relation.ReflTransGen.refl

theorem Reaches.trans {first second third : Bench σ} (before : Reaches craft first second)
    (after : Reaches craft second third) : Reaches craft first third :=
  Relation.ReflTransGen.trans before after

/-- What every move preserves holds wherever a bench gets to. -/
theorem Reaches.preserves {P : Bench σ → Prop} (reached : Reaches craft bench next)
    (moves : ∀ {one other}, Moves craft one other → P one → P other) (first : P bench) : P next := by
  induction reached with
  | refl => exact first
  | tail _ last ih => exact moves last ih

theorem noted_world (bench : Bench σ) (message : String) : World.Logged bench.world (bench.noted message).world :=
  ⟨_, _, rfl⟩

theorem advance_works (number : Nat) (block : Block) (station : σ) :
    (bench.advance craft number block station).works =
      bench.works.set number (block, ((craft.step block station).run bench.world).1) := rfl

theorem getElem?_advance {number : Nat} {block : Block} {station : σ}
    (here : bench.works[number]? = some (block, station)) (other : Nat) :
    (bench.advance craft number block station).works[other]? =
      if number = other then some (block, ((craft.step block station).run bench.world).1)
      else bench.works[other]? := by
  obtain ⟨inside, _⟩ := List.getElem?_eq_some_iff.1 here
  simp only [advance_works, List.getElem?_set, inside, if_true]

/-- The works are on the same blocks all along. -/
theorem Reaches.blocks_eq (reached : Reaches craft bench next) :
    next.works.map Prod.fst = bench.works.map Prod.fst := by
  refine reached.preserves (P := fun next => next.works.map Prod.fst = bench.works.map Prod.fst) ?_ rfl
  intro one other move same
  cases move with
  | @work number block station here =>
    rw [← same, advance_works, List.map_set]
    apply List.ext_getElem?
    intro place
    rw [List.getElem?_set]
    split
    next equal =>
      subst equal
      obtain ⟨inside, found⟩ := List.getElem?_eq_some_iff.1 here
      simp [inside, found]
    · rfl
  | note message => exact same

theorem blocks_start (craft : Craft σ) (blocks : List Block) (world : World) :
    (start craft blocks world).works.map Prod.fst = blocks := by
  simp [start, Function.comp_def]

/-- A result stands. -/
theorem Moves.result?_eq (move : Moves craft bench next) {number : Nat} {result : Except Failure String}
    (finished : bench.result? craft number = some result) : next.result? craft number = some result := by
  cases move with
  | @work other block station here goesOn =>
    rw [result?, getElem?_advance here]
    split
    next equal =>
      -- This work would be over, but it was not when it took the step.
      rw [← equal, result?, here, Option.bind_some, goesOn] at finished
      cases finished
    · exact finished
  | note message => exact finished

theorem Reaches.result?_eq (reached : Reaches craft bench next) {number : Nat} {result : Except Failure String}
    (finished : bench.result? craft number = some result) : next.result? craft number = some result :=
  reached.preserves (P := fun next => next.result? craft number = some result)
    (fun move finished => move.result?_eq finished) finished

/-! ### The works in turn -/

theorem Moves.cons (work : Block × σ) {works : List (Block × σ)} (move : Moves craft ⟨works, world⟩ next) :
    Moves craft ⟨work :: works, world⟩ ⟨work :: next.works, next.world⟩ := by
  cases move with
  | @work number block station here goesOn =>
    exact @Moves.work σ craft ⟨work :: works, world⟩ (number + 1) block station here goesOn
  | note message => exact .note message

theorem Reaches.cons (work : Block × σ) (reached : Reaches craft bench next) :
    Reaches craft ⟨work :: bench.works, bench.world⟩ ⟨work :: next.works, next.world⟩ := by
  induction reached with
  | refl => exact .refl _
  | tail _ last ih => exact ih.tail (last.cons work)

theorem reaches_of_goes {block : Block} {station last : σ} {after : World}
    (goes : craft.Goes block station world last after) (works : List (Block × σ)) :
    Reaches craft ⟨(block, station) :: works, world⟩ ⟨(block, last) :: works, after⟩ := by
  induction goes with
  | stays => exact .refl _
  | @steps station last world after goesOn _ ih =>
    have move := @Moves.work σ craft ⟨(block, station) :: works, world⟩ 0 block station rfl goesOn
    exact .head move ih

/-- Every work is over or has not begun, and the failure of the run is that of a work, or of a block that had a
    locator. -/
structure Accounts (craft : Craft σ) (bench : Bench σ) (failure : Option Failure) : Prop where
  quiet : ∀ work ∈ bench.works, work.2 = craft.first ∨ (craft.result? work.1 work.2).isSome
  fine : failure = none → ∀ work ∈ bench.works, ∃ locator, craft.result? work.1 work.2 = some (.ok locator)
  blamed : ∀ cause, failure = some cause → ∃ work ∈ bench.works,
    craft.result? work.1 work.2 = some (.error cause) ∨
      (work.1.locator ≠ none ∧ cause = assignedTwice work.1)

theorem Accounts.cons {block : Block} {last : σ} {locator : String} {failure : Option Failure}
    (rest : bench.Accounts craft failure) (finished : craft.result? block last = some (.ok locator)) :
    (⟨(block, last) :: bench.works, bench.world⟩ : Bench σ).Accounts craft failure where
  quiet := List.forall_mem_cons.2 ⟨.inr (by simp [finished]), rest.quiet⟩
  fine none := List.forall_mem_cons.2 ⟨⟨locator, finished⟩, rest.fine none⟩
  blamed cause failed := by
    obtain ⟨work, member, blamed⟩ := rest.blamed cause failed
    exact ⟨work, List.mem_cons_of_mem _ member, blamed⟩

/-- Where the first work fails, the others have not begun. -/
theorem accounts_stopped {block : Block} {last : σ} {result : Except Failure String} {cause : Failure}
    (blocks : List Block) (world : World) (finished : craft.result? block last = some result)
    (failed : block.assign assignedTwice result = .error cause) :
    (⟨(block, last) :: (start craft blocks world).works, world⟩ : Bench σ).Accounts craft (some cause) where
  quiet := by
    refine List.forall_mem_cons.2 ⟨.inr (by simp [finished]), fun work member => .inl ?_⟩
    obtain ⟨block, _, rfl⟩ := List.mem_map.1 member
    rfl
  fine none := nomatch none
  blamed other same := by
    cases same
    refine ⟨(block, last), List.mem_cons_self, ?_⟩
    rcases Block.fails_of_assign failed with rfl | located
    · exact .inl finished
    · exact .inr located

theorem runBlocks_reaches {work : Block → Action (Except Failure String)}
    (goes : ∀ block world, ∃ last, craft.result? block last = some ((work block).run world).1 ∧
      craft.Goes block craft.first world last ((work block).run world).2)
    (blocks : List Block) (world : World) :
    ∃ bench, Reaches craft (start craft blocks world) bench ∧
      bench.world = ((runBlocks assignedTwice work blocks).run world).2 ∧
      bench.Accounts craft ((runBlocks assignedTwice work blocks).run world).1.failure := by
  induction blocks generalizing world with
  | nil => exact ⟨start craft [] world, .refl _, rfl, by simp [start], by simp [start], nofun⟩
  | cons block blocks ih =>
    obtain ⟨last, finished, gone⟩ := goes block world
    have first : Reaches craft (start craft (block :: blocks) world)
        ⟨(block, last) :: (start craft blocks ((work block).run world).2).works, ((work block).run world).2⟩ :=
      reaches_of_goes gone _
    rw [runBlocks_run_cons]
    cases assigned : block.assign assignedTwice ((work block).run world).1 with
    | error cause => exact ⟨_, first, rfl, accounts_stopped blocks _ finished assigned⟩
    | ok located =>
      obtain ⟨bench, reached, ended, accounts⟩ := ih ((work block).run world).2
      obtain ⟨_, locator, fine, _⟩ := Block.assign_eq_ok.1 assigned
      exact ⟨_, first.trans (reached.cons (block, last)), ended, accounts.cons (fine ▸ finished)⟩

end Bench

end DiagramWeave
