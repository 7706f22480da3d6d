import DiagramWeave.Proofs.Render.CommandSteps
import DiagramWeave.Proofs.Render.Fetch
import Mathlib.Data.List.Chain

/-!
# The steps of rendering by a fetch

What a step can do is said once, with a case for each kind of step. The requests of all works stand in one record, and
each of them belongs to a work: the first request of a work asks for the image of its block, and every further one is
where the server has sent the client on to.
-/
namespace DiagramWeave

/-- The server has sent the client on from one request to the other. -/
def HttpClient.Follows (client : HttpClient) (world : World) (one other : Request) : Prop :=
  ∃ status location body, world.answerRequest one.url = .answer status (some location) body ∧
    client.followRedirects = true ∧ isRedirect status = true ∧
    other = ⟨resolveLocation one.url location, one.timeout⟩

namespace RemoteRender

variable {client : HttpClient} {server : String} {config : Config} {block : Block} {world base : World}

/-! ### What a step can do -/

inductive Changes (client : HttpClient) (server : String) (config : Config) (block : Block) (world : World) :
    Station → Station → World → Prop
  | opens (start : Float) : Changes client server config block world .waiting
      (.asking start (blockUrl server block) (redirectLimit + 1)) world.ticked
  | givesUp {start : Float} {url : String} {span : Span} {result : Except Failure Unit} :
      Changes client server config block world (.asking start url 0) (.closing start span result) world
  | asks {start : Float} {url : String} {left : Nat} : Changes client server config block world
      (.asking start url (left + 1)) (answered client server block start url left (world.answerRequest url))
      (world.sent ⟨url, config.timeout⟩)
  | stores {start : Float} {status : Nat} {body : ByteArray} {span : Span} {result : Except Failure Unit}
      {place : Place} : world.disk.Leads world.home (config.targetOf block) place →
      Changes client server config block world (.storing start status body) (.closing start span result)
        { world with disk := world.disk.setFile place body }
  | storesNothing {start : Float} {status : Nat} {body : ByteArray} {span : Span} {result : Except Failure Unit} :
      Changes client server config block world (.storing start status body) (.closing start span result) world
  | closes {start : Float} {span : Span} {result : Except Failure Unit} {came : Except Failure String} {after : World} :
      World.Logged world after →
      Changes client server config block world (.closing start span result) (.ended came) after

theorem changes_store (start : Float) (status : Nat) (body : ByteArray) :
    Changes client server config block world (.storing start status body)
      ((store server config block start status body).run world).1
      ((store server config block start status body).run world).2 := by
  simp only [store, run_bind, World.writeFile_run]
  have same : config.outputDir.join (FilePath.ofText block.outputName) = config.targetOf block := rfl
  rw [same]
  cases written : world.disk.write world.home (config.targetOf block) body with
  | ok disk =>
    obtain ⟨place, leads, rfl⟩ := Disk.exists_leads_of_write written
    exact .stores leads
  | error fault => cases fault <;> exact .storesNothing

theorem changes_step {station : Station} (goesOn : (craft client server config).result? block station = none) :
    Changes client server config block world station
      (((craft client server config).step block station).run world).1
      (((craft client server config).step block station).run world).2 := by
  cases station with
  | waiting => exact .opens _
  | asking start url left =>
    cases left with
    | zero => exact .givesUp
    | succ left => exact .asks
  | storing start status body => exact changes_store start status body
  | closing start span result => exact .closes ⟨_, _, rfl⟩
  | ended came => cases goesOn

/-- A move of the bench is such a step, or something is noted. -/
theorem changes_of_moves {bench next : Bench Station} (move : bench.Moves (craft client server config) next) :
    (∃ message, next = bench.noted message) ∨
      ∃ number block station later after, bench.works[number]? = some (block, station) ∧
        Changes client server config block bench.world station later after ∧
        next = ⟨bench.works.set number (block, later), after⟩ := by
  cases move with
  | note message => exact .inl ⟨message, rfl⟩
  | work here goesOn => exact .inr ⟨_, _, _, _, _, here, changes_step goesOn, rfl⟩

theorem Changes.steady {station next : Station} {after : World}
    (changes : Changes client server config block world station next after) : World.Steady world after := by
  cases changes with
  | opens => exact (World.logged_ticked world).steady
  | closes logged => exact logged.steady
  | givesUp | storesNothing => exact .refl world
  | asks => exact ⟨world.disk, world.drawnNames, world.readings, world.processes, _, world.log, rfl⟩
  | stores => exact ⟨_, world.drawnNames, world.readings, world.processes, world.requests, world.log, rfl⟩

theorem Changes.processes_eq {station next : Station} {after : World}
    (changes : Changes client server config block world station next after) : after.processes = world.processes := by
  cases changes with
  | closes logged =>
    obtain ⟨_, _, rfl⟩ := logged
    rfl
  | opens | givesUp | asks | stores | storesNothing => rfl

/-! ### Whose requests they are -/

/-- The address that a work is about to ask. -/
def Station.url? : Station → Option String
  | .asking _ url _ => some url
  | .waiting | .storing _ _ _ | .closing _ _ _ | .ended _ => none

theorem follows_of_answered {start : Float} {url next : String} {left : Nat}
    (goesOn : (answered client server block start url left (world.answerRequest url)).url? = some next)
    (timeout : Float) : client.Follows world ⟨url, timeout⟩ ⟨next, timeout⟩ := by
  cases answer : world.answerRequest url with
  | failed cause =>
    rw [answer] at goesOn
    cases goesOn
  | answer status location body =>
    rw [answer] at goesOn
    simp only [answered] at goesOn
    split at goesOn
    next target redirected =>
      cases goesOn
      simp only [HttpClient.redirect?, Option.ite_none_right_eq_some, Bool.and_eq_true, Option.map_eq_some_iff]
        at redirected
      obtain ⟨⟨follows, redirects⟩, location, rfl, rfl⟩ := redirected
      exact ⟨status, location, body, answer, follows, redirects, rfl⟩
    · split at goesOn <;> cases goesOn

/-- Requests that may be sent for a block, one after the other. -/
structure Trail (client : HttpClient) (server : String) (config : Config) (world : World) (block : Block)
    (requests : List Request) : Prop where
  first : ∀ request, requests.head? = some request → request = requestFor server config block
  onward : requests.IsChain (client.Follows world)

theorem trail_nil : Trail client server config world block [] :=
  ⟨nofun, .nil⟩

theorem trail_first : Trail client server config world block [requestFor server config block] :=
  ⟨fun _ first => (Option.some.inj first).symm, .singleton _⟩

theorem Trail.snoc {requests : List Request} {one other : Request}
    (trail : Trail client server config world block (requests ++ [one])) (follows : client.Follows world one other) :
    Trail client server config world block (requests ++ [one] ++ [other]) where
  first request head := by
    refine trail.first request ?_
    rw [List.head?_append_of_ne_nil _ (by simp)] at head
    exact head
  onward := by
    refine List.isChain_append.2 ⟨trail.onward, .singleton other, fun last ends next begins => ?_⟩
    cases List.getLast?_concat ▸ ends
    cases begins
    exact follows

/-- The requests of the work with a number, among requests that say which work each of them is of. -/
def requestsOf (sent : List (Nat × Request)) (number : Nat) : List Request :=
  (sent.filter fun entry => entry.1 = number).map Prod.snd

theorem requestsOf_append (sent : List (Nat × Request)) (owner : Nat) (request : Request) (number : Nat) :
    requestsOf (sent ++ [(owner, request)]) number =
      if owner = number then requestsOf sent number ++ [request] else requestsOf sent number := by
  simp only [requestsOf, List.filter_append, List.map_append]
  by_cases same : owner = number <;> simp [same]

/-- The works of a bench have sent these requests since `base`. -/
structure Asked (client : HttpClient) (server : String) (config : Config) (base : World) (bench : Bench Station)
    (sent : List (Nat × Request)) : Prop where
  steady : World.Steady base bench.world
  requests : bench.world.requests = base.requests ++ sent.map Prod.snd
  owned : ∀ entry ∈ sent, entry.1 < bench.works.length
  trail : ∀ number block station, bench.works[number]? = some (block, station) →
    Trail client server config base block (requestsOf sent number)
  fresh : ∀ number block, bench.works[number]? = some (block, .waiting) → requestsOf sent number = []
  next : ∀ number block station url, bench.works[number]? = some (block, station) → station.url? = some url →
    Trail client server config base block (requestsOf sent number ++ [⟨url, config.timeout⟩])

theorem asked_start (blocks : List Block) (base : World) :
    Asked client server config base (Bench.start (craft client server config) blocks base) [] where
  steady := .refl base
  requests := (List.append_nil _).symm
  owned := nofun
  trail _ _ _ _ := trail_nil
  fresh _ _ _ := rfl
  next number block station url here asks := by
    obtain ⟨block, _, same⟩ := List.mem_map.1 (List.mem_of_getElem? here)
    cases same
    cases asks

section moves

variable {bench : Bench Station} {sent : List (Nat × Request)} {number : Nat} {station later : Station} {after : World}

theorem getElem?_set_works (here : bench.works[number]? = some (block, station)) (other : Nat) :
    (bench.works.set number (block, later))[other]? =
      if number = other then some (block, later) else bench.works[other]? := by
  obtain ⟨inside, _⟩ := List.getElem?_eq_some_iff.1 here
  simp only [List.getElem?_set, inside, if_true]

/-- Steps that send nothing leave all requests to the works that they were of. -/
theorem Asked.keep (asked : Asked client server config base bench sent)
    (here : bench.works[number]? = some (block, station)) (steady : World.Steady bench.world after)
    (requests : after.requests = bench.world.requests)
    (started : later ≠ .waiting)
    (next : ∀ url, later.url? = some url →
      Trail client server config base block (requestsOf sent number ++ [⟨url, config.timeout⟩])) :
    Asked client server config base ⟨bench.works.set number (block, later), after⟩ sent where
  steady := asked.steady.trans steady
  requests := requests.trans asked.requests
  owned entry member := by
    rw [List.length_set]
    exact asked.owned entry member
  trail other held stands there := by
    rw [getElem?_set_works here] at there
    split at there
    next equal =>
      cases there
      exact equal ▸ asked.trail number block station here
    · exact asked.trail other held stands there
  fresh other held there := by
    rw [getElem?_set_works here] at there
    split at there
    · cases there
      exact absurd rfl started
    · exact asked.fresh other held there
  next other held stands url there asks := by
    rw [getElem?_set_works here] at there
    split at there
    next equal =>
      cases there
      exact equal ▸ next url asks
    · exact asked.next other held stands url there asks

/-- The step that sends a request adds it to those of its own work. -/
theorem Asked.send {start : Float} {url : String} {left : Nat} (asked : Asked client server config base bench sent)
    (here : bench.works[number]? = some (block, .asking start url left)) (started : later ≠ .waiting)
    (next : ∀ target, later.url? = some target →
      client.Follows base ⟨url, config.timeout⟩ ⟨target, config.timeout⟩) :
    Asked client server config base
      ⟨bench.works.set number (block, later), bench.world.sent ⟨url, config.timeout⟩⟩
      (sent ++ [(number, ⟨url, config.timeout⟩)]) := by
  have trail := asked.next number block _ url here rfl
  constructor
  case steady => exact asked.steady.trans ⟨_, _, _, _, bench.world.requests ++ [⟨url, config.timeout⟩], _, rfl⟩
  case requests => simp [World.sent, asked.requests]
  case owned =>
    intro entry member
    rw [List.length_set]
    rcases List.mem_append.1 member with member | last
    · exact asked.owned entry member
    · cases List.mem_singleton.1 last
      exact (List.getElem?_eq_some_iff.1 here).1
  case trail =>
    intro other held stands there
    rw [getElem?_set_works here] at there
    rw [requestsOf_append]
    split at there
    next equal =>
      -- The address was the next one of this work, so its trail holds with the request.
      cases there
      rwa [if_pos equal, ← equal]
    next apart =>
      rw [if_neg apart]
      exact asked.trail other held stands there
  case fresh =>
    intro other held there
    rw [getElem?_set_works here] at there
    rw [requestsOf_append]
    split at there
    · cases there
      exact absurd rfl started
    next apart =>
      rw [if_neg apart]
      exact asked.fresh other held there
  case next =>
    intro other held stands target there asks
    rw [getElem?_set_works here] at there
    rw [requestsOf_append]
    split at there
    next equal =>
      -- The server has sent this work on.
      cases there
      rw [if_pos equal, ← equal]
      exact trail.snoc (next target asks)
    next apart =>
      rw [if_neg apart]
      exact asked.next other held stands target there asks

end moves

theorem answered_ne_waiting {start : Float} {url : String} {left : Nat} (response : Response) :
    answered client server block start url left response ≠ .waiting := by
  intro same
  cases response with
  | failed cause => cases same
  | answer status location body =>
    simp only [answered] at same
    split at same
    · cases same
    · split at same <;> cases same

theorem Asked.moves {bench next : Bench Station} {sent : List (Nat × Request)}
    (asked : Asked client server config base bench sent) (move : bench.Moves (craft client server config) next) :
    ∃ more, Asked client server config base next more := by
  rcases changes_of_moves move with ⟨message, rfl⟩ | ⟨number, block, station, later, after, here, changes, rfl⟩
  · have steady := asked.steady.trans (bench.noted_world message).steady
    exact ⟨sent, steady, asked.requests, asked.owned, asked.trail, asked.fresh, asked.next⟩
  · have steady := changes.steady
    cases changes with
    | opens start =>
      refine ⟨sent, asked.keep here steady rfl nofun fun url asks => ?_⟩
      cases asks
      rw [asked.fresh number block here]
      exact trail_first
    | @asks start url left =>
      refine ⟨_, asked.send here (answered_ne_waiting _) fun target goesOn => ?_⟩
      have follows := follows_of_answered goesOn config.timeout
      -- What servers answer is the same in every world of the run.
      obtain ⟨_, _, _, _, _, _, same⟩ := asked.steady
      rw [same] at follows
      exact follows
    | closes logged =>
      obtain ⟨_, _, rfl⟩ := logged
      exact ⟨sent, asked.keep here steady rfl nofun nofun⟩
    | givesUp | stores | storesNothing => exact ⟨sent, asked.keep here steady rfl nofun nofun⟩

theorem asked_reaches {blocks : List Block} {bench : Bench Station}
    (reached : (Bench.start (craft client server config) blocks base).Reaches (craft client server config) bench) :
    ∃ sent, Asked client server config base bench sent :=
  reached.preserves (P := fun bench => ∃ sent, Asked client server config base bench sent)
    (fun move ⟨_, asked⟩ => asked.moves move) ⟨[], asked_start blocks base⟩

/-- No process is started. -/
theorem processes_reaches {blocks : List Block} {bench : Bench Station}
    (reached : (Bench.start (craft client server config) blocks base).Reaches (craft client server config) bench) :
    bench.world.processes = base.processes := by
  refine reached.preserves (P := fun bench => bench.world.processes = base.processes) (fun move same => ?_) rfl
  rcases changes_of_moves move with ⟨message, rfl⟩ | ⟨number, block, station, later, after, here, changes, rfl⟩
  · exact same
  · exact changes.processes_eq.trans same

end RemoteRender

end DiagramWeave
