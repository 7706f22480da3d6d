import DiagramWeave.Proofs.World.Files

/-!
# Rendering one block by a fetch

Whatever becomes of a block, one request is sent for it, as long as no redirect is followed. The block gets its
locator just when the server shows an image and this image can be written, and then one file is set.
-/
namespace DiagramWeave

variable {client : HttpClient} {server : String} {config : Config} {block : Block} {world : World}

/-- No answer sends the client elsewhere. -/
def HttpClient.Direct (client : HttpClient) (world : World) : Prop :=
  client.followRedirects = true → ∀ url status location body,
    world.answerRequest url = .answer status (some location) body → isRedirect status = false

def requestFor (server : String) (config : Config) (block : Block) : Request :=
  ⟨blockUrl server block, config.timeout⟩

/-- Between the two worlds these requests were sent and these files were set, and no process was started. -/
structure World.Fetched (requests : List Request) (stored : List (Place × ByteArray)) (before after : World) :
    Prop where
  home : after.home = before.home
  answers : after.answerRequest = before.answerRequest
  processes : after.processes = before.processes
  requests : after.requests = before.requests ++ requests
  disk : after.disk = before.disk.setFiles stored

theorem World.Fetched.refl (world : World) : World.Fetched [] [] world world :=
  ⟨rfl, rfl, rfl, (List.append_nil _).symm, rfl⟩

theorem World.Fetched.trans {first second third : World} {one two : List Request}
    {early late : List (Place × ByteArray)} (before : World.Fetched one early first second)
    (after : World.Fetched two late second third) : World.Fetched (one ++ two) (early ++ late) first third where
  home := after.home.trans before.home
  answers := after.answers.trans before.answers
  processes := after.processes.trans before.processes
  requests := by rw [after.requests, before.requests, List.append_assoc]
  disk := by rw [after.disk, before.disk, Disk.setFiles_append]

theorem World.Fetched.logged {first second third : World} {requests : List Request}
    {stored : List (Place × ByteArray)} (fetched : World.Fetched requests stored first second)
    (logged : World.Logged second third) : World.Fetched requests stored first third := by
  obtain ⟨_, _, rfl⟩ := logged
  exact ⟨fetched.home, fetched.answers, fetched.processes, fetched.requests, fetched.disk⟩

theorem World.Fetched.direct {before after : World} {requests : List Request} {stored : List (Place × ByteArray)}
    (fetched : World.Fetched requests stored before after) (direct : client.Direct before) : client.Direct after := by
  intro follows url status location body answer
  rw [fetched.answers] at answer
  exact direct follows url status location body answer

def World.sent (world : World) (request : Request) : World :=
  { world with requests := world.requests ++ [request] }

def Config.targetOf (config : Config) (block : Block) : FilePath :=
  config.outputDir.join (FilePath.ofText block.outputName)

/-- What the server shows for a block is an image, and it can be written to a place. -/
structure Stores (server : String) (config : Config) (world : World) (block : Block)
    (stored : Place × ByteArray) : Prop where
  shown : ∃ status location,
    world.answerRequest (blockUrl server block) = .answer status location stored.2 ∧ isSuccess status = true
  leads : world.disk.Leads world.home (config.targetOf block) stored.1

theorem Stores.unique {stored other : Place × ByteArray} (one : Stores server config world block stored)
    (two : Stores server config world block other) : stored = other := by
  obtain ⟨_, _, answered, _⟩ := one.shown
  obtain ⟨_, _, again, _⟩ := two.shown
  have place := Except.ok.inj (one.leads.1.symm.trans two.leads.1)
  have content := (Response.answer.inj (answered.symm.trans again)).2.2
  exact Prod.ext place content

theorem stores_iff (server : String) (config : Config) {before after : World} {requests : List Request}
    {set : List (Place × ByteArray)} (fetched : World.Fetched requests set before after)
    (free : ∀ entry ∈ set, before.disk.at? entry.1 ≠ some .directory) (block : Block) (stored : Place × ByteArray) :
    Stores server config after block stored ↔ Stores server config before block stored := by
  have leads : after.disk.Leads after.home (config.targetOf block) stored.1 ↔
      before.disk.Leads before.home (config.targetOf block) stored.1 := by
    rw [fetched.disk, fetched.home]
    exact Disk.leads_setFiles free
  have answers := fetched.answers
  exact ⟨fun stores => ⟨answers ▸ stores.shown, leads.1 stores.leads⟩,
    fun stores => ⟨answers ▸ stores.shown, leads.2 stores.leads⟩⟩

def Response.result : Response → Except String (Nat × ByteArray)
  | .answer status _ body => .ok (status, body)
  | .failed cause => .error cause

theorem HttpClient.get_run (direct : client.Direct world) (url : String) (timeout : Float) :
    (client.get url timeout).run world = ((world.answerRequest url).result, world.sent ⟨url, timeout⟩) := by
  have sent : (World.send ⟨url, timeout⟩).run world = (world.answerRequest url, world.sent ⟨url, timeout⟩) := rfl
  rw [HttpClient.get, HttpClient.getFrom, run_bind, sent]
  cases answer : world.answerRequest url with
  | failed cause => rfl
  | answer status location body =>
    cases location with
    | none => rfl
    | some location =>
      have stays : (client.followRedirects && isRedirect status) = false := by
        cases follows : client.followRedirects with
        | false => rfl
        | true => exact direct follows url status location body answer
      simp only [stays]
      rfl

namespace RemoteRender

theorem fetchBlock_run (direct : client.Direct world) (server : String) (config : Config) (block : Block)
    (span : Span) :
    let run := (fetchBlock client server config block span).run world
    (∃ stored, Stores server config world block stored ∧ run.1.1 = .ok () ∧
        World.Fetched [requestFor server config block] [stored] world run.2) ∨
      ((∀ stored, ¬ Stores server config world block stored) ∧
        (∃ failure, run.1.1 = .error failure ∧
          ∀ error, failure = .rendering error → error.title = some block.title) ∧
        World.Fetched [requestFor server config block] [] world run.2) := by
  have sent : World.Fetched [requestFor server config block] [] world
      (world.sent ⟨blockUrl server block, config.timeout⟩) := ⟨rfl, rfl, rfl, rfl, rfl⟩
  rw [fetchBlock]
  simp only [run_bind, HttpClient.get_run direct]
  cases answer : world.answerRequest (blockUrl server block) with
  | failed cause =>
    refine .inr ⟨fun stored stores => ?_, ⟨_, rfl, fun error same => ?_⟩, sent⟩
    · obtain ⟨_, _, shown, _⟩ := stores.shown
      rw [answer] at shown
      cases shown
    · cases same
      rfl
  | answer status location body =>
    simp only [Response.result]
    split
    next refused =>
      refine .inr ⟨fun stored stores => ?_, ⟨_, rfl, fun error same => ?_⟩, sent⟩
      · obtain ⟨_, _, shown, success⟩ := stores.shown
        rw [answer] at shown
        cases shown
        simp [success] at refused
      · cases same
        rfl
    next success =>
      rw [run_bind, World.writeFile_run]
      have same : (world.sent ⟨blockUrl server block, config.timeout⟩).disk.write
          (world.sent ⟨blockUrl server block, config.timeout⟩).home
          (config.outputDir.join (FilePath.ofText block.outputName)) body =
          world.disk.write world.home (config.targetOf block) body := rfl
      rw [same]
      cases written : world.disk.write world.home (config.targetOf block) body with
      | ok disk =>
        obtain ⟨place, leads, rfl⟩ := Disk.exists_leads_of_write written
        have good : isSuccess status = true := by simpa using success
        exact .inl ⟨(place, body), ⟨⟨status, location, answer, good⟩, leads⟩, rfl,
          rfl, rfl, rfl, rfl, rfl⟩
      | error fault =>
        have missed : ∀ stored, ¬ Stores server config world block stored := by
          intro stored stores
          obtain ⟨_, _, shown, _⟩ := stores.shown
          rw [answer] at shown
          cases shown
          have fine := Disk.write_of_leads stored.2 stores.leads
          rw [written] at fine
          cases fine
        cases fault with
        | nullCharacter => exact .inr ⟨missed, ⟨_, rfl, nofun⟩, sent⟩
        | refused code path =>
          refine .inr ⟨missed, ⟨_, rfl, fun error same => ?_⟩, sent⟩
          cases same
          rfl

theorem fetchWork_eq (client : HttpClient) (server : String) (config : Config) (block : Block) (world : World) :
    ∃ span,
      ((fetchWork client server config block).run world).1 =
          ((fetchBlock client server config block span).run world.ticked).1.1.map
            (fun _ => fileLocator config.baseRef block.outputName) ∧
        World.Logged ((fetchBlock client server config block span).run world.ticked).2
          ((fetchWork client server config block).run world).2 := by
  refine ⟨⟨"plantmark.render.block", [("strategy", .text Strategy.remoteFetch.name), ("title", .text block.title),
    ("format", .text block.extension), ("url", .text (blockUrl server block))]⟩, ?_, ?_⟩
  · rw [fetchWork, World.inSpan_run_fst, run_bind]
    rfl
  · rw [fetchWork]
    refine World.Logged.trans ?_ (World.logged_inSpan _ _ _ _ world)
    rw [run_bind]
    exact .refl _

/-- What rendering a block comes to. One request is sent, and one file is set if the block gets its locator. -/
theorem fetchWork_run (direct : client.Direct world) (server : String) (config : Config) (block : Block) :
    let run := (fetchWork client server config block).run world
    (∃ stored, Stores server config world block stored ∧
        run.1 = .ok (fileLocator config.baseRef block.outputName) ∧
        World.Fetched [requestFor server config block] [stored] world run.2) ∨
      ((∀ stored, ¬ Stores server config world block stored) ∧
        (∃ failure, run.1 = .error failure ∧
          ∀ error, failure = .rendering error → error.title = some block.title) ∧
        World.Fetched [requestFor server config block] [] world run.2) := by
  obtain ⟨span, result, logged⟩ := fetchWork_eq client server config block world
  have ticked : World.Fetched [] [] world world.ticked := (World.Fetched.refl world).logged (World.logged_ticked world)
  have stores_iff := stores_iff server config ticked nofun block
  have direct : client.Direct world.ticked := direct
  rcases fetchBlock_run direct server config block span with
    ⟨stored, stores, fine, fetched⟩ | ⟨missed, ⟨failure, failed, named⟩, fetched⟩
  · rw [fine] at result
    exact .inl ⟨stored, (stores_iff stored).1 stores, result, (ticked.trans fetched).logged logged⟩
  · rw [failed] at result
    exact .inr ⟨fun stored stores => missed stored ((stores_iff stored).2 stores), ⟨failure, result, named⟩,
      (ticked.trans fetched).logged logged⟩

end RemoteRender

end DiagramWeave
