import DiagramWeave.Proofs.Pipeline.Outcomes
import DiagramWeave.Proofs.World.Paths

/-!
# Failures that a run foresees

Whatever processes, servers and files do in the ways that the world knows of, a run over a document comes to a text or
to an error of the rendering or of the rewriting. Of these ways one alone gets through: a path with a null character,
which the system does not even look up. Such a path comes of the output directory or, where images are fetched, of the
title of a block.

The world has no answer to a command with a null character among its words, to a process whose output is not in UTF-8
and to an address that the client does not take for one, such as that of a server with a port of letters. What comes of
these is not foreseen either, and nothing is said of it here.
-/
namespace DiagramWeave

variable {config : Config} {client : HttpClient} {text : String} {world after : World} {blocks : List Block}

namespace Config

/-- The server shows the image of a block. -/
def Shows (config : Config) (client : HttpClient) (block : Block) (world : World) : Prop :=
  ∃ status body,
    ((client.get (blockUrl config.linkServer block) config.timeout).run world.ticked).1 = .ok (status, body) ∧
      isSuccess status = true

end Config

/-! ### Where a null character comes from -/

end DiagramWeave
