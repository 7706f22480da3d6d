import DiagramWeave.Http
import DiagramWeave.Render.Assign
import DiagramWeave.Token
import DiagramWeave.World.Basic

/-!
# Rendering by a server

The server shows the image of a block at an address made of the block's format and token. Either the image
is fetched from there and written to the output directory, or the address itself is the locator and
nothing is fetched or written.
-/
namespace DiagramWeave.RemoteRender

/-- Fetches an image. The attributes that the span has gained are handed back with the result. -/
def fetchBlock (client : HttpClient) (server : String) (config : Config) (block : Block) (span : Span) :
    Action (Except Failure Unit × Span) := do
  let fail (cause : RenderCause) : Failure := .rendering ⟨some block.title, cause⟩
  match ← client.get (blockUrl server block) config.timeout with
  | .error cause => return (.error (fail (.requestFailed server cause)), span)
  | .ok (status, body) =>
    let span := span.add none [("status", .int status)]
    if !isSuccess status then return (.error (fail (.badStatus status)), span)
    else
      let target := config.outputDir.join (FilePath.ofText block.outputName)
      match ← World.writeFile target body with
      | .error .nullCharacter => return (.error (.breakdown (.disk .nullCharacter)), span)
      | .error fault => return (.error (fail (.notWritten target fault.text)), span)
      | .ok _ =>
        return (.ok (), span.add none [("size", .int body.size), ("path", .text target.text)])

/-- Fetches the image of a block and gives its locator. -/
def fetchWork (client : HttpClient) (server : String) (config : Config) (block : Block) :
    Action (Except Failure String) :=
  let attributes : Entries := [("strategy", .text Strategy.remoteFetch.name),
    ("title", .text block.title), ("format", .text block.extension),
    ("url", .text (blockUrl server block))]
  World.inSpan "plantmark.render.block" attributes World.failureOf fun span => do
    let (result, span) ← fetchBlock client server config block span
    return (result.map fun _ => fileLocator config.baseRef block.outputName, span)

/-- Gives a block the address of its image. -/
def linkWork (server : String) (block : Block) : Action (Except Failure String) :=
  return .ok (blockUrl server block)

end DiagramWeave.RemoteRender
