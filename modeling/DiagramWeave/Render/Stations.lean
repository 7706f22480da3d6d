import DiagramWeave.Render.Local
import DiagramWeave.Render.Remote

/-!
# Rendering a block step by step

Where several blocks are rendered at once, the work on one of them may be interrupted by the works on the others. What
a work asks of the world in one go is a step: a file is made under a free name, filled or deleted, a process is run, a
request is sent, the clock is read. Between two steps the work stands at a station, and other works may take steps of
their own. Steps that nothing interrupts do what the whole work does.
-/
namespace DiagramWeave

/-- The work on a block as steps. It begins at the first station and is over where there is a result. -/
structure Craft (σ : Type) where
  first : σ
  step : Block → σ → Action σ
  result? : Block → σ → Option (Except Failure String)

/-- Ends a span that was opened at `start`. -/
def World.endSpan (span : Span) (start : Float) (failure : Option Failure) : Action Unit := do
  let stop ← readClock
  note (span.record start stop (failure.map Failure.logged))

namespace LocalRender

inductive Station where
  | waiting
  | opened (start : Float)
  /-- The temporary file is there, with nothing in it. -/
  | made (start : Float) (input : FilePath)
  /-- The block stands in its temporary file. -/
  | written (start : Float) (input : FilePath)
  /-- The command has been run on the file. -/
  | ran (start : Float) (input : FilePath) (came : Except RenderCause Int)
  | closing (start : Float) (came : Except RenderCause Int)
  | ended (came : Except RenderCause Int)

/-- Deletes a temporary file. The failure of the command counts more than that of the deletion, which is then noted
    only. -/
def tidy (input : FilePath) (came : Except RenderCause Int) : Action (Except RenderCause Int) := do
  match came, ← deleteTemporary input with
  | .ok _, .error text => return .error (.temporaryFileStays input text)
  | .error cause, .error text =>
    World.warn s!"Cannot delete temporary file {input.text}: {text}"
    return .error cause
  | came, .ok _ => return came

/-- The result of the work on a block. -/
def resultOf (config : Config) (block : Block) (came : Except RenderCause Int) : Except Failure String :=
  match came with
  | .error cause => .error (.rendering ⟨some block.title, cause⟩)
  | .ok _ => .ok (fileLocator config.baseRef block.outputName)

/-- The span of the work on a block, with the exit code of the command if it succeeded. -/
def spanOf (block : Block) (came : Except RenderCause Int) : Span :=
  let span : Span := ⟨"plantmark.render.block", [("strategy", .text Strategy.localCommand.name),
    ("title", .text block.title), ("format", .text block.extension)]⟩
  match came with
  | .error _ => span
  | .ok code => span.add none [("returncode", .int code)]

def Station.next (command : List String) (config : Config) (block : Block) : Station → Action Station
  | .waiting => do return .opened (← World.readClock)
  | .opened start => do
    match ← makeTemporary config.outputDir block with
    | .error cause => return .closing start (.error cause)
    | .ok input => return .made start input
  | .made start input => do
    match ← fillTemporary input block with
    | .error cause => return .closing start (.error cause)
    | .ok _ => return .written start input
  | .written start input => do return .ran start input (← runCommand command config block input)
  | .ran start input came => do return .closing start (← tidy input came)
  | .closing start came => do
    World.endSpan (spanOf block came) start (World.failureOf (resultOf config block came))
    return .ended came
  | .ended came => return .ended came

/-- Rendering by a command. -/
def craft (command : List String) (config : Config) : Craft Station where
  first := .waiting
  step := Station.next command config
  result? block
    | .ended came => some (resultOf config block came)
    | _ => none

end LocalRender

/-- Where the client goes on to from a page, if it does. -/
def HttpClient.redirect? (client : HttpClient) (url : String) (status : Nat) (location : Option String) :
    Option String :=
  if client.followRedirects && isRedirect status then location.map (resolveLocation url) else none

namespace RemoteRender

inductive Station where
  | waiting
  /-- An address is to be asked, and `left` requests may be sent. -/
  | asking (start : Float) (url : String) (left : Nat)
  /-- The image has come. -/
  | storing (start : Float) (status : Nat) (body : ByteArray)
  | closing (start : Float) (span : Span) (result : Except Failure Unit)
  | ended (result : Except Failure String)

/-- The span of the work on a block. -/
def spanOf (server : String) (block : Block) : Span :=
  ⟨"plantmark.render.block", [("strategy", .text Strategy.remoteFetch.name), ("title", .text block.title),
    ("format", .text block.extension), ("url", .text (blockUrl server block))]⟩

/-- The span when the server has answered. -/
def spanWith (server : String) (block : Block) (status : Nat) : Span :=
  (spanOf server block).add none [("status", .int status)]

/-- Where the work fails before there is a file. -/
def failing (start : Float) (span : Span) (block : Block) (cause : RenderCause) : Station :=
  .closing start span (.error (.rendering ⟨some block.title, cause⟩))

/-- Where the work goes on with an answer from an address. -/
def answered (client : HttpClient) (server : String) (block : Block) (start : Float) (url : String) (left : Nat) :
    Response → Station
  | .failed cause => failing start (spanOf server block) block (.requestFailed server cause)
  | .answer status location body =>
    match client.redirect? url status location with
    | some next => .asking start next left
    | none =>
      if isSuccess status then .storing start status body
      else failing start (spanWith server block status) block (.badStatus status)

/-- Writes an image to the output directory. -/
def store (server : String) (config : Config) (block : Block) (start : Float) (status : Nat) (body : ByteArray) :
    Action Station := do
  let span := spanWith server block status
  let target := config.outputDir.join (FilePath.ofText block.outputName)
  match ← World.writeFile target body with
  | .error .nullCharacter => return .closing start span (.error (.breakdown (.disk .nullCharacter)))
  | .error fault => return failing start span block (.notWritten target fault.text)
  | .ok _ => return .closing start (span.add none [("size", .int body.size), ("path", .text target.text)]) (.ok ())

def Station.next (client : HttpClient) (server : String) (config : Config) (block : Block) :
    Station → Action Station
  | .waiting => do return .asking (← World.readClock) (blockUrl server block) (redirectLimit + 1)
  | .asking start _ 0 =>
    return failing start (spanOf server block) block (.requestFailed server "Exceeded maximum allowed redirects.")
  | .asking start url (left + 1) => do
    return answered client server block start url left (← World.send ⟨url, config.timeout⟩)
  | .storing start status body => store server config block start status body
  | .closing start span result => do
    let result := result.map fun _ => fileLocator config.baseRef block.outputName
    World.endSpan span start (World.failureOf result)
    return .ended result
  | .ended result => return .ended result

/-- Rendering by a fetch. -/
def craft (client : HttpClient) (server : String) (config : Config) : Craft Station where
  first := .waiting
  step := Station.next client server config
  result? _
    | .ended result => some result
    | _ => none

end RemoteRender

end DiagramWeave
