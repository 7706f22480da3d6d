import DiagramWeave.Decimal.Read
import DiagramWeave.Json.Write

/-!
# Spans

A span is a piece of work that leaves one record in the log when it ends: its name, how long it took in
milliseconds, its attributes, and the error it ended with if it failed. Failed spans are warnings. A name
that was set before keeps its place and takes the new value. An interruption ends a span as well, but it is
no error. Where the record cannot be written there is none, and the span fails by that.
-/
namespace DiagramWeave

/-- How much a record matters. -/
inductive Level where
  | debug
  | warning
  deriving DecidableEq, Repr

/-- The name of a level. -/
def Level.name : Level → String
  | debug => "DEBUG"
  | warning => "WARNING"

structure LogRecord where
  level : Level
  message : String
  deriving DecidableEq, Repr

/-- What a piece of work raises. -/
structure Raised where
  kind : String
  message : String
  /-- Interruptions and calls to exit are raised as errors are, but they are none. -/
  isError : Bool
  deriving DecidableEq, Repr

namespace Raised

/-- How what was raised is told in a record, if it is. -/
def told? (raised : Raised) : Option String :=
  if raised.isError then some (raised.kind ++ ": " ++ raised.message) else none

/-- What is raised where an integer has too many digits to be written. -/
def tooManyDigits : Raised :=
  ⟨"ValueError", s!"Exceeds the limit ({Json.digitLimit} digits) for integer string conversion", true⟩

end Raised

/-- A span under way. -/
structure Span where
  name : String
  attributes : Entries

namespace Span

/-- Sets a single attribute if one is named, then further ones. -/
def add (span : Span) (single : Option (String × Value)) (more : Entries) : Span :=
  let attributes := match single with
    | some (name, value) => span.attributes.set name value
    | none => span.attributes
  { span with attributes := attributes.update more }

/-- Milliseconds between two clock readings in seconds, to two places. -/
def elapsed (start stop : Float) : Float :=
  Decimal.roundToHundredths ((stop - start) * 1000.0)

/-- The entries of the record of a span. -/
def entries (span : Span) (start stop : Float) (error : Option String) : Entries :=
  let head : Entries := [("span", .text span.name), ("elapsed_ms", .float (elapsed start stop))]
  let all := head.update span.attributes
  match error with
  | some text => all.set "error" (.text text)
  | none => all

/-- The entries of the record as an object. -/
def object (span : Span) (start stop : Float) (error : Option String) : Value :=
  .mapping ((span.entries start stop error).map fun entry => (.text entry.1, entry.2))

/-- The record of a span that has ended. -/
def record (span : Span) (start stop : Float) (error : Option String) : LogRecord :=
  ⟨if error.isSome then .warning else .debug, Json.render (span.object start stop error)⟩

/-- What a span leaves in the log when its work is over, and what its caller gets of what was raised in it. -/
def leave (span : Span) (start stop : Float) (raised : Option Raised) : Option LogRecord × Option Raised :=
  let error := raised.bind Raised.told?
  if Json.isWritable (span.object start stop error) then (some (span.record start stop error), raised)
  else (none, some .tooManyDigits)

end Span

end DiagramWeave
