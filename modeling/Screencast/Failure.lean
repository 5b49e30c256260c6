/-
Why a session ended badly.

Every failure is final. A stream that ends too early is told apart by where it
ends: inside the handshake, which names its step, or inside a frame.
-/
import Screencast.LinkError
import Screencast.Sink.Error
import Screencast.WireError

namespace Screencast

/-- The handshake reads that can fail, in the order in which they are made. -/
inductive Handshake.Step
  | deviceName
  | codecMeta
  deriving DecidableEq, Repr

/-- A step as it is shown. -/
def Handshake.Step.text : Handshake.Step → String
  | deviceName => "device-name"
  | codecMeta => "codec-meta"

/-- Why a session ended badly. -/
inductive Failure
  /-- The stream ended inside a frame. -/
  | truncated (expected received : Nat)
  /-- The stream ended inside the handshake. -/
  | handshake (step : Handshake.Step) (expected received : Nat)
  /-- A structure was looked for in too few bytes. -/
  | malformedHeader (expected actual : Nat)
  /-- The session was cancelled or is over. -/
  | closed
  /-- A frame declares a larger payload than is accepted. -/
  | payloadTooLarge (size max : Nat)
  /-- The channel could not be opened. -/
  | link (error : LinkError)
  /-- The channel failed. -/
  | io (fault : Fault)
  /-- The sink refused an event. -/
  | sink (error : Sink.Error)
  deriving DecidableEq, Repr

namespace Failure

/-- The text shown for a failure. -/
def message : Failure → String
  | truncated expected received => s!"stream truncated ({received} of {expected} bytes received)"
  | handshake step expected received =>
    s!"handshake failed at {step.text} ({received} of {expected} bytes received)"
  | malformedHeader expected actual => s!"malformed header (need {expected} bytes, got {actual})"
  | closed => "source closed"
  | payloadTooLarge size max => s!"payload too large ({size} bytes, max {max})"
  | link error => s!"transport error: {error.message}"
  | io fault => s!"stream I/O error: {fault.text}"
  | sink error => s!"sink error: {error.message}"

/-- The failure of a session over a stream with the given error. -/
def ofWire : WireError → Failure
  | .truncated expected received => truncated expected received
  | .malformedHeader expected actual => malformedHeader expected actual
  | .payloadTooLarge size max => payloadTooLarge size max
  | .io fault => io fault

/-- The failure of a handshake step whose read has the given error. -/
def ofHandshake (step : Handshake.Step) : WireError → Failure
  | .truncated expected received => handshake step expected received
  | error => ofWire error

end Failure

end Screencast
