/-
Why a channel to a device could not be opened or used.
-/
import Screencast.Fault

namespace Screencast

/-- Why a channel to a device could not be opened or used. Endpoints appear by their text. -/
inductive LinkError
  /-- The text is no endpoint. -/
  | invalidEndpoint (input reason : String)
  /-- Nothing could be reached at the endpoint. -/
  | connect (endpoint : String) (fault : Fault)
  /-- Endpoints of this kind do not exist here. -/
  | unsupported (endpoint : String)
  /-- The open channel failed. -/
  | io (fault : Fault)
  deriving DecidableEq, Repr

/-- The text shown for an error. -/
def LinkError.message : LinkError → String
  | invalidEndpoint input reason => s!"invalid endpoint '{input}': {reason}"
  | connect endpoint fault => s!"failed to connect to {endpoint}: {fault.text}"
  | unsupported endpoint => s!"endpoint {endpoint} is not supported on this platform"
  | io fault => s!"transport I/O error: {fault.text}"

end Screencast
