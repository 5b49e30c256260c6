/-
What can go wrong between bytes and frames.

A byte string is refused because too little of it came (`truncated`), because
it is shorter than the structure it should hold (`malformedHeader`), because
it announces more than is accepted (`payloadTooLarge`), or because the channel
under it failed (`io`).
-/
import Screencast.Fault

namespace Screencast

/-- Why a structure could not be read from or written to a channel. -/
inductive WireError
  /-- The channel ended when `received` of `expected` bytes had come. -/
  | truncated (expected received : Nat)
  /-- A structure of `expected` bytes was looked for in only `actual` bytes. -/
  | malformedHeader (expected actual : Nat)
  /-- A payload of `size` bytes was announced where at most `max` are accepted. -/
  | payloadTooLarge (size max : Nat)
  /-- The channel failed. -/
  | io (fault : Fault)
  deriving DecidableEq, Repr

namespace WireError

/-- The text shown for an error. -/
def message : WireError → String
  | truncated expected received => s!"stream truncated ({received} of {expected} bytes received)"
  | malformedHeader expected actual => s!"malformed header (need {expected} bytes, got {actual})"
  | payloadTooLarge size max => s!"payload too large ({size} bytes, max {max})"
  | io fault => s!"frame I/O error: {fault.text}"

/-- The channel ended before a single wanted byte came. -/
def isCleanEnd : WireError → Bool
  | truncated _ received => received == 0
  | _ => false

end WireError

/-- The first `width` bytes of a byte string that is long enough to hold a field of that width. -/
def Bytes.field (width : Nat) (bytes : List UInt8) : Except WireError (List UInt8) :=
  if bytes.length < width then
    .error (.malformedHeader width bytes.length)
  else
    .ok (bytes.take width)

theorem Bytes.field_of_le {width : Nat} {bytes : List UInt8} (h : width ≤ bytes.length) :
    Bytes.field width bytes = .ok (bytes.take width) := by
  rw [field, if_neg (Nat.not_lt.mpr h)]

end Screencast
