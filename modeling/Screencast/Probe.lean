/-
What becomes of the probe byte.
-/

namespace Screencast

/-- What became of the probe byte. -/
inductive Probe
  /-- None was expected. -/
  | skipped
  /-- It came. -/
  | received (value : UInt8)
  /-- It did not come, or not in time. -/
  | notReceived
  deriving DecidableEq, Repr

end Screencast
