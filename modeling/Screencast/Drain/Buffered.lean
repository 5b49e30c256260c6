/-
Drains behind a buffer.

Bytes are held back in the buffer until it would overflow, and are then written
on together. What would fill the buffer by itself is not held back at all. A
buffer that holds nothing leaves the drain as it is.
-/
import Screencast.Drain

namespace Screencast

/-- A drain, and the buffer in front of it. -/
structure Drain.Buffered where
  drain : Drain
  /-- How many bytes the buffer can hold. -/
  capacity : Nat := 0
  /-- The bytes that are held back. -/
  held : List UInt8 := []
  deriving DecidableEq, Repr

namespace Drain.Buffered

/-- What is reported when the drain takes nothing of what was held back. -/
def stalled : Fault := ⟨.writeZero, "failed to write the buffered data"⟩

/-- Writes on what is held back. What the drain does not take of it stays in the buffer. -/
def pass (buffered : Buffered) : Except Fault Unit × Buffered :=
  let (result, drain) := buffered.drain.writeAll stalled buffered.held
  let taken := drain.taken.length - buffered.drain.taken.length
  (result, { buffered with drain, held := buffered.held.drop taken })

/-- Writes bytes on if they would fill the buffer by themselves, and holds them back if not. -/
def put (buffered : Buffered) (bytes : List UInt8) : Except Fault Unit × Buffered :=
  if buffered.capacity ≤ bytes.length then
    let (result, drain) := buffered.drain.writeAll Drain.stalledFile bytes
    (result, { buffered with drain })
  else (.ok (), { buffered with held := buffered.held ++ bytes })

/-- Writes bytes, after what was held back if there is no room beside it. -/
def writeAll (buffered : Buffered) (bytes : List UInt8) : Except Fault Unit × Buffered :=
  if buffered.capacity < buffered.held.length + bytes.length then
    match buffered.pass with
    | (.ok (), buffered) => buffered.put bytes
    | failed => failed
  else buffered.put bytes

/-- Writes on what is held back, and flushes. -/
def flush (buffered : Buffered) : Except Fault Unit × Buffered :=
  match buffered.pass with
  | (.ok (), buffered) =>
    let (result, drain) := buffered.drain.flush
    (result, { buffered with drain })
  | failed => failed

end Drain.Buffered

end Screencast
