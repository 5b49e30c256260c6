/-
Frames reassembled from a buffer that fills up piece by piece.

`next` takes one frame off the front of the buffer, or waits for more;
`last` is for when no more will come. Both leave the buffer alone unless they
take a frame off it, except that a frame that can no longer be completed is
given up together with everything buffered.
-/
import Screencast.Frame

namespace Screencast.Frame

/-- Takes one frame off the front of a buffer: the frame and what follows it, or `none` as long
as it is incomplete. A payload above `limit` is refused as soon as the header is there. -/
def split? (limit : Nat) (buffer : List UInt8) : Except WireError (Option (Frame × List UInt8)) :=
  if buffer.length < Header.wireSize then
    .ok none
  else do
    let header ← Header.decode buffer
    let size := header.size.toNat
    if limit < size then
      .error (.payloadTooLarge size limit)
    else if buffer.length < Header.wireSize + size then
      .ok none
    else
      let rest := buffer.drop Header.wireSize
      .ok (some (⟨header, rest.take size⟩, rest.drop size))

end Screencast.Frame

namespace Screencast

/-- Bytes of a stream of frames that have come and have not been taken off yet. -/
structure Reassembly where
  /-- The largest payload that is accepted. -/
  limit : Nat
  buffer : List UInt8 := []
  deriving DecidableEq, Repr

namespace Reassembly

/-- Adds bytes at the end. -/
def push (r : Reassembly) (bytes : List UInt8) : Reassembly :=
  { r with buffer := r.buffer ++ bytes }

/-- Adds a frame at the end. -/
def pushFrame (r : Reassembly) (frame : Frame) : Reassembly := r.push frame.encode

/-- Takes off the next frame, if all of it has come. -/
def next (r : Reassembly) : Except WireError (Option Frame) × Reassembly :=
  match Frame.split? r.limit r.buffer with
  | .ok (some (frame, rest)) => (.ok (some frame), { r with buffer := rest })
  | .ok none => (.ok none, r)
  | .error e => (.error e, r)

/-- How much of which structure is buffered when the stream ends inside it. -/
def shortfall (r : Reassembly) : WireError :=
  if r.buffer.length < Frame.Header.wireSize then
    .truncated Frame.Header.wireSize r.buffer.length
  else
    match Frame.Header.decode r.buffer with
    | .ok header => .truncated header.size.toNat (r.buffer.length - Frame.Header.wireSize)
    | .error e => e

/-- Takes off the next frame of a stream that has ended. An incomplete one is an error and empties
the buffer. -/
def last (r : Reassembly) : Except WireError (Option Frame) × Reassembly :=
  -- Whole frames may still be buffered, and an oversized one is refused as ever.
  match r.next with
  | (.ok none, r) =>
    if r.buffer.isEmpty then (.ok none, r) else (.error r.shortfall, { r with buffer := [] })
  | other => other

end Reassembly

end Screencast
