/-
A running tally of the frames of a stream.
-/
import Screencast.Sink
import Screencast.Span

namespace Screencast.Sink

/-- A sink that counts frames by kind, and bytes, and reports now and then. -/
structure Tally where
  /-- A report is due after each so many frames; after 0 there is none. -/
  every : Nat := 30
  frames : Nat := 0
  /-- The bytes of all payloads. -/
  bytes : Nat := 0
  /-- The frames that configure the decoder. -/
  configs : Nat := 0
  keyframes : Nat := 0
  deriving DecidableEq, Repr

namespace Tally

/-- Counts a frame. -/
def count (tally : Tally) (frame : Frame) : Tally where
  every := tally.every
  frames := tally.frames + 1
  bytes := tally.bytes + frame.payload.length
  configs := tally.configs + frame.header.config.toNat
  keyframes := tally.keyframes + frame.header.keyframe.toNat

/-- The number of frames calls for a report. -/
def isDue (tally : Tally) : Bool := tally.every != 0 && tally.frames % tally.every == 0

/-- Frames per second over a span of time, to one decimal place; none come in no time. -/
def rate (tally : Tally) (elapsed : Span) : Float :=
  if elapsed.micros = 0 then 0
  else
    let seconds := elapsed.micros.toFloat / 1000000
    (tally.frames.toFloat / seconds * 10).round / 10

instance : Sink Tally where
  onAnnouncement tally _ := { sink := tally }
  onFrame tally frame :=
    let tally := tally.count frame
    { sink := tally
      effects := if tally.isDue then [.note (.progress tally.frames tally.bytes)] else [] }
  onEnd tally := { sink := tally, effects := [.note (.tallyDone tally.frames tally.bytes)] }
  onFailure tally _ := (tally, [])

end Tally

end Screencast.Sink
