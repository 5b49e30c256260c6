/-
The sending side of a stream.

A device sends the probe byte where the transport carries it, then its
announcement, then frames. Each of these goes out in one piece and is flushed.
-/
import Screencast.Announcement
import Screencast.Frame

namespace Screencast

/-- A part of a stream that is sent in one piece. -/
inductive Broadcast.Part
  | probe
  | announcement (announcement : Announcement)
  | frame (frame : Frame)
  deriving DecidableEq, Repr

namespace Broadcast

/-- The byte that a device sends first where the transport carries one. -/
def probeByte : UInt8 := 0

/-- A part as it is sent. -/
def Part.encode : Part → List UInt8
  | .probe => [probeByte]
  | .announcement told => told.encode
  | .frame sent => sent.encode

/-- A whole stream as it is sent, with or without the probe byte. -/
def stream (probe : Bool) (announcement : Announcement) (frames : List Frame) : List UInt8 :=
  (if probe then [probeByte] else []) ++ announcement.encode ++ frames.flatMap Frame.encode

end Broadcast

end Screencast
