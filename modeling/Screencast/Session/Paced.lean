/-
Sessions over a feed that is read as time passes.

Such a session exists only once its handshake has been made. It reads ahead:
what comes is buffered, and frames are taken off the buffer. How far a read goes
ahead is up to whoever reads, and may differ from one read to the next. The
first error or the end finishes the session.
-/
import Screencast.Frame.Reassembly
import Screencast.Handshake.Paced

namespace Screencast

/-- The most bytes that each of the reads to come reads ahead. -/
def Session.ReadAhead : Type := Nat → { n : Nat // 0 < n }

namespace Session.ReadAhead

/-- The most bytes that the next read reads ahead. -/
def first (ahead : ReadAhead) : Nat := ahead 0

/-- What is left after the next read. -/
def later (ahead : ReadAhead) : ReadAhead := fun reads => ahead (reads + 1)

/-- Every read reads ahead as far as a buffer of the usual size allows. -/
def usual : ReadAhead := fun _ => ⟨8192, by decide⟩

theorem first_pos (ahead : ReadAhead) : 0 < ahead.first := (ahead 0).property

end Session.ReadAhead

/-- A session over a feed that is read as time passes. -/
structure Session.Paced where
  channel : Feed.Paced
  /-- What the handshake learned. -/
  opening : Handshake.Outcome
  buffer : Reassembly
  /-- The end or an error has been met. -/
  finished : Bool := false
  ahead : Session.ReadAhead

namespace Session.Paced

/-- Makes the handshake and, if it succeeds, opens the session. -/
def start (channel : Feed.Paced) (settings : Handshake.Settings) (limit : Nat)
    (ahead : ReadAhead := .usual) : Except Failure Session.Paced × Feed.Paced :=
  match Handshake.performPaced settings channel with
  | (.error failure, channel) => (.error failure, channel)
  | (.ok opening, channel) => (.ok { channel, opening, buffer := { limit }, ahead }, channel)

/-- Finishes with an error. -/
def fail (session : Session.Paced) (error : WireError) :
    Except Failure (Option Frame) × Session.Paced :=
  (.error (.ofWire error), { session with finished := true })

/-- Takes the last frame off the buffer after the end of the stream. -/
def drain (session : Session.Paced) : Except Failure (Option Frame) × Session.Paced :=
  match session.buffer.last with
  | (.ok (some frame), buffer) => (.ok (some frame), { session with buffer })
  | (.ok none, buffer) =>
    (.ok none,
      { session with buffer, finished := true, channel := session.channel.note .pacedStreamEnded })
  | (.error e, buffer) => { session with buffer }.fail e

/-- Takes a frame off the buffer, reading ahead for as long as none is complete. -/
def pull (session : Session.Paced) : Except Failure (Option Frame) × Session.Paced :=
  match session.buffer.next with
  | (.ok (some frame), buffer) => (.ok (some frame), { session with buffer })
  | (.error e, buffer) => { session with buffer }.fail e
  | (.ok none, buffer) =>
    match _hread : session.channel.read session.ahead.first with
    | (.nothing, channel) => { session with buffer, channel }.drain
    | (.bytes bytes, channel) =>
      pull { session with channel, buffer := buffer.push bytes, ahead := session.ahead.later }
    | (.fault fault, channel) => { session with buffer, channel }.fail (.io fault)
termination_by session.channel.weight
decreasing_by
  have hlt := @Feed.Paced.weight_read_lt session.channel session.ahead.first
    session.ahead.first_pos
    (by rw [_hread]; simp)
  rwa [_hread] at hlt

/-- The next frame, or `none` at the clean end and after any end. -/
def next (session : Session.Paced) : Except Failure (Option Frame) × Session.Paced :=
  if session.finished then (.ok none, session) else session.pull

end Session.Paced

end Screencast
