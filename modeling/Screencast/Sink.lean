/-
Sinks: what a session delivers its stream to.

A sink is told of the announcement once, then of every frame, then either of
the end of the stream or of the failure that ended the session. It may refuse
all but the last. Besides changing itself it may report notices, cancel the
session that feeds it, and testify to what it was told; these effects are
listed in the order in which they happen.

Two sinks make one. An announcement or a frame is refused by the pair as soon
as one half refuses it, and the right half is then not told of it. The end
and a failure always reach both halves, and of two refusals of the end the
left one counts.
-/
import Screencast.Notice

namespace Screencast

/-- Something that a sink is told. -/
inductive Sink.Event
  | announced (announcement : Announcement)
  | frame (frame : Frame)
  | ended
  | failed (failure : Failure)
  deriving DecidableEq, Repr

/-- What a sink does besides changing itself. -/
inductive Sink.Effect
  /-- Reports something. -/
  | note (notice : Notice)
  /-- Cancels the session. -/
  | cancel
  /-- Testifies, under a name, to what it was told. -/
  | testify (name : String) (event : Sink.Event)
  deriving DecidableEq, Repr

/-- How a sink answers an event: as what it goes on, whether it took the event, and what it did. -/
structure Sink.Reply (σ : Type) where
  sink : σ
  result : Except Sink.Error Unit := .ok ()
  effects : List Sink.Effect := []

/-- A type of sinks. -/
class Sink (σ : Type) where
  onAnnouncement : σ → Announcement → Sink.Reply σ
  onFrame : σ → Frame → Sink.Reply σ
  onEnd : σ → Sink.Reply σ
  /-- A failure cannot be refused. -/
  onFailure : σ → Failure → σ × List Sink.Effect

namespace Sink

/-- The answer of a pair whose right half, `right`, is only told what the left half took. -/
def Reply.andThen {σ τ : Type} (first : Reply σ) (right : τ) (second : Reply τ) :
    Reply (σ × τ) :=
  match first.result with
  | .error e => { sink := (first.sink, right), result := .error e, effects := first.effects }
  | .ok () =>
    { sink := (first.sink, second.sink), result := second.result,
      effects := first.effects ++ second.effects }

/-- The answer of a pair of which both halves are told; the left one's refusal counts first. -/
def Reply.both {σ τ : Type} (first : Reply σ) (second : Reply τ) : Reply (σ × τ) where
  sink := (first.sink, second.sink)
  result := match first.result with
    | .error e => .error e
    | .ok () => second.result
  effects := first.effects ++ second.effects

instance {σ τ : Type} [Sink σ] [Sink τ] : Sink (σ × τ) where
  onAnnouncement pair announcement :=
    (onAnnouncement pair.1 announcement).andThen pair.2 (onAnnouncement pair.2 announcement)
  onFrame pair frame := (onFrame pair.1 frame).andThen pair.2 (onFrame pair.2 frame)
  onEnd pair := (onEnd pair.1).both (onEnd pair.2)
  onFailure pair failure :=
    let (left, first) := onFailure pair.1 failure
    let (right, second) := onFailure pair.2 failure
    ((left, right), first ++ second)

end Sink

end Screencast
