/-
A sink of any kind.

Sinks that are chosen while the program runs have one type, so that a tree can
be made of them. Each answers as the sink that it is.
-/
import Screencast.Sink.Child
import Screencast.Sink.Recording
import Screencast.Sink.Tally
import Screencast.Sink.Witness

namespace Screencast.Sink

/-- A sink of any kind. -/
inductive Any
  | witness (sink : Witness)
  | counter (sink : Counter)
  | collection (sink : Collection)
  | tally (sink : Tally)
  | recording (sink : Recording)
  | child (sink : Child)
  deriving DecidableEq, Repr

/-- The answer of a sink that goes on as another one. -/
def Reply.map {σ τ : Type} (f : σ → τ) (reply : Reply σ) : Reply τ :=
  { sink := f reply.sink, result := reply.result, effects := reply.effects }

namespace Any

instance : Sink Any where
  onAnnouncement
    | .witness sink, told => (Sink.onAnnouncement sink told).map .witness
    | .counter sink, told => (Sink.onAnnouncement sink told).map .counter
    | .collection sink, told => (Sink.onAnnouncement sink told).map .collection
    | .tally sink, told => (Sink.onAnnouncement sink told).map .tally
    | .recording sink, told => (Sink.onAnnouncement sink told).map .recording
    | .child sink, told => (Sink.onAnnouncement sink told).map .child
  onFrame
    | .witness sink, frame => (Sink.onFrame sink frame).map .witness
    | .counter sink, frame => (Sink.onFrame sink frame).map .counter
    | .collection sink, frame => (Sink.onFrame sink frame).map .collection
    | .tally sink, frame => (Sink.onFrame sink frame).map .tally
    | .recording sink, frame => (Sink.onFrame sink frame).map .recording
    | .child sink, frame => (Sink.onFrame sink frame).map .child
  onEnd
    | .witness sink => (Sink.onEnd sink).map .witness
    | .counter sink => (Sink.onEnd sink).map .counter
    | .collection sink => (Sink.onEnd sink).map .collection
    | .tally sink => (Sink.onEnd sink).map .tally
    | .recording sink => (Sink.onEnd sink).map .recording
    | .child sink => (Sink.onEnd sink).map .child
  onFailure
    | .witness sink, failure => (Sink.onFailure sink failure).map .witness id
    | .counter sink, failure => (Sink.onFailure sink failure).map .counter id
    | .collection sink, failure => (Sink.onFailure sink failure).map .collection id
    | .tally sink, failure => (Sink.onFailure sink failure).map .tally id
    | .recording sink, failure => (Sink.onFailure sink failure).map .recording id
    | .child sink, failure => (Sink.onFailure sink failure).map .child id

/-- What a sink has written into a file, if it writes there. -/
def wrote? (place : List String) : Any → Option (List UInt8)
  | .recording sink => sink.wrote? place
  | .child sink => sink.wrote? place
  | _ => none

/-- What a file holds that several sinks write, if any of them does. Each writes from the beginning
of the file, so what a later one writes covers what an earlier one wrote there. -/
def contents? (place : List String) (sinks : List Any) : Option (List UInt8) :=
  sinks.foldl (fun sofar sink =>
    match sink.wrote? place with
    | none => sofar
    | some bytes => some (bytes ++ (sofar.getD []).drop bytes.length)) none

/-- What letting go of a sink does. -/
def drop : Any → List Effect
  | .child sink => sink.drop
  | _ => []

end Any

end Screencast.Sink
