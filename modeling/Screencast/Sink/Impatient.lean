/-
Sinks that cancel the session which feeds them.

An impatient sink waits for a number of frames. When the last of them comes it
first cancels the session and then takes the frame as usual, so that nothing
after that frame is delivered. One that waits for none cancels the session at
the announcement.
-/
import Screencast.Sink

namespace Screencast.Sink

/-- A sink, and how many more frames it waits for if it does not wait for all of them. -/
structure Impatient (σ : Type) where
  sink : σ
  patience : Option Nat := none

namespace Impatient

/-- What a sink does before anything else if its patience has come to its end. -/
def cancels (impatient : Bool) : List Effect := if impatient then [.cancel] else []

instance {σ : Type} [Sink σ] : Sink (Impatient σ) where
  onAnnouncement impatient announcement :=
    let reply := Sink.onAnnouncement impatient.sink announcement
    { sink := { impatient with sink := reply.sink }
      result := reply.result
      effects := cancels (impatient.patience = some 0) ++ reply.effects }
  onFrame impatient frame :=
    let reply := Sink.onFrame impatient.sink frame
    { sink := { sink := reply.sink, patience := impatient.patience.map (· - 1) }
      result := reply.result
      effects := cancels (impatient.patience = some 1) ++ reply.effects }
  onEnd impatient :=
    let reply := Sink.onEnd impatient.sink
    { sink := { impatient with sink := reply.sink }
      result := reply.result
      effects := reply.effects }
  onFailure impatient failure :=
    let (sink, effects) := Sink.onFailure impatient.sink failure
    ({ impatient with sink }, effects)

end Impatient

end Screencast.Sink
