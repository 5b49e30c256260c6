/-
Sinks that only testify, count or collect.

A witness testifies, under its name, to everything it is told. It can be set
up to refuse an event after it has testified to it, and to cancel the session
at a chosen frame, so that every course a session can take through its sinks
can be brought about. A counter and a collection never refuse anything.
-/
import Screencast.Sink

namespace Screencast.Sink

/-! ## Witnesses -/

/-- A sink that testifies to what it is told. -/
structure Witness where
  name : String
  /-- With what the announcement is refused. -/
  refuseAnnouncement : Option Error := none
  /-- Which frame is refused, counted from 0 over all frames, and with what. -/
  refuseFrame : Option (Nat × Error) := none
  /-- With what the end is refused. -/
  refuseEnd : Option Error := none
  /-- The frame at which the session is cancelled. -/
  cancelAt : Option Nat := none
  /-- The frames told of so far. -/
  seen : Nat := 0
  deriving DecidableEq, Repr

namespace Witness

/-- Takes an event, unless there is something to refuse it with. -/
def verdict : Option Error → Except Error Unit
  | some e => .error e
  | none => .ok ()

/-- The testimony to an event. -/
def testimony (witness : Witness) (event : Event) : Effect := .testify witness.name event

/-- With what the next frame is refused. -/
def frameRefusal (witness : Witness) : Option Error :=
  (witness.refuseFrame.filter (·.1 == witness.seen)).map (·.2)

instance : Sink Witness where
  onAnnouncement witness announcement := {
    sink := witness
    result := verdict witness.refuseAnnouncement
    effects := [witness.testimony (.announced announcement)] }
  onFrame witness frame := {
    sink := { witness with seen := witness.seen + 1 }
    result := verdict witness.frameRefusal
    effects := (if witness.cancelAt = some witness.seen then [.cancel] else []) ++
      [witness.testimony (.frame frame)] }
  onEnd witness := {
    sink := witness
    result := verdict witness.refuseEnd
    effects := [witness.testimony .ended] }
  onFailure witness failure := (witness, [witness.testimony (.failed failure)])

end Witness

/-! ## Counters and collections -/

/-- A sink that counts frames. -/
structure Counter where
  frames : Nat := 0
  deriving DecidableEq, Repr

instance : Sink Counter where
  onAnnouncement counter _ := { sink := counter }
  onFrame counter _ := { sink := ⟨counter.frames + 1⟩ }
  onEnd counter := { sink := counter }
  onFailure counter _ := (counter, [])

/-- A sink that keeps every frame. -/
structure Collection where
  /-- The frames, the latest first. -/
  latestFirst : List Frame := []
  deriving DecidableEq, Repr

namespace Collection

/-- The frames in order. -/
def frames (collection : Collection) : List Frame := collection.latestFirst.reverse

instance : Sink Collection where
  onAnnouncement collection _ := { sink := collection }
  onFrame collection frame := { sink := ⟨frame :: collection.latestFirst⟩ }
  onEnd collection := { sink := collection }
  onFailure collection _ := (collection, [])

end Collection

end Screencast.Sink
