/-
Sinks whose calls are logged.

A logged sink answers as the sink that it is made of, and keeps every event
that it is told and whether the event was refused. Delivery into it is delivery
into the sink without the log (`run_bare`), so what is known of the log of a
delivery is known of the calls that any sink receives.
-/
import Screencast.Proofs.Sink.AnswersAs

namespace Screencast

namespace Sink

/-! ## The log -/

/-- Something that a sink was told, and why it refused it, if it did. -/
structure Call where
  event : Event
  refusal : Option Sink.Error := none
  deriving DecidableEq, Repr

/-- What was told and answered. -/
def Call.of (event : Event) : Except Sink.Error Unit → Call
  | .ok () => { event }
  | .error e => { event, refusal := some e }

/-- A sink with the calls that it received. -/
structure Logged (σ : Type) where
  sink : σ
  calls : List Call := []

/-- A reply, with the call that it answers in the log. -/
def Reply.logged {σ : Type} (reply : Reply σ) (calls : List Call) (event : Event) :
    Reply (Logged σ) where
  sink := { sink := reply.sink, calls := calls ++ [.of event reply.result] }
  result := reply.result
  effects := reply.effects

instance {σ : Type} [Sink σ] : Sink (Logged σ) where
  onAnnouncement logged told :=
    (onAnnouncement logged.sink told).logged logged.calls (.announced told)
  onFrame logged frame := (onFrame logged.sink frame).logged logged.calls (.frame frame)
  onEnd logged := (onEnd logged.sink).logged logged.calls .ended
  onFailure logged failure :=
    let (sink, effects) := onFailure logged.sink failure
    ({ sink, calls := logged.calls ++ [{ event := .failed failure }] }, effects)

section

variable {σ : Type} [Sink σ] (logged : Logged σ)

theorem calls_onAnnouncement (told : Announcement) :
    (onAnnouncement logged told).sink.calls =
      logged.calls ++ [.of (.announced told) (onAnnouncement logged told).result] := rfl

theorem calls_onFrame (frame : Frame) :
    (onFrame logged frame).sink.calls =
      logged.calls ++ [.of (.frame frame) (onFrame logged frame).result] := rfl

theorem calls_onEnd :
    (onEnd logged).sink.calls = logged.calls ++ [.of .ended (onEnd logged).result] := rfl

end

/-- A logged sink answers as the sink that it is made of. -/
theorem AnswersAs.logged (σ : Type) [Sink σ] : AnswersAs (Logged.sink : Logged σ → σ) :=
  ⟨fun _ _ => rfl, fun _ _ => rfl, fun _ => rfl, fun _ _ => rfl⟩

end Sink

/-! ## Delivery without the log -/

namespace Delivery

open Sink

variable {σ : Type} [Sink σ]

/-- What a delivery comes to once the log is left out. -/
def bare (run : Except Failure Summary × Session × Logged σ) :
    Except Failure Summary × Session × σ :=
  (run.1, run.2.1, run.2.2.sink)

/-- **Delivery into a logged sink is delivery into the sink.** -/
theorem run_bare (session : Session) (logged : Logged σ) :
    bare (run session logged) = run session logged.sink :=
  (run_map (AnswersAs.logged σ) session logged).symm

end Delivery

end Screencast
