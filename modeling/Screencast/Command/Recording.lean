/-
Recording a session: bare into a file, or through a remuxer.

The recording ends with the stream, or earlier when the user interrupts it.
In both cases what was recorded is kept and summed up; after any other failure
there is no summary, only the complaint.
-/
import Screencast.Command.Outcome
import Screencast.Delivery
import Screencast.Remux
import Screencast.Sink.Impatient
import Screencast.Sink.Recording
import Screencast.Sink.Tally

namespace Screencast.Command.Recording

/-- How the program ends after a delivery. A failure of a session that was cancelled is the
interruption that the user asked for. -/
def ending (session : Session) : Except Failure Delivery.Summary → Except Complaint Exit
  | .ok _ => .ok .success
  | .error failure =>
    if session.isCancelled then .ok .interrupted
    else .error (Complaint.ofFailure "recording failed" failure)

/-- What is reported of a recording: the frames that were taken, as they were counted. -/
def summary (output : String) (elapsed : Span) (session : Session) (tally : Sink.Tally)
    (exit : Exit) : Report.Summary where
  device := (session.announcement.map (·.device)).getD ""
  output
  frames := tally.frames
  bytes := tally.bytes
  keyframes := tally.keyframes
  elapsedMillis := elapsed.millis
  rate := tally.rate elapsed
  interrupted := exit = .interrupted

/-- Records a session into a sink, and counts what the sink takes. -/
def stream {σ : Type} [Sink σ] (format : Report.Format) (output : String) (elapsed : Span)
    (session : Session) (sink : σ) : Outcome × σ :=
  let (delivered, session, sink, tally) := Delivery.run session (sink, ({} : Sink.Tally))
  match ending session delivered with
  | .error complaint => ({ result := .error complaint, session }, sink)
  | .ok exit =>
    let report := summary output elapsed session tally exit
    let printed := Report.bytes (report.print format)
    ({ printed, summary := some report, result := .ok exit, session }, sink)

/-- Records the bare stream into a file. -/
def run (format : Report.Format) (output : String) (surroundings : Surroundings)
    (session : Session) : Outcome :=
  match surroundings.file with
  | .error fault => .failed session "cannot create output file" (.sink (.io fault))
  | .ok file =>
    let (recording, effects) := Sink.Recording.create output file
    let session := (session.undergoAll effects).note (.recordingStarted output)
    let patience := surroundings.patience
    let sink : Sink.Impatient Sink.Recording := { sink := recording, patience }
    let (outcome, sink) := stream format output surroundings.elapsed session sink
    { outcome with product := some (.file sink.sink.kept) }

/-- Starts the remuxer for a codec. -/
def startRemuxer (codec : Codec) (output program : String) (surroundings : Surroundings) :
    Except Sink.Error (Sink.Child × List Sink.Effect) := do
  let arguments ← Remux.arguments codec output
  let conduct ← (surroundings.start (program :: arguments)).mapError .io
  return Sink.Child.spawn program conduct

/-- Records through a remuxer. -/
def runRemuxed (format : Report.Format) (output program : String) (surroundings : Surroundings)
    (session : Session) : Outcome :=
  .afterHandshake session surroundings fun announcement session =>
    match startRemuxer announcement.picture.codec output program surroundings with
    | .error error => .failed session s!"cannot start {program}" (.sink error)
    | .ok (child, effects) =>
      let session := (session.undergoAll effects).note (.transcodingStarted output)
      let patience := surroundings.patience
      let sink : Sink.Impatient Sink.Child := { sink := child, patience }
      let (outcome, sink) := stream format output surroundings.elapsed session sink
      { outcome with product := some (.child sink.sink) }

end Screencast.Command.Recording
