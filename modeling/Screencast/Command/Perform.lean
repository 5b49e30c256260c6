/-
Performing commands.

A command that names an endpoint opens a session there, does its work and lets
go of the session. Nothing is opened for a command that was given a wrong time
limit.
-/
import Screencast.Command
import Screencast.Command.Listing
import Screencast.Command.Recording
import Screencast.Session.Connect
import Screencast.Version

namespace Screencast

namespace Command

/-- What a command reads from, if it reads anything. -/
def target? : Command → Option Target
  | .probe target | .dump target _ | .record target _ | .transcode target _ _ => some target
  | .version _ => none

/-- The command may have enough before the stream ends well. -/
def endsEarly (surroundings : Surroundings) : Command → Bool
  | .probe _ | .dump _ (some _) | .transcode _ _ _ => true
  | .record _ _ => !surroundings.file.isOk
  | .dump _ none | .version _ => false

/-- Opens a session over what a command reads from. -/
def Target.connect (target : Target) (surroundings : Surroundings) : Except Complaint Session := do
  let setup ← target.setup
  let session ← (Session.connect target.endpoint surroundings.channel setup.handshake
    setup.limit).mapError (Complaint.ofFailure "connect failed")
  return if surroundings.interruption = some .atOnce then session.cancel else session

/-- Shows what the device announces, and lets go of the session. -/
def showOpening (format : Report.Format) (endpoint : Endpoint) (surroundings : Surroundings)
    (session : Session) : Outcome :=
  .afterHandshake session surroundings fun announcement session =>
    let report : Report.Opening := ⟨endpoint.text, announcement, session.probe⟩
    { printed := Report.bytes (report.print format)
      result := .ok .success
      session := session.close.note .probeCommandDone }

/-- What performing a command comes to. -/
structure Performance where
  /-- What is printed. -/
  printed : List UInt8 := []
  /-- How the program ends. -/
  result : Except Complaint Exit
  /-- What is reported meanwhile. -/
  notices : List Notice := []
  /-- What is made, if it was begun. -/
  product : Option Product := none

/-- Works over a session that is opened before and let go of afterwards. -/
def Target.use (target : Target) (surroundings : Surroundings) (work : Session → Outcome) :
    Performance :=
  match target.connect surroundings with
  | .error complaint => { result := .error complaint }
  | .ok session =>
    let outcome := work session
    { printed := outcome.printed
      result := outcome.result
      notices := outcome.session.close.feed.history.notices
      product := outcome.product }

/-- Performs a command. -/
def perform (format : Report.Format) (build : Build) (surroundings : Surroundings) :
    Command → Performance
  | .probe target => target.use surroundings (showOpening format target.endpoint surroundings)
  | .dump target count => target.use surroundings (Listing.run format count surroundings)
  | .record target output =>
    target.use surroundings (Recording.run format output surroundings)
  | .transcode target output program =>
    target.use surroundings (Recording.runRemuxed format output program surroundings)
  | .version extended =>
    { printed := Report.bytes (Report.printed (build.lines extended)), result := .ok .success }

end Command

/-- Does what the program is called to do. -/
def Invocation.perform (invocation : Invocation) (build : Build)
    (surroundings : Command.Surroundings) : Command.Performance :=
  let format := invocation.format.getD (.usual surroundings.terminal)
  invocation.command.perform format build surroundings

/-- What a device has yet to send changes nothing for a command that may end early: a request to
cancel that came behind what it has sent so far would not be met. -/
def Invocation.hasEnough (invocation : Invocation) (surroundings : Command.Surroundings)
    (feed : Feed) : Bool :=
  let tried := { feed with script := feed.script ++ [.cancel] }
  let performance := invocation.perform {} { surroundings with channel := .ok tried }
  invocation.command.endsEarly surroundings && !performance.notices.contains .cancelRequested

/-- The code with which the program ends. -/
def Command.Performance.code (performance : Command.Performance) : Nat :=
  match performance.result with
  | .ok exit => exit.code
  | .error complaint => complaint.exit.code

end Screencast
