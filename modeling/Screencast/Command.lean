/-
The commands of the program.

All but `version` name an endpoint and say how to reach and read it. Time
limits are kept as they were written; `Target.setup` reads them.
-/
import Screencast.Endpoint
import Screencast.Exit
import Screencast.Handshake
import Screencast.Notice.Line
import Screencast.Report
import Screencast.Span.Parse

namespace Screencast

/-- How a session is set up. -/
structure Setup where
  handshake : Handshake.Settings := {}
  /-- The largest payload that is accepted. -/
  limit : Nat
  /-- How long the endpoint is tried. -/
  connectLimit : Span
  deriving DecidableEq, Repr

/-- What a command reads from. -/
structure Command.Target where
  endpoint : Endpoint
  /-- The transport carries no probe byte. -/
  noProbeByte : Bool := false
  probeTimeout : String := "2s"
  connectTimeout : String := "5s"
  maxPayload : Option Nat := none
  deriving DecidableEq, Repr

/-- A command. -/
inductive Command
  /-- Shows what the device announces. -/
  | probe (target : Command.Target)
  /-- Shows frames as they arrive, as many as are asked for. -/
  | dump (target : Command.Target) (count : Option Nat)
  /-- Records the bare stream. -/
  | record (target : Command.Target) (output : String)
  /-- Feeds the stream to a remuxer. -/
  | transcode (target : Command.Target) (output program : String)
  /-- Shows the version. -/
  | version (extended : Bool)
  deriving DecidableEq, Repr

namespace Command

/-- The largest payload that a header can declare. -/
def largestPayload : Nat := Frame.payloadBound - 1

/-- A time limit, as it was written. -/
def timeLimit (text : String) : Except Complaint Span :=
  (Span.parse text).mapError fun e => ⟨.usage, e.message⟩

/-- How the session of a command is set up. -/
def Target.setup (target : Target) : Except Complaint Setup := do
  let probeLimit ← timeLimit target.probeTimeout
  let connectLimit ← timeLimit target.connectTimeout
  return {
    handshake := { expectProbe := !target.noProbeByte, probeLimit }
    limit := target.maxPayload.getD largestPayload
    connectLimit }

end Command

/-- What the program is called to do. -/
structure Invocation where
  command : Command
  /-- The form of the report, if one was asked for. -/
  format : Option Report.Format := none
  noticeForm : Notice.Form := .text
  /-- The notices to show: those that matter at least so much. -/
  noticeLevel : Notice.Level := .info
  deriving DecidableEq, Repr

end Screencast
