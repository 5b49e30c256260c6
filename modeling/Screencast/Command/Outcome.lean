/-
What a command comes to, and what it depends on.

A command works on a session that has been opened for it. What it cannot
decide itself, such as whether its output file can be created, is given to it
as the surroundings.
-/
import Screencast.Drain
import Screencast.Exit
import Screencast.Report
import Screencast.Session
import Screencast.Sink.Child

namespace Screencast.Command

/-- When the user interrupts a command. -/
inductive Interruption
  /-- As soon as the session is open. -/
  | atOnce
  /-- When the handshake has been made and so many frames have been read. -/
  | after (frames : Nat)
  deriving DecidableEq, Repr

/-- What the surroundings of a command answer when they are asked. -/
structure Surroundings where
  /-- What trying to reach the endpoint comes to. -/
  channel : Except LinkError Feed
  /-- When the user interrupts the command, if that happens. -/
  interruption : Option Interruption := none
  /-- The output file, once it has been created, or what keeps it from being created. -/
  file : Except Fault Drain := .ok {}
  /-- What a program does as a child process that is called with some words, or what keeps it from
  being started. -/
  start : List String → Except Fault Sink.Child.Conduct
  /-- How long the command takes. -/
  elapsed : Span := ⟨0⟩
  /-- The report is shown on a terminal. -/
  terminal : Bool := false

/-- What a command makes besides its report. -/
inductive Product
  /-- A file of these bytes. -/
  | file (bytes : List UInt8)
  /-- A child process. -/
  | child (child : Sink.Child)
  deriving DecidableEq, Repr

/-- What a command comes to over a session. -/
structure Outcome where
  /-- What is printed. -/
  printed : List UInt8 := []
  /-- The summary that is printed, if one is. -/
  summary : Option Report.Summary := none
  /-- How the program ends. -/
  result : Except Complaint Exit
  /-- The session, as the command leaves it. -/
  session : Session
  /-- What is made, if it was begun. -/
  product : Option Product := none

namespace Surroundings

/-- The user interrupts the command when so many frames have been read. -/
def stopsAfter (surroundings : Surroundings) (frames : Nat) : Bool :=
  surroundings.interruption = some (.after frames)

/-- The frames after which the user interrupts the command, if that happens. -/
def patience (surroundings : Surroundings) : Option Nat :=
  match surroundings.interruption with
  | some (.after frames) => some frames
  | some .atOnce | none => none

end Surroundings

namespace Outcome

/-- A command that fails at something, with nothing to show for it. -/
def failed (session : Session) (doing : String) (failure : Failure) : Outcome :=
  { result := .error (Complaint.ofFailure doing failure), session }

/-- A command that goes on once the device has announced its stream, which is when the user may
interrupt it. -/
def afterHandshake (session : Session) (surroundings : Surroundings)
    (work : Announcement → Session → Outcome) : Outcome :=
  match session.handshake with
  | (.error failure, session) => failed session "handshake failed" failure
  | (.ok announcement, session) =>
    work announcement (if surroundings.stopsAfter 0 then session.cancel else session)

end Outcome

end Screencast.Command
