/-
How the program ends: its exit codes, and what it complains about.

A complaint is the code with which the program ends and the text that it
leaves. What failed decides the code; what was being done goes before the
text.
-/
import Screencast.Failure

namespace Screencast

/-- How the program ends. -/
inductive Exit
  | success
  | failure
  /-- Nothing could be reached. -/
  | unreachable
  | permissionDenied
  /-- The stream is not a stream. -/
  | dataInvalid
  /-- The program was called wrongly. -/
  | usage
  | timeout
  | internal
  | interrupted
  deriving DecidableEq, Repr

/-- The code of an end. -/
def Exit.code : Exit → Nat
  | success => 0
  | failure => 1
  | unreachable => 3
  | permissionDenied => 50
  | dataInvalid => 60
  | usage => 64
  | timeout => 124
  | internal => 125
  | interrupted => 130

/-- What the program complains about when it ends badly. -/
structure Complaint where
  exit : Exit
  message : String
  deriving DecidableEq, Repr

namespace Complaint

/-- How the program ends after a fault. -/
def exitOfFault (fault : Fault) : Exit :=
  match fault.kind with
  | .permissionDenied => .permissionDenied
  | .timedOut | .wouldBlock => .timeout
  | .connectionRefused | .notFound => .unreachable
  | _ => .internal

/-- A complaint with what was being done before it. -/
def during (doing : String) (exit : Exit) (text : String) : Complaint := ⟨exit, s!"{doing}: {text}"⟩

def ofFault (doing : String) (fault : Fault) : Complaint :=
  during doing (exitOfFault fault) fault.text

/-- A channel that could not be opened or used; its fault alone is shown, if it has one. -/
def ofLink (doing : String) : LinkError → Complaint
  | .connect _ fault | .io fault => ofFault doing fault
  | .invalidEndpoint input reason =>
    during doing .usage (LinkError.invalidEndpoint input reason).message
  | .unsupported endpoint => during doing .unreachable (LinkError.unsupported endpoint).message

/-- A sink that failed. That a file or a program is not there is no matter of the channel. -/
def ofSink (doing : String) : Sink.Error → Complaint
  | .io fault =>
    if fault.kind = .notFound then during doing .failure fault.text else ofFault doing fault
  | error => during doing .failure error.message

/-- A session that failed. -/
def ofFailure (doing : String) : Failure → Complaint
  | .link error => ofLink doing error
  | .io fault => ofFault doing fault
  | .sink error => ofSink doing error
  | .closed => during doing .interrupted Failure.closed.message
  | failure => during doing .dataInvalid failure.message

end Complaint

end Screencast
