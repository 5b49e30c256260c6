/-
The history of a channel: what was asked of it, and what was reported meanwhile.

Everything that the program can be seen to do with a channel is kept in one
list, so that the order of reads, of bounded waits and of notices is a fact
about that list. How often a channel was read, how many bytes it gave, which
waits were asked for and how often it was closed are counted off it.
-/
import Screencast.Sink

namespace Screencast

/-- One thing that happened while a channel was in use. -/
inductive Happening
  /-- A read gave that many bytes (none at the end), or failed. -/
  | read (got : Option Nat)
  /-- The wait of the following reads was to be bounded, or to be unbounded again. -/
  | wait (limit : Option Span) (accepted : Bool)
  /-- The channel was closed. -/
  | closed
  /-- Something was reported. -/
  | note (notice : Notice)
  /-- A sink testified to what it was told. -/
  | testimony (name : String) (event : Sink.Event)
  deriving DecidableEq, Repr

/-- What happened to a channel, the latest first. -/
structure History where
  latestFirst : List Happening := []
  deriving DecidableEq, Repr

namespace History

/-- Adds what happened last. -/
def add (history : History) (happening : Happening) : History :=
  ⟨happening :: history.latestFirst⟩

/-- What happened, in order. -/
def toList (history : History) : List Happening := history.latestFirst.reverse

@[simp] theorem toList_add (history : History) (happening : Happening) :
    (history.add happening).toList = history.toList ++ [happening] := by
  simp [add, toList]

/-- The number of reads. -/
def reads (history : History) : Nat :=
  history.latestFirst.countP fun
    | .read _ => true
    | _ => false

/-- The number of bytes read. -/
def consumed (history : History) : Nat :=
  history.latestFirst.foldl (fun n => fun
    | .read (some got) => n + got
    | _ => n) 0

/-- The bounds asked for, in order. -/
def waits (history : History) : List (Option Span) :=
  history.toList.filterMap fun
    | .wait limit _ => some limit
    | _ => none

/-- The number of times the channel was closed. -/
def closes (history : History) : Nat :=
  history.latestFirst.countP fun
    | .closed => true
    | _ => false

/-- The notices, in order. -/
def notices (history : History) : List Notice :=
  history.toList.filterMap fun
    | .note notice => some notice
    | _ => none

/-- What sinks testified to, in order. -/
def testimonies (history : History) : List (String × Sink.Event) :=
  history.toList.filterMap fun
    | .testimony name event => some (name, event)
    | _ => none

end History

end Screencast
