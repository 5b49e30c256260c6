/-
Links: open sockets to a device.

What the device has sent waits in the link until it is read, and stays there
when the link is closed from this side. When nothing waits, a read finds the
end if either side has closed the link; otherwise it is late.
-/
import Screencast.Endpoint
import Screencast.Fault.Errno
import Screencast.Feed.Bound

namespace Screencast

/-- An open socket to a device. -/
structure Link where
  /-- Where the link leads; a link that was made together with its other end leads nowhere. -/
  peer : Option Endpoint
  /-- What the device has sent and nobody has read. -/
  waiting : List UInt8
  /-- The device keeps its side open. -/
  held : Bool
  /-- This side has been closed. -/
  closed : Bool := false
  deriving DecidableEq, Repr

namespace Link

/-- The other side of a link, as it is shown. -/
def label (link : Link) : String :=
  match link.peer with
  | some endpoint => endpoint.text
  | none => "unix:<unnamed>"

/-- What a read reports for which nothing came in time. -/
def late : Fault := Fault.ofErrno 11

/-- What is reported when a wait is to end before it begins. -/
def noWait : Fault := ⟨.invalidInput, "cannot set a 0 duration timeout"⟩

/-- Asks for the wait of reads to be bounded. -/
def bound (limit : Option Span) : Except Fault Unit :=
  if limit = some ⟨0⟩ then .error noWait else .ok ()

/-- Nothing more can come. -/
def isOver (link : Link) : Bool := link.closed || !link.held

/-- Reads exactly `wanted` bytes. What was read towards them is gone if too few come. -/
def read (link : Link) (wanted : Nat) : Except WireError (List UInt8) × Link :=
  let got := link.waiting.take wanted
  let rest := { link with waiting := link.waiting.drop wanted }
  if got.length = wanted then (.ok got, rest)
  else if link.isOver then (.error (.truncated wanted got.length), rest)
  else (.error (.io late), rest)

/-- Closes a link. It can be closed again. -/
def close (link : Link) : Link := { link with closed := true }

/-- A link as the channel of a session. -/
def feed (link : Link) : Feed where
  script := .data link.waiting :: if link.isOver then [] else [.fault late]

end Link

end Screencast
