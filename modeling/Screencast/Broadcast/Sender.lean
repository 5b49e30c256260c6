/-
A sender, which puts a part of a stream together before it sends it.

An announcement and a frame are made of several pieces. They are put together in
a buffer and leave it in one piece. The buffer is kept from one part to the
next, whether or not a part could be sent, and so it is emptied first.
-/
import Screencast.Broadcast
import Screencast.Drain

namespace Screencast.Broadcast

/-- What sends the parts of a stream to a drain. -/
structure Sender where
  drain : Drain
  /-- Where a part is put together. What was put together last stays there. -/
  buffer : List UInt8 := []
  deriving DecidableEq, Repr

namespace Sender

/-- Empties the buffer. -/
def clear (sender : Sender) : Sender := { sender with buffer := [] }

/-- Adds a piece of a part to the buffer. -/
def add (sender : Sender) (bytes : List UInt8) : Sender :=
  { sender with buffer := sender.buffer ++ bytes }

/-- Sends bytes past the buffer. -/
def sendBytes (sender : Sender) (bytes : List UInt8) : Except WireError Unit × Sender :=
  let (result, drain) := sender.drain.send bytes
  (result.mapError .io, { sender with drain })

/-- Sends what is in the buffer. It is taken out meanwhile, and put back whatever comes of it. -/
def sendBuffer (sender : Sender) : Except WireError Unit × Sender :=
  let (result, sent) := sender.clear.sendBytes sender.buffer
  (result, { sent with buffer := sender.buffer })

/-- Sends one part. -/
def send (sender : Sender) : Part → Except WireError Unit × Sender
  | .probe => sender.sendBytes [probeByte]
  | .announcement told =>
    let named := sender.clear.add (DeviceName.encode told.device)
    (named.add told.picture.encode).sendBuffer
  | .frame sent =>
    let headed := sender.clear.add sent.header.encode
    (headed.add sent.payload).sendBuffer

/-- Flushes the drain. -/
def flush (sender : Sender) : Except WireError Unit × Sender :=
  let (result, drain) := sender.drain.flushAll
  (result.mapError .io, { sender with drain })

end Sender

end Screencast.Broadcast
