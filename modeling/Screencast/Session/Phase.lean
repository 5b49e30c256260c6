/-
The phases of a session.
-/

namespace Screencast

/-- How far a session has come. -/
inductive Session.Phase
  /-- The channel is open and nothing has been read. -/
  | connected
  /-- The handshake is being read. -/
  | handshaking
  /-- The announcement is known and frames are being read. -/
  | streaming
  /-- The stream ended, or the session was closed. -/
  | closed
  /-- A failure ended the session. -/
  | failed
  deriving DecidableEq, Repr

namespace Session.Phase

/-- Nothing follows. -/
def isTerminal : Session.Phase → Bool
  | closed | failed => true
  | connected | handshaking | streaming => false

/-- A phase as it is shown. -/
def text : Session.Phase → String
  | connected => "Connected"
  | handshaking => "Handshaking"
  | streaming => "Streaming"
  | closed => "Closed"
  | failed => "Failed"

end Session.Phase

end Screencast
