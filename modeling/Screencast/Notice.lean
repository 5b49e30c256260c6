/-
What the program reports about itself while it runs.

A notice is one event, with the values that belong to it. Its level, its
message and its named fields follow from the event alone.
-/
import Screencast.Announcement
import Screencast.Failure
import Screencast.Frame
import Screencast.Session.Phase
import Screencast.Span

namespace Screencast

/-- How much a notice matters. -/
inductive Notice.Level
  | trace
  | debug
  | info
  | warn
  | error
  deriving DecidableEq, Repr

/-- The value of a field of a notice. -/
inductive Notice.Value
  | flag (value : Bool)
  | text (value : String)
  deriving DecidableEq, Repr

/-- Something that the program reports about itself. -/
inductive Notice
  /-- A Unix domain socket was reached. -/
  | unixConnected (endpoint : String)
  /-- A TCP endpoint was reached. -/
  | tcpConnected (endpoint : String)
  /-- A Unix domain socket was reached for a paced session. -/
  | unixConnectedPaced (endpoint : String)
  /-- A TCP endpoint was reached for a paced session. -/
  | tcpConnectedPaced (endpoint : String)
  /-- A session has its channel. -/
  | linked (endpoint : String)
  /-- The channel cannot be closed from outside the session. -/
  | closerUnavailable (fault : Fault)
  /-- The channel knows no bounded waits. -/
  | probeUnbounded
  /-- The channel refused to bound a wait. -/
  | probeLimitRefused (fault : Fault)
  /-- The stream ended where the probe byte should be. -/
  | probeEnded
  /-- The probe byte came. -/
  | probeReceived (value : UInt8)
  /-- The probe byte did not come in time. -/
  | probeLate (limit : Span)
  /-- Reading the probe byte failed. -/
  | probeFailed (fault : Fault)
  /-- The device has said its name. -/
  | deviceNamed (device : String)
  /-- The device has announced its stream. -/
  | handshakeDone (announcement : Announcement)
  /-- A frame came. -/
  | frameRead (header : Frame.Header)
  /-- The stream ended after a whole number of frames. -/
  | boundaryReached (frames : Nat)
  /-- A session saw the end of its stream. -/
  | streamEnded (frames : Nat)
  /-- A paced session saw the end of its stream. -/
  | pacedStreamEnded
  /-- A session failed. -/
  | sessionFailed (failure : Failure) (phase : Session.Phase)
  /-- The channel did not close cleanly. -/
  | closeFailed (fault : Fault)
  /-- A session let go of its channel. -/
  | released (phase : Session.Phase)
  /-- A session is to be cancelled. -/
  | cancelRequested
  /-- A session delivered its whole stream. -/
  | deliveryDone (device : String) (frames bytes : Nat)
  /-- A session that ran on its own has ended. -/
  | workerDone (ok : Bool)
  /-- A recording was begun. -/
  | recordingTo (path : String)
  /-- The end of a broken recording could not be flushed. -/
  | flushFailed (fault : Fault)
  /-- A child process was started. -/
  | childStarted (program : String)
  /-- A child process ended. -/
  | childExited (program : String) (status : WaitStatus)
  /-- A child process takes no more input. -/
  | childDeaf (program : String)
  /-- A child process ended badly after a failure. -/
  | childUnclean (error : Sink.Error)
  /-- Frames are coming in. -/
  | progress (frames bytes : Nat)
  /-- The last frame has been counted. -/
  | tallyDone (frames bytes : Nat)
  /-- The record command has begun. -/
  | recordingStarted (output : String)
  /-- The transcode command has begun. -/
  | transcodingStarted (output : String)
  /-- The dump command was interrupted. -/
  | dumpInterrupted (printed : Nat)
  /-- The probe command has let go of its session. -/
  | probeCommandDone
  deriving DecidableEq, Repr

namespace Notice

/-- A command reports the event, not the session that it works on. -/
def isOfCommand : Notice → Bool
  | recordingStarted _ | transcodingStarted _ | dumpInterrupted _ | probeCommandDone => true
  | _ => false

/-- How much an event matters. -/
def level : Notice → Level
  | frameRead _ => .trace
  | unixConnected _ | tcpConnected _ | unixConnectedPaced _ | tcpConnectedPaced _
  | probeUnbounded | probeEnded | probeReceived _ | deviceNamed _ | boundaryReached _
  | pacedStreamEnded | closeFailed _ | released _ | cancelRequested | workerDone _
  | recordingTo _ | childExited _ _ | probeCommandDone => .debug
  | linked _ | probeLate _ | handshakeDone _ | streamEnded _ | deliveryDone _ _ _
  | childStarted _ | progress _ _ | tallyDone _ _ | recordingStarted _ | transcodingStarted _
  | dumpInterrupted _ => .info
  | closerUnavailable _ | probeLimitRefused _ | probeFailed _ | sessionFailed _ _
  | flushFailed _ | childDeaf _ | childUnclean _ => .warn

/-- The message of an event. -/
def message : Notice → String
  | unixConnected _ => "connected to unix domain socket"
  | tcpConnected _ => "connected to tcp endpoint"
  | unixConnectedPaced _ => "connected to unix domain socket (async)"
  | tcpConnectedPaced _ => "connected to tcp endpoint (async)"
  | linked _ => "connected to mirroring endpoint"
  | closerUnavailable _ =>
    "source closer unavailable; cancellation applies between reads only"
  | probeUnbounded => "source cannot bound reads; probing without a timeout"
  | probeLimitRefused _ => "could not bound the probe read; probing without a timeout"
  | probeEnded => "source ended before the probe byte"
  | probeReceived _ => "probe byte received"
  | probeLate _ => "no probe byte within timeout; proceeding"
  | probeFailed _ => "probe byte read failed; proceeding"
  | deviceNamed _ => "device name received"
  | handshakeDone _ => "handshake complete"
  | frameRead _ => "frame read"
  | boundaryReached _ => "end of stream at frame boundary"
  | streamEnded _ => "end of stream"
  | pacedStreamEnded => "end of stream"
  | sessionFailed _ _ => "session failed"
  | closeFailed _ => "closing source failed"
  | released _ => "source released"
  | cancelRequested => "session cancellation requested"
  | deliveryDone _ _ _ => "session complete"
  | workerDone _ => "session worker finished"
  | recordingTo _ => "recording raw stream"
  | flushFailed _ => "flushing partial recording failed"
  | childStarted _ => "sink process started"
  | childExited _ _ => "sink process exited"
  | childDeaf _ => "sink process stopped reading"
  | childUnclean _ => "sink process did not finish cleanly"
  | progress _ _ => "streaming"
  | tallyDone _ _ => "stream finished"
  | recordingStarted _ => "recording raw stream; press Ctrl-C to stop"
  | transcodingStarted _ => "transcoding stream; press Ctrl-C to stop"
  | dumpInterrupted _ => "interrupted"
  | probeCommandDone => "probe complete; session closed"

/-- A number as the value of a field. -/
def Value.ofNat (n : Nat) : Value := text (toString n)

/-- The named values that belong to an event. -/
def fields : Notice → List (String × Value)
  | unixConnected endpoint | tcpConnected endpoint | unixConnectedPaced endpoint
  | tcpConnectedPaced endpoint | linked endpoint => [("endpoint", .text endpoint)]
  | closerUnavailable fault | probeLimitRefused fault | probeFailed fault | closeFailed fault
  | flushFailed fault => [("err", .text fault.text)]
  | probeUnbounded | probeEnded | pacedStreamEnded | cancelRequested | probeCommandDone => []
  | probeReceived value => [("value", .ofNat value.toNat)]
  | probeLate limit => [("timeout", .text limit.text)]
  | deviceNamed device => [("device", .text device)]
  | handshakeDone announcement => [
      ("device", .text announcement.device),
      ("codec", .text announcement.picture.codec.tag),
      ("width", .ofNat announcement.picture.width.toNat),
      ("height", .ofNat announcement.picture.height.toNat)]
  | frameRead header => [
      ("pts", .ofNat header.pts.toNat),
      ("size", .ofNat header.size.toNat),
      ("config", .flag header.config),
      ("keyframe", .flag header.keyframe)]
  | boundaryReached frames | streamEnded frames => [("frames", .ofNat frames)]
  | sessionFailed failure phase =>
    [("error", .text failure.message), ("state", .text phase.text)]
  | released phase => [("state", .text phase.text)]
  | deliveryDone device frames bytes =>
    [("device", .text device), ("frames", .ofNat frames), ("bytes", .ofNat bytes)]
  | workerDone ok => [("ok", .flag ok)]
  | recordingTo path => [("path", .text path)]
  | childStarted program | childDeaf program => [("program", .text program)]
  | childExited program status => [("program", .text program), ("status", .text status.text)]
  | childUnclean error => [("err", .text error.message)]
  | progress frames bytes | tallyDone frames bytes =>
    [("frames", .ofNat frames), ("bytes", .ofNat bytes)]
  | recordingStarted output | transcodingStarted output => [("output", .text output)]
  | dumpInterrupted printed => [("printed", .ofNat printed)]

end Notice

end Screencast
