/-
Why a sink could not take an event.
-/
import Screencast.Codec
import Screencast.Fault
import Screencast.WaitStatus

namespace Screencast

/-- Why a sink could not take an event. -/
inductive Sink.Error
  /-- The destination of the sink failed. -/
  | io (fault : Fault)
  /-- The process that the sink feeds ended badly. -/
  | processFailed (program : String) (status : WaitStatus)
  /-- The process that the sink feeds takes no more input. -/
  | processGone (program : String)
  /-- The sink cannot handle the codec. -/
  | unsupportedCodec (codec : Codec)
  deriving DecidableEq, Repr

/-- The text shown for an error. -/
def Sink.Error.message : Sink.Error → String
  | io fault => s!"sink I/O error: {fault.text}"
  | processFailed program status => s!"{program} exited with {status.text}"
  | processGone program => s!"{program} closed its input"
  | unsupportedCodec codec => s!"no ffmpeg input format for codec {codec.hex}"

end Screencast
