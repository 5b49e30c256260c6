/-
The call of a remuxer: a program that packs a bare stream into a container.

The remuxer takes the stream on its standard input and copies it unchanged,
with time stamps of its own that start at zero.
-/
import Screencast.Codec
import Screencast.Sink.Error

namespace Screencast.Remux

/-- A word of a call as it is shown. One that holds a zero byte cannot be passed to a program. -/
def shown (argument : String) : String :=
  if argument.contains '\x00' then "<string-with-nul>" else argument

/-- The arguments with which a remuxer packs the stream of a codec into a file. -/
def arguments (codec : Codec) (output : String) : Except Sink.Error (List String) :=
  match codec.remuxFormat? with
  | none => .error (.unsupportedCodec codec)
  | some format => .ok [
      "-f", format, "-i", "pipe:0", "-c:v", "copy", "-avoid_negative_ts", "make_zero",
      "-fflags", "+genpts", "-y", output]

end Screencast.Remux
