/-
Codec identifiers.

The device names the codec of its stream by four bytes, read as one number and
also as four characters, most significant first.
-/
import Screencast.Bytes
import Screencast.Text.Literal

namespace Screencast

/-- The number by which a device names the codec of its stream. -/
structure Codec where
  id : UInt32
  deriving DecidableEq, Repr

namespace Codec

/-- H.264, tagged `h264`. -/
def h264 : Codec := ⟨0x68323634⟩

/-- H.265, tagged `h265`. -/
def h265 : Codec := ⟨0x68323635⟩

/-- AV1, tagged `av01`. -/
def av1 : Codec := ⟨0x61763031⟩

/-- The four bytes of the identifier, most significant first. -/
def tagBytes (codec : Codec) : List UInt8 := Bytes.ofNat 4 codec.id.toNat

/-- The identifier as four characters, one for each byte. -/
def tag (codec : Codec) : String :=
  String.ofList (codec.tagBytes.map fun byte => Char.ofNat byte.toNat)

/-- The usual name of a codec that devices are known to send. -/
def name? (codec : Codec) : Option String :=
  if codec = h264 then some "H.264"
  else if codec = h265 then some "H.265"
  else if codec = av1 then some "AV1"
  else none

/-- The name under which a remuxer takes the bare stream of a codec. -/
def remuxFormat? (codec : Codec) : Option String :=
  if codec = h264 then some "h264"
  else if codec = h265 then some "hevc"
  else if codec = av1 then some "obu"
  else none

/-- The identifier in hexadecimal. -/
def hex (codec : Codec) : String := "0x" ++ Numeral.hex 8 codec.id.toNat

/-- The identifier in hexadecimal and as a literal. -/
def describe (codec : Codec) : String := s!"CodecId({codec.hex} {Literal.quote codec.tag})"

end Codec

end Screencast
