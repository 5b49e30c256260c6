/-
Frames: a header of 12 bytes and the payload that it declares.

The first 8 bytes of a header are one number. Its top bit marks codec
configuration, the next one a keyframe, and the other 62 bits are the
presentation time stamp. The last 4 bytes are the size of the payload.
A time stamp of more than 62 bits loses the bits above, so that it can never
be mistaken for a mark.
-/
import Screencast.WireError
import Screencast.Bytes

namespace Screencast

/-- What precedes the payload of a frame. -/
structure Frame.Header where
  /-- The payload configures the decoder and is no picture. -/
  config : Bool
  /-- The payload decodes without reference to earlier frames. -/
  keyframe : Bool
  /-- The presentation time stamp, of which the low 62 bits are sent. -/
  pts : UInt64
  /-- The size of the payload in bytes. -/
  size : UInt32
  deriving DecidableEq, Repr

namespace Frame.Header

/-- The size of a header. -/
def wireSize : Nat := 12

/-- The bit that marks codec configuration. -/
def configBit : Nat := 0x8000000000000000

/-- The bit that marks a keyframe. -/
def keyframeBit : Nat := 0x4000000000000000

/-- One above the largest time stamp that can be sent: it fills the bits below the marks. -/
def ptsBound : Nat := keyframeBit

/-- The marks and the time stamp as one number of 64 bits. -/
def word (header : Header) : Nat :=
  header.config.toNat * configBit + header.keyframe.toNat * keyframeBit +
    header.pts.toNat % ptsBound

/-- A header as it is sent. -/
def encode (header : Header) : List UInt8 :=
  Bytes.ofNat 8 header.word ++ Bytes.ofNat 4 header.size.toNat

/-- The header that a number of 64 bits and a size make up. -/
def ofWord (word size : Nat) : Header where
  config := word / configBit % 2 == 1
  keyframe := word / keyframeBit % 2 == 1
  pts := UInt64.ofNat (word % ptsBound)
  size := UInt32.ofNat size

/-- The header at the head of a byte string. -/
def decode (bytes : List UInt8) : Except WireError Header := do
  let field ← Bytes.field wireSize bytes
  return ofWord (Bytes.toNat (field.take 8)) (Bytes.toNat (field.drop 8))

@[simp] theorem length_encode (header : Header) : header.encode.length = wireSize := by
  simp only [encode, List.length_append, Bytes.length_ofNat]
  rfl

end Frame.Header

/-- A frame: its header and its payload. -/
structure Frame where
  header : Frame.Header
  payload : List UInt8
  deriving DecidableEq, Repr

namespace Frame

/-- The payload is as long as the header says, and the time stamp is one that can be sent. -/
structure WellFormed (frame : Frame) : Prop where
  size_eq : frame.header.size.toNat = frame.payload.length
  pts_lt : frame.header.pts.toNat < Header.ptsBound

/-- One above the largest payload that a header can declare. -/
def payloadBound : Nat := 0x100000000

/-- The frame with the given marks, time stamp and payload. -/
def make (config keyframe : Bool) (pts : UInt64) (payload : List UInt8) :
    Except WireError Frame :=
  let size := payload.length
  if size < payloadBound then
    .ok {
      header := {
        config, keyframe
        pts := UInt64.ofNat (pts.toNat % Header.ptsBound)
        size := UInt32.ofNat size }
      payload }
  else
    .error (.payloadTooLarge size (payloadBound - 1))

/-- The size of a frame as it is sent. -/
def wireSize (frame : Frame) : Nat := Header.wireSize + frame.payload.length

/-- A frame as it is sent. -/
def encode (frame : Frame) : List UInt8 := frame.header.encode ++ frame.payload

theorem length_encode (frame : Frame) : frame.encode.length = frame.wireSize := by
  simp [encode, wireSize]

/-- A new frame is well formed. -/
theorem WellFormed.of_make {config keyframe : Bool} {pts : UInt64} {payload : List UInt8}
    {frame : Frame} (h : make config keyframe pts payload = .ok frame) : frame.WellFormed := by
  simp only [make] at h
  split at h
  · next hlt =>
    cases h
    have hmod : pts.toNat % Header.ptsBound < Header.ptsBound := Nat.mod_lt _ (by decide)
    refine ⟨?_, ?_⟩
    · simpa [payloadBound] using hlt
    · simp only [UInt64.toNat_ofNat', Header.ptsBound] at hmod ⊢
      omega
  · cases h

end Frame

end Screencast
