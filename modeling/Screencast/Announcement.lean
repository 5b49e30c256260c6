/-
What a device announces before its first frame.

After its name the device sends one block of 12 bytes: the codec of the
stream, the width and the height of the picture, 4 bytes each.
-/
import Screencast.Codec
import Screencast.DeviceName

namespace Screencast

/-- The codec of a stream and the size of its picture. -/
structure Picture where
  codec : Codec
  width : UInt32
  height : UInt32
  deriving DecidableEq, Repr

namespace Picture

/-- The size of the block that describes a picture. -/
def wireSize : Nat := 12

/-- The block that describes a picture. -/
def encode (picture : Picture) : List UInt8 :=
  Bytes.ofNat 4 picture.codec.id.toNat ++ Bytes.ofNat 4 picture.width.toNat ++
    Bytes.ofNat 4 picture.height.toNat

/-- The picture described by the block at the head of a byte string. -/
def decode (bytes : List UInt8) : Except WireError Picture := do
  let block ← Bytes.field wireSize bytes
  return {
    codec := ⟨UInt32.ofNat (Bytes.toNat (block.take 4))⟩
    width := UInt32.ofNat (Bytes.toNat ((block.drop 4).take 4))
    height := UInt32.ofNat (Bytes.toNat (block.drop 8)) }

@[simp] theorem length_encode (picture : Picture) : picture.encode.length = wireSize := by
  simp only [encode, List.length_append, Bytes.length_ofNat]
  rfl

end Picture

/-- Everything that a device announces: its name and the picture it is about to send. -/
structure Announcement where
  device : String
  picture : Picture
  deriving DecidableEq, Repr

/-- An announcement as it is sent: the name field, then the picture block. -/
def Announcement.encode (announcement : Announcement) : List UInt8 :=
  DeviceName.encode announcement.device ++ announcement.picture.encode

end Screencast
