/-
The device name field.

A device announces its name in a field of 64 bytes of UTF-8, filled up with
NUL bytes. A name that is too long is cut after the last character that fits.
Reading drops the filling and shows bytes that are no text as replacement
characters, so every field has a name.
-/
import Screencast.Text.Utf8
import Screencast.WireError

namespace Screencast.DeviceName

/-- The width of the field. -/
def width : Nat := 64

/-- The bytes of a field up to its last byte that is not NUL. -/
def trimNul (bytes : List UInt8) : List UInt8 := (bytes.reverse.dropWhile (· == 0)).reverse

/-- The field that announces a name. -/
def encode (name : String) : List UInt8 :=
  let text := Utf8.encode name.toList
  let cut := Utf8.lastBoundary text (min text.length width)
  text.take cut ++ List.replicate (width - cut) 0

/-- The name in the field at the head of a byte string. -/
def decode (bytes : List UInt8) : Except WireError String := do
  let field ← Bytes.field width bytes
  return String.ofList (Utf8.decodeLossy (trimNul field))

/-- A field has its width, however long the name. -/
theorem length_encode (name : String) : (encode name).length = width := by
  have hcut := Utf8.lastBoundary_le (Utf8.encode name.toList)
    (min (Utf8.encode name.toList).length width)
  simp only [encode, List.length_append, List.length_take, List.length_replicate]
  omega

end Screencast.DeviceName
