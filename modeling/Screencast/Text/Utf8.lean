/-
UTF-8, written and read leniently.

`encode` writes a text. `decodeLossy` reads any byte string: a well-formed
character stands for itself, and every longest run of bytes that begins a
character but does not finish one, as well as every byte that cannot begin
one, is shown as a single replacement character. `lastBoundary` goes back in
written text to a place at which it can be cut.
-/

namespace Screencast.Utf8

/-- The UTF-8 bytes of a text. -/
def encode (text : List Char) : List UInt8 := text.flatMap String.utf8EncodeChar

/-- What stands in a decoded text for bytes that are no character. -/
def replacement : Char := '\uFFFD'

/-- A character of which `owed + 1` bytes are still to come, the next of them between `low` and
`high`; `code` collects the bits read so far. -/
structure Partial where
  owed : Nat
  low : Nat
  high : Nat
  code : Nat
  deriving DecidableEq, Repr

/-- What a byte means at the start of a character: text, or a character to be continued. -/
def first (byte : Nat) : List Char × Option Partial :=
  if byte < 0x80 then ([Char.ofNat byte], none)
  -- Neither a continuation nor 0xC0 or 0xC1, which begin overlong forms only, begins a character.
  else if byte < 0xC2 then ([replacement], none)
  else if byte < 0xE0 then ([], some ⟨0, 0x80, 0xBF, byte % 0x20⟩)
  -- Behind 0xE0 and 0xF0 low continuations are overlong; behind 0xED high ones are surrogates.
  else if byte = 0xE0 then ([], some ⟨1, 0xA0, 0xBF, 0⟩)
  else if byte = 0xED then ([], some ⟨1, 0x80, 0x9F, 0xD⟩)
  else if byte < 0xF0 then ([], some ⟨1, 0x80, 0xBF, byte % 0x10⟩)
  else if byte = 0xF0 then ([], some ⟨2, 0x90, 0xBF, 0⟩)
  else if byte < 0xF4 then ([], some ⟨2, 0x80, 0xBF, byte % 0x08⟩)
  else if byte = 0xF4 then ([], some ⟨2, 0x80, 0x8F, 4⟩)
  else ([replacement], none)

/-- What the next byte means. A byte that does not continue the character in progress gives that
character up and is read as the start of another. -/
def next (state : Option Partial) (byte : Nat) : List Char × Option Partial :=
  match state with
  | none => first byte
  | some part =>
    if part.low ≤ byte ∧ byte ≤ part.high then
      let code := part.code * 0x40 + byte % 0x40
      match part.owed with
      | 0 => ([Char.ofNat code], none)
      | owed + 1 => ([], some ⟨owed, 0x80, 0xBF, code⟩)
    else
      let (text, state) := first byte
      (replacement :: text, state)

/-- The text of the bytes that follow a given state. -/
def decodeFrom : Option Partial → List UInt8 → List Char
  | none, [] => []
  | some _, [] => [replacement]
  | state, byte :: rest =>
    let (text, state) := next state byte.toNat
    text ++ decodeFrom state rest

/-- The text of any byte string, with a replacement character for each part that is no text. -/
def decodeLossy (bytes : List UInt8) : List Char := decodeFrom none bytes

/-- A byte that goes on with a character instead of beginning one. -/
def isContinuation (byte : UInt8) : Bool := 0x80 ≤ byte && byte < 0xC0

/-- A place in written text at which it can be cut: a character begins there, or the text is over. -/
def isBoundary (bytes : List UInt8) (place : Nat) : Bool :=
  place == 0 ||
    match bytes[place]? with
    | some byte => !isContinuation byte
    | none => place == bytes.length

/-- The last place up to a given one at which written text can be cut. -/
def lastBoundary (bytes : List UInt8) : Nat → Nat
  | 0 => 0
  | place + 1 => if isBoundary bytes (place + 1) then place + 1 else lastBoundary bytes place

@[simp] theorem encode_nil : encode [] = [] := rfl

@[simp] theorem encode_cons (c : Char) (rest : List Char) :
    encode (c :: rest) = String.utf8EncodeChar c ++ encode rest := rfl

theorem encode_append (a b : List Char) : encode (a ++ b) = encode a ++ encode b := by
  simp [encode]

theorem lastBoundary_le (bytes : List UInt8) (place : Nat) : lastBoundary bytes place ≤ place := by
  induction place with
  | zero => exact Nat.le_refl 0
  | succ place ih =>
    rw [lastBoundary]
    split
    · exact Nat.le_refl _
    · exact Nat.le_succ_of_le ih

end Screencast.Utf8
