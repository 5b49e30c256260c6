/-
Numerals: decimal ones read from text, hexadecimal ones written.
-/

namespace Screencast.Numeral

/-- The value of a digit sequence; `none` if it is empty or holds anything but digits. -/
def ofDigits? (digits : List Char) : Option Nat :=
  if digits.isEmpty || digits.any (fun c => !c.isDigit) then none
  else some (digits.foldl (fun n c => n * 10 + (c.toNat - '0'.toNat)) 0)

/-- An unsigned decimal numeral of at most `max`: digits, which a plus sign may precede. -/
def parse? (max : Nat) (text : List Char) : Option Nat :=
  let digits := match text with
    | '+' :: rest => rest
    | _ => text
  (ofDigits? digits).filter (· ≤ max)

/-- The largest number of 16 bits. -/
def max16 : Nat := 0xFFFF

/-- The largest number of 64 bits. -/
def max64 : Nat := 0xFFFFFFFFFFFFFFFF

/-- A number in lower-case hexadecimal, filled with zeros to the given width. -/
def hex (width n : Nat) : String :=
  let digits := Nat.toDigits 16 n
  String.ofList (List.replicate (width - digits.length) '0' ++ digits)

end Screencast.Numeral
