/-
What a double-precision number means.

The 64 bits of a number are a sign, 11 bits of exponent and 52 of fraction.
Below the largest exponent, which marks infinities and what is no number, they
mean a whole number times a power of two.
-/

namespace Screencast.Decimal

/-- The meaning of a double-precision number. -/
inductive Datum
  | nan
  | infinite (negative : Bool)
  /-- The number `m * 2 ^ q`, with a sign that zero has too. -/
  | finite (negative : Bool) (m : Nat) (q : Int)
  deriving DecidableEq, Repr

namespace Datum

/-- The fractions are the numbers below this one, which is also the bit that a fraction leaves
out. -/
def fractionBound : Nat := 0x10000000000000

/-- The exponent of the smallest numbers. -/
def leastExponent : Int := -1074

/-- The meaning of 64 bits. -/
def ofBits (bits : UInt64) : Datum :=
  let n := bits.toNat
  let negative := n / 0x8000000000000000 == 1
  let exponent : Nat := n / fractionBound % 2048
  let fraction : Nat := n % fractionBound
  if exponent = 2047 then
    if fraction = 0 then infinite negative else nan
  else if exponent = 0 then finite negative fraction leastExponent
  else finite negative (fraction + fractionBound) (leastExponent + (exponent : Int) - 1)

/-- The meaning of a number. -/
def ofFloat (x : Float) : Datum := ofBits x.toBits

end Datum

/-- The numerator and the denominator of `m * 2 ^ q`. -/
def ratio (m : Nat) (q : Int) : Nat × Nat := (m * Nat.pow 2 q.toNat, Nat.pow 2 (-q).toNat)

/-- The digits of a number. -/
def digits (n : Nat) : List Char := Nat.toDigits 10 n

/-- The text of `n * 10 ^ (-places)`. -/
def positional (places n : Nat) : String :=
  let ds := digits n
  let filled := List.replicate (places + 1 - ds.length) '0' ++ ds
  let whole := filled.length - places
  String.ofList (filled.take whole ++ '.' :: filled.drop whole)

/-- A sign and a magnitude. -/
def signed (negative : Bool) (magnitude : String) : String :=
  if negative then "-" ++ magnitude else magnitude

end Screencast.Decimal
