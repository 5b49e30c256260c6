/-
Numbers with a fixed count of decimal places.

The exact value is rounded to the nearest one that can be written; a half goes
to the even neighbour.
-/
import Screencast.Decimal.Datum

namespace Screencast.Decimal

/-- The quotient rounded to the nearest whole number, a half to the even one. -/
def roundDiv (num den : Nat) : Nat :=
  let q := num / den
  let r := num % den
  if 2 * r < den ∨ (2 * r = den ∧ q % 2 = 0) then q else q + 1

/-- A number with so many decimal places. -/
def fixed (places : Nat) (x : Float) : String :=
  match Datum.ofFloat x with
  | .nan => "NaN"
  | .infinite negative => signed negative "inf"
  | .finite negative m q =>
    let (num, den) := ratio m q
    signed negative (positional places (roundDiv (num * Nat.pow 10 places) den))

end Screencast.Decimal
