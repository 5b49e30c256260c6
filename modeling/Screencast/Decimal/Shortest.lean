/-
The shortest decimal that reads back.

Every double-precision number is the nearest one to all reals of an interval
around it, whose ends belong to it where its last bit is even. Among the
decimals of that interval those with the fewest digits are the shortest; of
them the nearest is chosen, and of two equally near ones the even one.

The search goes through grids of decimals, from the one with a single digit
on. Only the two neighbours of the number on a grid need be tried.
-/
import Screencast.Decimal.Datum

namespace Screencast.Decimal

/-- The decimal `d * 10 ^ k`. -/
structure Scaled where
  d : Nat
  k : Int
  deriving DecidableEq, Repr

/-! ## The interval -/

/-- The positive number `m * 2 ^ q`, with the interval of reals that are nearest to it. All three
are counted in quarters of `2 ^ q`. -/
structure Interval where
  low : Nat
  value : Nat
  high : Nat
  q : Int
  /-- The ends belong to the interval. -/
  closed : Bool
  deriving DecidableEq, Repr

/-- The interval around `m * 2 ^ q`. Below a power of two the next number is only half as far
away as above it. -/
def Interval.around (m : Nat) (q : Int) : Interval where
  low := if m = Datum.fractionBound ∧ Datum.leastExponent < q then 4 * m - 1 else 4 * m - 2
  value := 4 * m
  high := 4 * m + 2
  q := q - 2
  closed := m % 2 == 0

/-- The two numbers whose order is that of `d * 10 ^ k` and `n * 2 ^ q`. -/
def cross (s : Scaled) (n : Nat) (q : Int) : Nat × Nat :=
  (s.d * Nat.pow 10 s.k.toNat * Nat.pow 2 (-q).toNat,
    n * Nat.pow 2 q.toNat * Nat.pow 10 (-s.k).toNat)

/-- The decimal lies in the interval. -/
def Interval.contains (i : Interval) (s : Scaled) : Bool :=
  let (a, low) := cross s i.low i.q
  let (b, high) := cross s i.high i.q
  if i.closed then low ≤ a && b ≤ high else low < a && b < high

/-! ## The search -/

/-- The exponent of the leading decimal digit of `num / den`. -/
def leadingExponent (num den : Nat) : Int :=
  if den ≤ num then (digits (num / den)).length - 1
  else -(digits ((den - 1) / num)).length

/-- How far a decimal is from the number, on the scale of `cross`. -/
def Interval.distance (i : Interval) (s : Scaled) : Nat :=
  let (a, v) := cross s i.value i.q
  (a - v) + (v - a)

/-- The decimal to choose of those on one grid with the digits `d` and `d + 1`, if either lies in
the interval. -/
def Interval.choose (i : Interval) (d : Nat) (k : Int) : Option Scaled :=
  let below : Scaled := ⟨d, k⟩
  let above : Scaled := ⟨d + 1, k⟩
  match i.contains below, i.contains above with
  | false, false => none
  | true, false => some below
  | false, true => some above
  | true, true =>
    let (x, y) := (i.distance below, i.distance above)
    if x < y ∨ (x = y ∧ d % 2 = 0) then some below else some above

/-- The number cut off on a grid: the largest `d` with `d * 10 ^ k` not above it. -/
def floorOn (num den : Nat) (k : Int) : Nat :=
  (num * Nat.pow 10 (-k).toNat) / (den * Nat.pow 10 k.toNat)

/-- The most digits that a double-precision number can need. -/
def mostDigits : Nat := 17

/-- A decimal without zeros at its end. -/
def Scaled.trim (s : Scaled) : Scaled :=
  if _h : s.d ≠ 0 ∧ s.d % 10 = 0 then Scaled.trim ⟨s.d / 10, s.k + 1⟩ else s
termination_by s.d
decreasing_by omega

/-- The shortest decimal of the positive number `m * 2 ^ q`. -/
def shortest (m : Nat) (q : Int) : Scaled :=
  let (num, den) := ratio m q
  let lead := leadingExponent num den
  let grid (n : Nat) : Int := lead - n
  -- The neighbours of a number on a grid are the number cut off there and the next above.
  let hit? (n : Nat) : Option Scaled :=
    (Interval.around m q).choose (floorOn num den (grid n)) (grid n)
  (((List.range mostDigits).findSome? hit?).getD
    ⟨floorOn num den (grid mostDigits), grid mostDigits⟩).trim

end Screencast.Decimal
