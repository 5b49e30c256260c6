/-
Spans of time, to the microsecond.

A span is written in the largest unit of which it holds at least one, with as
many decimals as it needs: 2 seconds are `2s`, 1001 microseconds `1.001ms`.
-/

namespace Screencast

/-- A span of time in microseconds. -/
structure Span where
  micros : Nat
  deriving DecidableEq, Repr

namespace Span

def ofMillis (n : Nat) : Span := ⟨n * 1000⟩

def ofSeconds (n : Nat) : Span := ⟨n * 1000000⟩

/-- The longer of two spans. -/
def max (a b : Span) : Span := ⟨Nat.max a.micros b.micros⟩

/-- The span in whole milliseconds, a part of one counted as one. -/
def millisUp (span : Span) : Nat := (span.micros + 999) / 1000

/-- The span in whole milliseconds, a part of one left out. -/
def millis (span : Span) : Nat := span.micros / 1000

/-- The decimals of a fraction `n / 10 ^ places`, without the zeros at their end. -/
def decimals (places n : Nat) : String :=
  let digits := Nat.toDigits 10 n
  let filled := List.replicate (places - digits.length) '0' ++ digits
  let kept := (filled.reverse.dropWhile (· == '0')).reverse
  if kept.isEmpty then "" else "." ++ String.ofList kept

/-- A span as it is shown. -/
def text (span : Span) : String :=
  let n := span.micros
  if 1000000 ≤ n then s!"{n / 1000000}{decimals 6 (n % 1000000)}s"
  else if 1000 ≤ n then s!"{n / 1000}{decimals 3 (n % 1000)}ms"
  else if 0 < n then s!"{n}µs"
  else "0ns"

end Span

end Screencast
