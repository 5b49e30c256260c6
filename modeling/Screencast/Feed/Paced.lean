/-
Feeds that are read as time passes.

A pause in what the device sends begins when a read first comes upon it, and
goes on until it is over, whether or not that read still waits. Time is
counted in whole milliseconds and passes in pauses alone. A read may be given
a moment by which it is abandoned; it has then taken nothing, and the next
read waits for the rest of the same pause.
-/
import Screencast.Feed.Bound

namespace Screencast

/-- A feed read as time passes. -/
structure Feed.Paced where
  feed : Feed
  /-- The time, in milliseconds from the start. -/
  now : Nat := 0
  /-- When the pause that is on will be over. -/
  wake : Option Nat := none
  deriving DecidableEq, Repr

namespace Feed.Paced

/-- Reports something. -/
def note (paced : Paced) (notice : Notice) : Paced := { paced with feed := paced.feed.note notice }

/-- The moment lies past the deadline, if there is one. -/
def isPast (deadline : Option Nat) (moment : Nat) : Bool :=
  match deadline with
  | some last => decide (last < moment)
  | none => false

/-! ## Reading -/

/-- Waits through the pauses ahead of the next thing that a script has to say. The answer is `true`
if that would take past the deadline; then the time is that of the deadline. -/
def await (deadline : Option Nat) (now : Nat) (wake : Option Nat) :
    List Item → Bool × Nat × Option Nat × List Item
  | .pause millis :: rest =>
    -- A pause that has begun keeps the moment at which it will be over.
    let due := wake.getD (now + millis)
    if isPast deadline due then (true, deadline.getD now, some due, .pause millis :: rest)
    else await deadline due none rest
  | .data [] :: rest => await deadline now wake rest
  | .cancel :: rest => await deadline now wake rest
  | script => (false, now, wake, script)

/-- A read that is abandoned at the deadline: what it finds, or `none` if it is abandoned. -/
def readBy (paced : Paced) (deadline : Option Nat) (wanted : Nat) :
    Option Outcome × Paced :=
  match await deadline paced.now paced.wake paced.feed.script with
  | (true, now, wake, script) => (none, { feed := { paced.feed with script }, now, wake })
  | (false, now, wake, script) =>
    let (outcome, feed) := { paced.feed with script }.read wanted
    (some outcome, { feed, now, wake })

/-- A read that is never abandoned. -/
def read (paced : Paced) (wanted : Nat) : Outcome × Paced :=
  let (_, now, wake, script) := await none paced.now paced.wake paced.feed.script
  let (outcome, feed) := { paced.feed with script }.read wanted
  (outcome, { feed, now, wake })

/-! ## Progress -/

/-- The most reads that a feed can answer before it has nothing more to say. -/
def weight (paced : Paced) : Nat := paced.feed.weight

@[simp] theorem weight_note (paced : Paced) (notice : Notice) :
    (paced.note notice).weight = paced.weight := rfl

theorem scriptWeight_await_le (deadline : Option Nat) (now : Nat) (wake : Option Nat)
    (script : List Item) :
    scriptWeight (await deadline now wake script).2.2.2 ≤ scriptWeight script := by
  fun_induction await deadline now wake script <;> simp_all [Item.weight] <;> omega

/-- Every read that gives bytes or fails uses up some of what the feed has to say. -/
theorem weight_read_lt {paced : Paced} {wanted : Nat} (hwanted : 0 < wanted)
    (h : (paced.read wanted).1 ≠ .nothing) : (paced.read wanted).2.weight < paced.weight :=
  Nat.lt_of_lt_of_le (Feed.weight_read_lt hwanted h) (scriptWeight_await_le ..)

/-! ## Gathering -/

/-- Gathers bytes until `filled` has grown to `wanted`; `sofar` holds the gathered ones, the latest
first. An interrupted read is made again. -/
def gatherFrom (wanted filled : Nat) (sofar : List UInt8) (paced : Paced) :
    Except WireError (List UInt8) × Paced :=
  if _h : filled < wanted then
    match _hread : paced.read (wanted - filled) with
    | (.nothing, paced') => (.error (.truncated wanted filled), paced')
    | (.bytes bytes, paced') =>
      gatherFrom wanted (filled + bytes.length) (bytes.reverseAux sofar) paced'
    | (.fault fault, paced') =>
      if fault.isInterrupted then gatherFrom wanted filled sofar paced'
      else (.error (.io fault), paced')
  else
    (.ok sofar.reverse, paced)
termination_by paced.weight
decreasing_by
  all_goals
    have hlt := @weight_read_lt paced (wanted - filled) (by omega) (by rw [_hread]; simp)
    rwa [_hread] at hlt

/-- Reads exactly `wanted` bytes. -/
def gather (paced : Paced) (wanted : Nat) : Except WireError (List UInt8) × Paced :=
  gatherFrom wanted 0 [] paced

end Feed.Paced

end Screencast
