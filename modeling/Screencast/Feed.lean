/-
The channel that a session reads its stream from.

What a device sends reaches the program in pieces: bytes, empty reads, faults
and pauses, in an order that only the device decides. A feed is that order as
a list of items, together with the way in which the channel answers requests
to bound its waits or to close. A read serves the first item that has anything
to say: at most as many bytes as there is room for, and never bytes of two
items at once. Past the last item every read finds nothing.

Cancelling a session can happen at any moment, in the middle of a read as
well, so the request is an item too; a read that meets it goes on.

`Feed.weight` bounds what a feed still has to say. Every read that gives bytes
or fails lowers it (`weight_read_lt`), which is why loops over reads end.
-/
import Screencast.History

namespace Screencast

/-- Something that a channel will answer to a read. -/
inductive Feed.Item
  /-- Bytes. -/
  | data (bytes : List UInt8)
  /-- One read that finds nothing. -/
  | gap
  /-- One read that fails. -/
  | fault (fault : Fault)
  /-- So many milliseconds in which nothing comes. -/
  | pause (millis : Nat)
  /-- The session is cancelled. -/
  | cancel
  deriving DecidableEq, Repr

/-- How a channel answers requests to bound the wait of its reads. -/
inductive Feed.Waits
  /-- It cannot bound them. -/
  | unsupported
  /-- The requests fail with the listed faults in turn, where there is one, and then succeed. -/
  | answers (faults : List (Option Fault))
  deriving DecidableEq, Repr

/-- What a read finds. -/
inductive Feed.Outcome
  /-- Bytes, at least one. -/
  | bytes (bytes : List UInt8)
  /-- Nothing. -/
  | nothing
  /-- A fault. -/
  | fault (fault : Fault)
  deriving DecidableEq, Repr

/-- A channel in use. -/
structure Feed where
  script : List Feed.Item
  /-- The largest number of bytes that one read gives. -/
  perRead : Option { n : Nat // 0 < n } := none
  waits : Feed.Waits := .answers []
  /-- What closing the channel fails with. -/
  closeFault : Option Fault := none
  /-- What keeps the channel from being closed from outside. -/
  closerFault : Option Fault := none
  /-- The session over this channel has been cancelled. -/
  cancelled : Bool := false
  history : History := {}
  deriving DecidableEq, Repr

namespace Feed

/-! ## What is left to say -/

/-- The most reads that an item can answer. -/
def Item.weight : Item → Nat
  | .data bytes => bytes.length + 1
  | .gap | .fault _ | .pause _ | .cancel => 1

/-- The most reads that a list of items can answer. -/
def scriptWeight : List Item → Nat
  | [] => 0
  | item :: rest => item.weight + scriptWeight rest

/-- The most reads that a feed can answer before it has nothing more to say. -/
def weight (feed : Feed) : Nat := scriptWeight feed.script

@[simp] theorem scriptWeight_nil : scriptWeight [] = 0 := rfl

@[simp] theorem scriptWeight_cons (item : Item) (rest : List Item) :
    scriptWeight (item :: rest) = item.weight + scriptWeight rest := rfl

/-! ## Reports -/

/-- Adds to the history of a feed. -/
def record (feed : Feed) (happening : Happening) : Feed :=
  { feed with history := feed.history.add happening }

/-- Reports something. -/
def note (feed : Feed) (notice : Notice) : Feed := feed.record (.note notice)

/-- Cancels the session over a feed. Only the first request is reported. -/
def cancel (feed : Feed) : Feed :=
  if feed.cancelled then feed else { feed with cancelled := true }.note .cancelRequested

@[simp] theorem weight_record (feed : Feed) (happening : Happening) :
    (feed.record happening).weight = feed.weight := rfl

@[simp] theorem weight_note (feed : Feed) (notice : Notice) :
    (feed.note notice).weight = feed.weight := rfl

@[simp] theorem weight_cancel (feed : Feed) : feed.cancel.weight = feed.weight := by
  unfold cancel
  split <;> rfl

/-! ## Reading -/

/-- What a read with room for `room` bytes finds in a script, whether a request to cancel was met
on the way, and what is left. -/
def serve (room : Nat) : List Item → Outcome × Bool × List Item
  | [] => (.nothing, false, [])
  | .data [] :: rest => serve room rest
  | .data (b :: more) :: rest =>
    (.bytes ((b :: more).take room), false, .data ((b :: more).drop room) :: rest)
  | .gap :: rest => (.nothing, false, rest)
  | .fault fault :: rest => (.fault fault, false, rest)
  | .pause _ :: rest => serve room rest
  | .cancel :: rest =>
    -- The request is remembered, and the same read goes on.
    let (outcome, _, rest) := serve room rest
    (outcome, true, rest)

/-- The number of bytes that an outcome delivers; `none` for a fault. -/
def Outcome.got : Outcome → Option Nat
  | bytes delivered => some delivered.length
  | nothing => some 0
  | fault _ => none

/-- The room of a read, cut to what one read can give. -/
def room (feed : Feed) (wanted : Nat) : Nat :=
  match feed.perRead with
  | none => wanted
  | some limit => min wanted limit

/-- Reads once, with room for `wanted` bytes. -/
def read (feed : Feed) (wanted : Nat) : Outcome × Feed :=
  let (outcome, cancels, rest) := serve (feed.room wanted) feed.script
  let feed := { feed with script := rest }
  let feed := if cancels then feed.cancel else feed
  (outcome, feed.record (.read outcome.got))

/-! ## Progress -/

theorem scriptWeight_serve_le (room : Nat) (script : List Item) :
    scriptWeight (serve room script).2.2 ≤ scriptWeight script := by
  fun_induction serve room script <;> simp_all [Item.weight] <;> omega

/-- What a read with room for a byte takes out of a script is gone. -/
theorem scriptWeight_serve_lt {room : Nat} (hroom : 0 < room) {script : List Item}
    (h : (serve room script).1 ≠ .nothing) :
    scriptWeight (serve room script).2.2 < scriptWeight script := by
  fun_induction serve room script <;> simp_all [Item.weight] <;> omega

theorem room_pos (feed : Feed) {wanted : Nat} (h : 0 < wanted) : 0 < feed.room wanted := by
  unfold room
  split
  · exact h
  · next limit _ => have := limit.2; omega

/-- A read leaves what its room and the script leave, whether or not it met a request to cancel. -/
theorem weight_read (feed : Feed) (wanted : Nat) :
    (feed.read wanted).2.weight =
      scriptWeight (serve (feed.room wanted) feed.script).2.2 := by
  unfold read
  dsimp only
  rw [weight_record]
  split
  · rw [weight_cancel, weight]
  · rw [weight]

theorem weight_read_le (feed : Feed) (wanted : Nat) :
    (feed.read wanted).2.weight ≤ feed.weight := by
  rw [weight_read]
  exact scriptWeight_serve_le (feed.room wanted) feed.script

/-- Every read that gives bytes or fails uses up some of what the feed has to say. -/
theorem weight_read_lt {feed : Feed} {wanted : Nat} (hwanted : 0 < wanted)
    (h : (feed.read wanted).1 ≠ .nothing) : (feed.read wanted).2.weight < feed.weight := by
  have hserve : (serve (feed.room wanted) feed.script).1 ≠ .nothing := h
  rw [weight_read]
  exact scriptWeight_serve_lt (feed.room_pos hwanted) hserve

end Feed

end Screencast
