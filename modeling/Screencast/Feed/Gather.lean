/-
Reading a fixed number of bytes.

One read may give fewer bytes than there is room for, so `gather` reads until
it has all it wants, passing over interruptions. The moment the channel has
nothing to give it reports how far it came. `exactly` gathers large amounts in
chunks, so that the room set aside for a payload grows with the bytes that
really come; a shortfall is reported against the whole amount.
-/
import Screencast.Feed
import Screencast.WireError

namespace Screencast

/-- A shortfall inside a chunk, as a shortfall of the whole of `expected` bytes of which `already`
came before the chunk. -/
def WireError.afterChunks (already expected : Nat) : WireError → WireError
  | truncated _ received => truncated expected (already + received)
  | error => error

namespace Feed

/-- Reads until `filled` has grown to `wanted` bytes; `sofar` holds what came, the last byte
first. -/
def gatherFrom (wanted filled : Nat) (sofar : List UInt8) (feed : Feed) :
    Except WireError (List UInt8) × Feed :=
  if _h : filled < wanted then
    match _hread : feed.read (wanted - filled) with
    | (.nothing, feed') => (.error (.truncated wanted filled), feed')
    | (.bytes bytes, feed') =>
      gatherFrom wanted (filled + bytes.length) (bytes.reverseAux sofar) feed'
    | (.fault fault, feed') =>
      if fault.isInterrupted then gatherFrom wanted filled sofar feed'
      else (.error (.io fault), feed')
  else
    (.ok sofar.reverse, feed)
termination_by feed.weight
decreasing_by
  all_goals
    have hlt := @weight_read_lt feed (wanted - filled) (by omega)
      (by rw [_hread]; simp)
    rwa [_hread] at hlt

/-- Reads exactly `wanted` bytes, without a read if none are wanted. -/
def gather (feed : Feed) (wanted : Nat) : Except WireError (List UInt8) × Feed :=
  gatherFrom wanted 0 [] feed

/-- The most bytes for which room is set aside before any of them has come. -/
def chunkSize : Nat := 65536

/-- Gathers chunk after chunk until `filled` has grown to `wanted` bytes. -/
def exactlyFrom (wanted filled : Nat) (sofar : List UInt8) (feed : Feed) :
    Except WireError (List UInt8) × Feed :=
  if filled < wanted then
    let chunk := min (wanted - filled) chunkSize
    match feed.gather chunk with
    | (.ok bytes, feed) => exactlyFrom wanted (filled + chunk) (bytes.reverseAux sofar) feed
    -- The chunks before this one were whole, so `filled` bytes have come already.
    | (.error e, feed) => (.error (e.afterChunks filled wanted), feed)
  else
    (.ok sofar.reverse, feed)
termination_by wanted - filled
decreasing_by
  simp only [chunkSize]
  omega

/-- Reads exactly `wanted` bytes, in chunks. -/
def exactly (feed : Feed) (wanted : Nat) : Except WireError (List UInt8) × Feed :=
  exactlyFrom wanted 0 [] feed

/-! ## Progress -/

theorem weight_gatherFrom_le (wanted filled : Nat) (sofar : List UInt8) (feed : Feed) :
    (gatherFrom wanted filled sofar feed).2.weight ≤ feed.weight := by
  fun_induction gatherFrom wanted filled sofar feed with
  | case1 filled _ feed _ feed' h =>
    have := feed.weight_read_le (wanted - filled)
    rwa [h] at this
  | case2 filled _ feed _ bytes feed' h ih =>
    have := feed.weight_read_le (wanted - filled)
    rw [h] at this
    exact Nat.le_trans ih this
  | case3 filled _ feed _ fault feed' h _ ih =>
    have := feed.weight_read_le (wanted - filled)
    rw [h] at this
    exact Nat.le_trans ih this
  | case4 filled _ feed _ fault feed' h =>
    have := feed.weight_read_le (wanted - filled)
    rwa [h] at this
  | case5 => exact Nat.le_refl _

theorem weight_gatherFrom_lt {wanted filled : Nat} {sofar : List UInt8} {feed : Feed}
    (hfilled : filled < wanted) {bytes : List UInt8}
    (hok : (gatherFrom wanted filled sofar feed).1 = .ok bytes) :
    (gatherFrom wanted filled sofar feed).2.weight < feed.weight := by
  fun_cases gatherFrom wanted filled sofar feed with
  | case1 _ feed' h => rw [gatherFrom, dif_pos hfilled, h] at hok; cases hok
  | case2 _ got feed' h =>
    have hlt := @weight_read_lt feed (wanted - filled) (by omega)
      (by rw [h]; simp)
    rw [h] at hlt
    exact Nat.lt_of_le_of_lt (weight_gatherFrom_le ..) hlt
  | case3 _ fault feed' h =>
    have hlt := @weight_read_lt feed (wanted - filled) (by omega)
      (by rw [h]; simp)
    rw [h] at hlt
    exact Nat.lt_of_le_of_lt (weight_gatherFrom_le ..) hlt
  | case4 _ fault feed' h =>
    have hlt := @weight_read_lt feed (wanted - filled) (by omega)
      (by rw [h]; simp)
    rwa [h] at hlt
  | case5 h => exact absurd hfilled h

theorem weight_gather_le (feed : Feed) (wanted : Nat) :
    (feed.gather wanted).2.weight ≤ feed.weight := weight_gatherFrom_le wanted 0 [] feed

/-- Gathering at least one byte uses up some of what the feed has to say. -/
theorem weight_gather_lt {feed : Feed} {wanted : Nat} (hwanted : 0 < wanted) {bytes : List UInt8}
    (hok : (feed.gather wanted).1 = .ok bytes) : (feed.gather wanted).2.weight < feed.weight :=
  weight_gatherFrom_lt hwanted hok

theorem weight_exactlyFrom_le (wanted filled : Nat) (sofar : List UInt8) (feed : Feed) :
    (exactlyFrom wanted filled sofar feed).2.weight ≤ feed.weight := by
  fun_induction exactlyFrom wanted filled sofar feed with
  | case1 filled _ feed _ chunk bytes feed' h ih =>
    have := weight_gatherFrom_le chunk 0 [] feed
    rw [show gatherFrom chunk 0 [] feed = (.ok bytes, feed') from h] at this
    exact Nat.le_trans ih this
  | case2 filled _ feed _ chunk e feed' h =>
    have := weight_gatherFrom_le chunk 0 [] feed
    rwa [show gatherFrom chunk 0 [] feed = (.error e, feed') from h] at this
  | case3 => exact Nat.le_refl _

theorem weight_exactly_le (feed : Feed) (wanted : Nat) :
    (feed.exactly wanted).2.weight ≤ feed.weight := weight_exactlyFrom_le ..

end Feed

end Screencast
