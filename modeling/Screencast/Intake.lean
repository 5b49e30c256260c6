/-
Frames taken out of a feed.

An intake reads one frame after another and never a byte beyond the one it
returns. A stream that ends after a whole number of frames has ended cleanly;
one that ends inside a header or a payload is cut short. After the first end
or error the intake is finished and leaves the feed alone.
-/
import Screencast.Feed.Gather
import Screencast.Frame

namespace Screencast

/-- What takes frames out of a feed. -/
structure Reader where
  /-- The largest payload that is accepted. -/
  limit : Nat
  /-- The end or an error has been met. -/
  finished : Bool := false
  /-- The frames returned so far. -/
  delivered : Nat := 0
  deriving DecidableEq, Repr

/-- A feed from which frames are taken. -/
structure Intake extends Reader where
  feed : Feed
  deriving DecidableEq, Repr

/-- A reader put over a feed. -/
def Reader.over (reader : Reader) (feed : Feed) : Intake := { reader with feed }

namespace Intake

/-- Reads one frame from a feed after `delivered` others; `none` is the clean end. -/
def readFrame (limit delivered : Nat) (feed : Feed) : Except WireError (Option Frame) × Feed :=
  match feed.gather Frame.Header.wireSize with
  | (.error e, feed) =>
    -- An end before the first byte of a header is the boundary between two frames.
    if e.isCleanEnd then (.ok none, feed.note (.boundaryReached delivered)) else (.error e, feed)
  | (.ok raw, feed) =>
    match Frame.Header.decode raw with
    | .error e => (.error e, feed)
    | .ok header =>
      let size := header.size.toNat
      if limit < size then
        (.error (.payloadTooLarge size limit), feed)
      else
        match feed.exactly size with
        | (.error e, feed) => (.error e, feed)
        | (.ok payload, feed) => (.ok (some ⟨header, payload⟩), feed.note (.frameRead header))

/-- The next frame, or `none` at the end and ever after. -/
def next (intake : Intake) : Except WireError (Option Frame) × Intake :=
  if intake.finished then
    (.ok none, intake)
  else
    match readFrame intake.limit intake.delivered intake.feed with
    | (.ok (some frame), feed) =>
      (.ok (some frame), { intake with feed, delivered := intake.delivered + 1 })
    | (result, feed) => (result, { intake with feed, finished := true })

/-- A frame that is read uses up some of what the feed has to say. -/
theorem weight_readFrame_lt {limit delivered : Nat} {feed feed' : Feed} {frame : Frame}
    (h : readFrame limit delivered feed = (.ok (some frame), feed')) :
    feed'.weight < feed.weight := by
  unfold readFrame at h
  split at h
  · split at h <;> simp at h
  · next raw rest hgather =>
    have hlt := @Feed.weight_gather_lt feed Frame.Header.wireSize (by decide) _
      (by rw [hgather])
    rw [hgather] at hlt
    split at h
    · simp at h
    · next header _ =>
      dsimp only at h
      split at h
      · simp at h
      · split at h
        · simp at h
        · next payload rest' hpayload =>
          have hle := rest.weight_exactly_le header.size.toNat
          rw [hpayload] at hle
          simp only [Prod.mk.injEq] at h
          rw [← h.2, Feed.weight_note]
          exact Nat.lt_of_le_of_lt hle hlt

theorem weight_next_lt {intake intake' : Intake} {frame : Frame}
    (h : intake.next = (.ok (some frame), intake')) :
    intake'.feed.weight < intake.feed.weight := by
  unfold next at h
  split at h
  · simp at h
  · split at h
    · next hread =>
      simp only [Prod.mk.injEq] at h
      rw [← h.2]
      exact weight_readFrame_lt hread
    · next hne hread =>
      simp only [Prod.mk.injEq] at h
      obtain ⟨rfl, rfl⟩ := h
      exact (hne _ rfl).elim

/-- Every answer up to the end of the feed, which is not among them. An error is the last of
them. -/
def all (intake : Intake) : List (Except WireError (Option Frame)) × Intake :=
  match _h : intake.next with
  | (.ok (some frame), intake') =>
    let (rest, last) := all intake'
    (.ok (some frame) :: rest, last)
  | (.ok none, intake') => ([], intake')
  | (.error e, intake') => ([.error e], intake')
termination_by intake.feed.weight
decreasing_by exact weight_next_lt _h

end Intake

end Screencast
