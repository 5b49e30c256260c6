/-
Channels that are left alone.

A channel is left alone while it is neither read nor asked for bounded waits:
it has then the same to say as before, and has said no more. Reports, requests
to cancel and closing leave it alone.
-/
import Screencast.Proofs.Feed.Signal

namespace Screencast

/-! ## What is counted off a history -/

/-- Something that asks nothing of a channel but to close. -/
def Happening.isQuiet : Happening → Bool
  | .read _ | .wait _ _ => false
  | .closed | .note _ | .testimony _ _ => true

namespace History

theorem reads_add {happening : Happening} (h : happening.isQuiet) (history : History) :
    (history.add happening).reads = history.reads := by
  rw [reads, reads, add, List.countP_cons]
  cases happening with
  | read | wait => cases h
  | closed | note | testimony => rfl

theorem waits_add {happening : Happening} (h : happening.isQuiet) (history : History) :
    (history.add happening).waits = history.waits := by
  rw [waits, waits, toList_add, List.filterMap_append]
  cases happening with
  | read | wait => cases h
  | closed | note | testimony => exact List.append_nil _

theorem consumed_add_quiet {happening : Happening} (h : happening.isQuiet) (history : History) :
    (history.add happening).consumed = history.consumed := by
  rw [consumed_add]
  cases happening with
  | read | wait => cases h
  | closed | note | testimony => rfl

end History

namespace Feed

/-- A channel that was left alone. -/
structure Idle (before after : Feed) : Prop where
  script : after.script = before.script
  reads : after.history.reads = before.history.reads
  waits : after.history.waits = before.history.waits
  consumed : after.history.consumed = before.history.consumed

namespace Idle

@[refl] theorem refl (feed : Feed) : Idle feed feed := ⟨rfl, rfl, rfl, rfl⟩

theorem trans {first second third : Feed} (h : Idle first second) (h' : Idle second third) :
    Idle first third where
  script := h'.script.trans h.script
  reads := h'.reads.trans h.reads
  waits := h'.waits.trans h.waits
  consumed := h'.consumed.trans h.consumed

theorem record {happening : Happening} (h : happening.isQuiet) (feed : Feed) :
    Idle feed (feed.record happening) where
  script := rfl
  reads := History.reads_add h feed.history
  waits := History.waits_add h feed.history
  consumed := History.consumed_add_quiet h feed.history

theorem note (feed : Feed) (notice : Notice) : Idle feed (feed.note notice) :=
  record rfl feed

theorem cancel (feed : Feed) : Idle feed feed.cancel := by
  have hmarked : Idle feed { feed with cancelled := true } := ⟨rfl, rfl, rfl, rfl⟩
  unfold Feed.cancel
  split
  · exact .refl feed
  · exact hmarked.trans (.note _ _)

theorem close (feed : Feed) : Idle feed feed.close := by
  have hclosed : Idle feed (feed.record .closed) := record rfl feed
  unfold Feed.close
  dsimp only
  split
  · exact hclosed.trans (.note _ _)
  · exact hclosed

end Idle

end Feed

end Screencast
