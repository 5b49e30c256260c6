/-
Feeds that differ in what was reported.

Twins have the same still to say, in the same pieces, and have both been
cancelled or not; their histories may differ. A read finds the same on both and
leaves twins (`Twin.read`), and so does everything that is made of reads.
-/
import Screencast.Proofs.Feed.Gather

namespace Screencast.Feed

/-! ## Twins -/

/-- Two feeds that say the same to the same reads. -/
structure Twin (first second : Feed) : Prop where
  script : first.script = second.script
  perRead : first.perRead = second.perRead
  cancelled : first.cancelled = second.cancelled

/-- Two operations on twins come to the same, and leave twins. -/
structure Twins {α : Type} (first second : α × Feed) : Prop where
  result : first.1 = second.1
  twin : Twin first.2 second.2

theorem Twin.refl (feed : Feed) : Twin feed feed := ⟨rfl, rfl, rfl⟩

/-- What is reported on twins does not matter. -/
theorem Twin.record {first second : Feed} (h : Twin first second)
    (happening happening' : Happening) :
    Twin (first.record happening) (second.record happening') := ⟨h.script, h.perRead, h.cancelled⟩

theorem Twin.note {first second : Feed} (h : Twin first second) (notice notice' : Notice) :
    Twin (first.note notice) (second.note notice') := h.record _ _

theorem Twins.exists_eq {α : Type} {run run' : α × Feed} (h : Twins run run') {result : α}
    {first : Feed} (hrun : run = (result, first)) :
    ∃ second, run' = (result, second) ∧ Twin first second := by
  subst hrun
  exact ⟨run'.2, Prod.ext h.result.symm rfl, h.twin⟩

/-! ## Reading -/

theorem perRead_read (feed : Feed) (wanted : Nat) :
    (feed.read wanted).2.perRead = feed.perRead := by
  rw [read_snd]
  split
  · exact perRead_cancel _
  · rfl

theorem cancelled_read (feed : Feed) (wanted : Nat) :
    (feed.read wanted).2.cancelled =
      ((serve (feed.room wanted) feed.script).2.1 || feed.cancelled) := by
  rw [read_snd]
  split
  · next hcancel =>
    rw [hcancel]
    exact cancelled_cancel _
  · next hcancel =>
    rw [Bool.not_eq_true] at hcancel
    rw [hcancel]
    rfl

theorem Twin.read {first second : Feed} (h : Twin first second) (wanted : Nat) :
    Twins (first.read wanted) (second.read wanted) := by
  have hroom : first.room wanted = second.room wanted := by rw [room, room, h.perRead]
  refine ⟨?_, ?_, ?_, ?_⟩
  · rw [read_fst, read_fst, hroom, h.script]
  · rw [read_script, read_script, hroom, h.script]
  · rw [perRead_read, perRead_read, h.perRead]
  · rw [cancelled_read, cancelled_read, hroom, h.script, h.cancelled]

/-! ## Gathering -/

/-- What one read does to the gathering of bytes. -/
theorem gatherFrom_of_lt {wanted filled : Nat} (h : filled < wanted) (sofar : List UInt8)
    (feed : Feed) :
    feed.gatherFrom wanted filled sofar =
      match feed.read (wanted - filled) with
      | (.nothing, feed) => (.error (.truncated wanted filled), feed)
      | (.bytes bytes, feed) =>
        feed.gatherFrom wanted (filled + bytes.length) (bytes.reverseAux sofar)
      | (.fault cause, feed) =>
        if cause.isInterrupted then feed.gatherFrom wanted filled sofar
        else (.error (.io cause), feed) := by
  rw [gatherFrom, dif_pos h]
  split <;> next heq => rw [heq]

theorem Twin.gatherFrom {first second : Feed} (h : Twin first second) (wanted filled : Nat)
    (sofar : List UInt8) :
    Twins (first.gatherFrom wanted filled sofar) (second.gatherFrom wanted filled sofar) := by
  fun_induction Feed.gatherFrom wanted filled sofar first generalizing second with
  | case1 filled sofar first hlt first' hread =>
    obtain ⟨second', hread', htwin⟩ := (h.read _).exists_eq hread
    rw [gatherFrom_of_lt hlt sofar second, hread']
    exact ⟨rfl, htwin⟩
  | case2 filled sofar first hlt bytes first' hread ih =>
    obtain ⟨second', hread', htwin⟩ := (h.read _).exists_eq hread
    rw [gatherFrom_of_lt hlt sofar second, hread']
    exact ih htwin
  | case3 filled sofar first hlt cause first' hread hcause ih =>
    obtain ⟨second', hread', htwin⟩ := (h.read _).exists_eq hread
    rw [gatherFrom_of_lt hlt sofar second, hread']
    simp only [hcause, if_true]
    exact ih htwin
  | case4 filled sofar first hlt cause first' hread hcause =>
    obtain ⟨second', hread', htwin⟩ := (h.read _).exists_eq hread
    rw [gatherFrom_of_lt hlt sofar second, hread']
    simp only [hcause]
    exact ⟨rfl, htwin⟩
  | case5 filled sofar first hlt =>
    rw [Feed.gatherFrom, dif_neg hlt]
    exact ⟨rfl, h⟩

theorem Twin.gather {first second : Feed} (h : Twin first second) (wanted : Nat) :
    Twins (first.gather wanted) (second.gather wanted) := h.gatherFrom wanted 0 []

/-- What one chunk does to the gathering in chunks. -/
theorem exactlyFrom_of_lt {wanted filled : Nat} (h : filled < wanted) (sofar : List UInt8)
    (feed : Feed) :
    feed.exactlyFrom wanted filled sofar =
      match feed.gather (min (wanted - filled) chunkSize) with
      | (.ok bytes, feed) =>
        feed.exactlyFrom wanted (filled + min (wanted - filled) chunkSize) (bytes.reverseAux sofar)
      | (.error e, feed) => (.error (e.afterChunks filled wanted), feed) := by
  rw [exactlyFrom]
  exact if_pos h

theorem Twin.exactlyFrom {first second : Feed} (h : Twin first second) (wanted filled : Nat)
    (sofar : List UInt8) :
    Twins (first.exactlyFrom wanted filled sofar) (second.exactlyFrom wanted filled sofar) := by
  -- The other twin is reverted by hand, as `generalizing` does not see past the size of the chunk.
  revert second
  fun_induction Feed.exactlyFrom wanted filled sofar first with
  | case1 filled sofar first hlt chunk bytes first' hgather =>
    rename_i ih
    intro second h
    obtain ⟨second', hgather', htwin⟩ := (h.gather _).exists_eq hgather
    rw [exactlyFrom_of_lt hlt sofar second, hgather']
    exact ih htwin
  | case2 filled sofar first hlt chunk e first' =>
    rename_i hgather
    intro second h
    obtain ⟨second', hgather', htwin⟩ := (h.gather _).exists_eq hgather
    rw [exactlyFrom_of_lt hlt sofar second, hgather']
    exact ⟨rfl, htwin⟩
  | case3 filled sofar first hlt =>
    intro second h
    rw [Feed.exactlyFrom, if_neg hlt]
    exact ⟨rfl, h⟩

theorem Twin.exactly {first second : Feed} (h : Twin first second) (wanted : Nat) :
    Twins (first.exactly wanted) (second.exactly wanted) := h.exactlyFrom wanted 0 []

end Screencast.Feed
