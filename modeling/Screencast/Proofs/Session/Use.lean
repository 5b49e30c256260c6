/-
How a session uses its channel.

All that a session does to its channel is to read it, to ask it for bounded
waits, to report on it and to close it. `Uses` is what comes of such steps, in
any number and order, and every operation leaves its channel used
(`handshake_uses`, `next_uses`). So a law of single steps is a law of sessions.
The one at hand is that of the requests to cancel: a step that meets one leaves
the session cancelled (`Uses.requests`).

Bounded waits are asked for in the probe step and nowhere else: whatever else
reads the channel only reads it (`OnlyRead`).
-/
import Screencast.Proofs.Feed.Twin
import Screencast.Proofs.Session.Operation

namespace Screencast

namespace Feed

/-- What comes of using a channel. -/
inductive Uses (feed : Feed) : Feed → Prop
  | refl : Uses feed feed
  | read {before : Feed} (h : Uses feed before) (wanted : Nat) : Uses feed (before.read wanted).2
  | bound {before : Feed} (h : Uses feed before) (limit : Option Span) :
      Uses feed (before.bound limit).2
  | record {before : Feed} (h : Uses feed before) (happening : Happening) :
      Uses feed (before.record happening)

namespace Uses

theorem trans {first second third : Feed} (h : Uses first second) (h' : Uses second third) :
    Uses first third := by
  induction h' with
  | refl => exact h
  | read _ wanted ih => exact ih.read wanted
  | bound _ limit ih => exact ih.bound limit
  | record _ happening ih => exact ih.record happening

theorem note {feed before : Feed} (h : Uses feed before) (notice : Notice) :
    Uses feed (before.note notice) := h.record (.note notice)

end Uses

/-- What comes of reading a channel and of reporting on it, without a request for bounded waits. -/
inductive OnlyRead (feed : Feed) : Feed → Prop
  | refl : OnlyRead feed feed
  | read {before : Feed} (h : OnlyRead feed before) (wanted : Nat) :
      OnlyRead feed (before.read wanted).2
  | record {before : Feed} (h : OnlyRead feed before) {happening : Happening}
      (hquiet : happening.isQuiet = true) : OnlyRead feed (before.record happening)

namespace OnlyRead

theorem uses {before after : Feed} (h : OnlyRead before after) : Uses before after := by
  induction h with
  | refl => exact .refl
  | read _ wanted ih => exact ih.read wanted
  | @record _ _ happening _ ih => exact ih.record happening

theorem trans {first second third : Feed} (h : OnlyRead first second)
    (h' : OnlyRead second third) : OnlyRead first third := by
  induction h' with
  | refl => exact h
  | read _ wanted ih => exact ih.read wanted
  | record _ hquiet ih => exact ih.record hquiet

theorem note {feed before : Feed} (h : OnlyRead feed before) (notice : Notice) :
    OnlyRead feed (before.note notice) := h.record rfl

theorem close (feed : Feed) : OnlyRead feed feed.close := by
  have hclosed : OnlyRead feed (feed.record .closed) := OnlyRead.refl.record rfl
  unfold Feed.close
  dsimp only
  split
  · exact hclosed.note _
  · exact hclosed

end OnlyRead

/-! ## Gathering -/

theorem onlyRead_of_read {feed feed' : Feed} {wanted : Nat} {outcome : Outcome}
    (h : feed.read wanted = (outcome, feed')) : OnlyRead feed feed' := by
  have hread : OnlyRead feed (feed.read wanted).2 := OnlyRead.refl.read wanted
  rwa [h] at hread

theorem gatherFrom_onlyRead (wanted filled : Nat) (sofar : List UInt8) (feed : Feed) :
    OnlyRead feed (feed.gatherFrom wanted filled sofar).2 := by
  fun_induction gatherFrom wanted filled sofar feed with
  | case1 filled sofar feed hlt feed' hread => exact onlyRead_of_read hread
  | case2 filled sofar feed hlt bytes feed' hread ih => exact (onlyRead_of_read hread).trans ih
  | case3 filled sofar feed hlt cause feed' hread hcause ih =>
    exact (onlyRead_of_read hread).trans ih
  | case4 filled sofar feed hlt cause feed' hread hcause => exact onlyRead_of_read hread
  | case5 => exact .refl

theorem gather_onlyRead (feed : Feed) (wanted : Nat) : OnlyRead feed (feed.gather wanted).2 :=
  gatherFrom_onlyRead wanted 0 [] feed

theorem exactlyFrom_onlyRead (wanted filled : Nat) (sofar : List UInt8) (feed : Feed) :
    OnlyRead feed (feed.exactlyFrom wanted filled sofar).2 := by
  fun_induction exactlyFrom wanted filled sofar feed with
  | case1 filled sofar feed hlt chunk bytes feed' hgather ih =>
    have hchunk := feed.gather_onlyRead chunk
    rw [hgather] at hchunk
    exact hchunk.trans ih
  | case2 filled sofar feed hlt chunk e feed' hgather =>
    have hchunk := feed.gather_onlyRead chunk
    rwa [hgather] at hchunk
  | case3 => exact .refl

theorem exactly_onlyRead (feed : Feed) (wanted : Nat) : OnlyRead feed (feed.exactly wanted).2 :=
  exactlyFrom_onlyRead wanted 0 [] feed

end Feed

/-! ## The handshake -/

namespace Handshake

open Feed

theorem boundWait_uses (limit : Span) (feed : Feed) : Uses feed (boundWait limit feed).2 := by
  have hbound : Uses feed (feed.bound (some limit)).2 := Uses.refl.bound (some limit)
  unfold boundWait
  split
  · next heq => rwa [heq] at hbound
  · next heq =>
    rw [heq] at hbound
    exact hbound.note _

theorem readProbe_onlyRead (limit : Span) (feed : Feed) :
    OnlyRead feed (readProbe limit feed).2 := by
  fun_induction readProbe limit feed with
  | case1 feed feed' hread => exact (onlyRead_of_read hread).note _
  | case2 feed bytes feed' hread => exact (onlyRead_of_read hread).note _
  | case3 feed fault feed' hread hfault ih => exact (onlyRead_of_read hread).trans ih
  | case4 feed fault feed' hread hfault => exact (onlyRead_of_read hread).note _
  | case5 feed fault feed' hread hfault => exact (onlyRead_of_read hread).note _

theorem probeStep_uses (settings : Settings) (feed : Feed) :
    Uses feed (probeStep settings feed).2 := by
  have hread := (boundWait_uses settings.wait feed).trans (readProbe_onlyRead settings.wait _).uses
  have hlift := hread.bound none
  unfold probeStep awaitProbe
  dsimp only
  split
  · split
    · split
      · next heq => rwa [heq] at hlift
      · next heq => rwa [heq] at hlift
    · exact hread
  · exact .refl

theorem readName_onlyRead (feed : Feed) : OnlyRead feed (readName feed).2 := by
  have hfield := feed.gather_onlyRead DeviceName.width
  unfold readName
  split
  · next heq => rwa [heq] at hfield
  · next heq =>
    rw [heq] at hfield
    split
    · exact hfield
    · exact hfield.note _

theorem readPicture_onlyRead (device : String) (feed : Feed) :
    OnlyRead feed (readPicture device feed).2 := by
  have hblock := feed.gather_onlyRead Picture.wireSize
  unfold readPicture
  split
  · next heq => rwa [heq] at hblock
  · next heq =>
    rw [heq] at hblock
    split
    · exact hblock
    · exact hblock.note _

theorem readAnnouncement_onlyRead (feed : Feed) : OnlyRead feed (readAnnouncement feed).2 := by
  have hname := readName_onlyRead feed
  unfold readAnnouncement
  split
  · next heq => rwa [heq] at hname
  · next device feed' heq =>
    rw [heq] at hname
    exact hname.trans (readPicture_onlyRead device feed')

theorem perform_uses (settings : Settings) (feed : Feed) : Uses feed (perform settings feed).2 := by
  have hprobe := probeStep_uses settings feed
  unfold perform
  split
  · next heq => rwa [heq] at hprobe
  · next probe feed' heq =>
    rw [heq] at hprobe
    have hannouncement := hprobe.trans (readAnnouncement_onlyRead feed').uses
    split
    · next heq => rwa [heq] at hannouncement
    · next heq => rwa [heq] at hannouncement

end Handshake

/-! ## Frames -/

namespace Intake

open Feed

theorem readFrame_onlyRead (limit delivered : Nat) (feed : Feed) :
    OnlyRead feed (readFrame limit delivered feed).2 := by
  have hheader := feed.gather_onlyRead Frame.Header.wireSize
  unfold readFrame
  split
  · next heq =>
    rw [heq] at hheader
    split
    · exact hheader.note _
    · exact hheader
  · next raw feed' heq =>
    rw [heq] at hheader
    split
    · exact hheader
    · next header _ =>
      have hpayload := hheader.trans (feed'.exactly_onlyRead header.size.toNat)
      dsimp only
      split
      · exact hheader
      · split
        · next heq => rwa [heq] at hpayload
        · next heq =>
          rw [heq] at hpayload
          exact hpayload.note _

theorem next_onlyRead (intake : Intake) : OnlyRead intake.feed intake.next.2.feed := by
  have hread := readFrame_onlyRead intake.limit intake.delivered intake.feed
  unfold next
  split
  · exact .refl
  · split
    · next heq => rwa [heq] at hread
    · next heq => rwa [heq] at hread

end Intake

/-! ## Sessions -/

namespace Session

open Feed

theorem release_onlyRead (session : Session) (phase : Phase) :
    OnlyRead session.feed (session.release phase).feed := by
  unfold release
  split
  · exact (OnlyRead.close session.feed).note _
  · exact .refl

theorem release_uses (session : Session) (phase : Phase) :
    Uses session.feed (session.release phase).feed := (release_onlyRead session phase).uses

theorem fail_onlyRead (session : Session) (failure : Failure) :
    OnlyRead session.feed (session.fail failure).2.feed := by
  have hnote : OnlyRead session.feed (session.note
      (.sessionFailed (session.fail failure).1 session.phase)).feed := OnlyRead.refl.note _
  exact hnote.trans (release_onlyRead _ .failed)

theorem fail_uses (session : Session) (failure : Failure) :
    Uses session.feed (session.fail failure).2.feed := (fail_onlyRead session failure).uses

theorem openStream_uses (session : Session) : Uses session.feed session.openStream.2.feed := by
  have hperform := Handshake.perform_uses session.settings session.feed
  unfold openStream
  split
  · exact fail_uses session .closed
  · dsimp only
    split
    · exact fail_uses { session with phase := .handshaking } .closed
    · split
      · next heq => rwa [heq] at hperform
      · next failure feed' heq =>
        rw [heq] at hperform
        exact hperform.trans
          (fail_uses { session.withFeed feed' with phase := .handshaking } failure)

theorem handshake_uses (session : Session) : Uses session.feed session.handshake.2.feed := by
  unfold handshake
  split
  · exact openStream_uses session
  · split
    · exact .refl
    · exact .refl
  · split
    · exact .refl
    · exact .refl
  · exact .refl
  · exact .refl

theorem pull_onlyRead (session : Session) : OnlyRead session.feed session.pull.2.feed := by
  unfold pull
  split
  · exact fail_onlyRead session .closed
  · split
    · exact .refl
    · next reader _ =>
      have hnext : OnlyRead session.feed (reader.over session.feed).next.2.feed :=
        (reader.over session.feed).next_onlyRead
      split
      · next heq => rwa [heq] at hnext
      · next intake' heq =>
        rw [heq] at hnext
        dsimp only
        split
        · exact hnext.trans (fail_onlyRead (session.withIntake intake') .closed)
        · exact (hnext.note _).trans (release_onlyRead
            ((session.withIntake intake').note _) .closed)
      · next e intake' heq =>
        rw [heq] at hnext
        exact hnext.trans (fail_onlyRead (session.withIntake intake') (.ofWire e))

theorem next_uses (session : Session) : Uses session.feed session.next.2.feed := by
  have hopen := openStream_uses session
  have hpull := (pull_onlyRead session).uses
  unfold next
  split
  · split
    · next heq => rwa [heq] at hopen
    · next opened heq =>
      rw [heq] at hopen
      exact hopen.trans (pull_onlyRead opened).uses
  · exact hpull
  · exact hpull
  · exact .refl
  · exact .refl

end Session

/-! ## Requests to cancel -/

namespace Feed

/-- The requests to cancel that are still to come with the script. -/
def requests (feed : Feed) : Nat := feed.script.count .cancel

/-- What a read that meets no request leaves holds as many of them. -/
theorem count_cancel_serve (room : Nat) (script : List Item) :
    (serve room script).2.2.count .cancel ≤ script.count .cancel ∧
      ((serve room script).2.1 = false →
        (serve room script).2.2.count .cancel = script.count .cancel) := by
  fun_induction serve room script with
  | case1 => exact ⟨Nat.le_refl _, fun _ => rfl⟩
  | case2 rest ih => simpa using ih
  | case3 b more rest => simp
  | case4 rest => simp
  | case5 fault rest => simp
  | case6 millis rest ih => simpa using ih
  | case7 rest outcome cancels left hserve ih =>
    rw [hserve] at ih
    obtain ⟨hle, -⟩ := ih
    refine ⟨?_, fun hunmet => ?_⟩
    · rw [List.count_cons_self]
      exact Nat.le_succ_of_le hle
    · cases hunmet

/-- **A request to cancel that was met has cancelled the session.** -/
theorem Uses.requests {before after : Feed} (h : Uses before after) :
    after.requests ≤ before.requests ∧
      (before.cancelled = true ∨ after.requests < before.requests → after.cancelled = true) := by
  induction h with
  | refl =>
    refine ⟨Nat.le_refl _, ?_⟩
    rintro (hcancelled | hlt)
    · exact hcancelled
    · exact absurd hlt (Nat.lt_irrefl _)
  | @read middle _ wanted ih =>
    obtain ⟨hle, hcancelled⟩ := ih
    obtain ⟨hserve, hsame⟩ := count_cancel_serve (middle.room wanted) middle.script
    have hread : (middle.read wanted).2.requests ≤ middle.requests := by
      rw [Feed.requests, read_script]
      exact hserve
    refine ⟨Nat.le_trans hread hle, fun hmet => ?_⟩
    -- If the read itself meets no request, the request was met before it.
    rw [cancelled_read]
    cases hmeets : (serve (middle.room wanted) middle.script).2.1 with
    | true => rfl
    | false =>
      have hkept : (middle.read wanted).2.requests = middle.requests := by
        rw [Feed.requests, read_script]
        exact hsame hmeets
      rw [hkept] at hmet
      rw [hcancelled hmet]
      rfl
  | @bound middle _ limit ih =>
    have hflag : (middle.bound limit).2.cancelled = middle.cancelled := by
      unfold Feed.bound
      split <;> rfl
    rw [Feed.requests, script_bound, hflag]
    exact ih
  | record _ happening ih => exact ih

end Feed

end Screencast
