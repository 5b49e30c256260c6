/-
The recording of a delivery.

A session is delivered into a recording and a tally beside it, whatever comes
of the drain that the recording writes to. At every point of the delivery the
two agree with the frames that the recording took, and the drain was given
just their payloads and at most a part of one that was refused; the summary of
a delivery that succeeds agrees with both; and every delivery flushes the
drain once, at its end (`run_recorded`).
-/
import Screencast.Proofs.Sink.Recording

namespace Screencast.Delivery

open Sink

/-! ## The calls of a delivery -/

theorem accepted_map_taken (frames : List Frame) : accepted (frames.map taken) = frames := by
  induction frames with
  | nil => rfl
  | cons frame rest ih =>
    show frame :: accepted (rest.map taken) = frame :: rest
    rw [ih]

/-- A delivery that succeeds counts the frames that its sink took. -/
theorem Course.summary_eq {session last : Session} {calls : List Call} {summary : Summary}
    (h : Course session last calls (.ok summary)) :
    summary.frames = (accepted calls).length ∧ summary.bytes = payloadTotal (accepted calls) := by
  cases h with
  | opened _ hdelivered =>
    cases hdelivered with
    | complete frames =>
      have haccepted : accepted (frames.map taken ++ [{ event := .ended }]) = frames := by
        rw [accepted_concat, accepted_map_taken]
        exact List.append_nil frames
      show 0 + frames.length = (accepted (frames.map taken ++ _)).length ∧
        0 + payloadTotal frames = payloadTotal (accepted (frames.map taken ++ _))
      rw [haccepted, Nat.zero_add, Nat.zero_add]
      exact ⟨rfl, rfl⟩

/-- The last calls of a delivery tell at most one early event, and then of the end or of a
failure. -/
theorem Finale.events {last : Session} {closing : List Call} {result : Except Failure Summary}
    (h : Finale last closing result) :
    ∃ early final, closing.map Call.event = early ++ [final] ∧
      (∀ event ∈ early, event.isEarly = true) ∧ final.isEarly = false := by
  cases h with
  | failed failure => exact ⟨[], .failed failure, rfl, by simp, rfl⟩
  | @refused event e failure hearly =>
    exact ⟨[event], .failed failure, rfl, by simpa using hearly, rfl⟩
  | endRefused e => exact ⟨[], .ended, rfl, by simp, rfl⟩
  | ended summary => exact ⟨[], .ended, rfl, by simp, rfl⟩

/-- A delivery tells its sink of early events, and last of the end or of a failure. -/
theorem Course.events {session last : Session} {calls : List Call}
    {result : Except Failure Summary} (h : Course session last calls result) :
    ∃ early final, calls.map Call.event = early ++ [final] ∧
      (∀ event ∈ early, event.isEarly = true) ∧ final.isEarly = false := by
  obtain ⟨shared, closing, rfl, hshared, hfinale⟩ := h.finale
  obtain ⟨early, final, hclosing, hearly, hfinal⟩ := hfinale.events
  refine ⟨shared ++ early, final, ?_, ?_, hfinal⟩
  · rw [List.map_append, List.map_map, hclosing, List.append_assoc]
    exact congrArg (· ++ _) (List.map_id shared)
  · intro event hevent
    rcases List.mem_append.mp hevent with hevent | hevent
    · exact hshared event hevent
    · exact hearly event hevent

/-- A delivery tells of no frame after a refusal. -/
theorem Course.orderly {session last : Session} {calls : List Call}
    {result : Except Failure Summary} (h : Course session last calls result) : Orderly calls := by
  obtain ⟨shared, closing, rfl, -, hfinale⟩ := h.finale
  have htook : ∀ call ∈ shared.map took, call.refusal = none := by
    intro call hcall
    obtain ⟨event, -, rfl⟩ := List.mem_map.mp hcall
    rfl
  refine List.pairwise_append.mpr ⟨?_, ?_, fun earlier hearlier _ _ _ => htook earlier hearlier⟩
  · exact List.Pairwise.imp_of_mem (fun hearlier _ _ _ => htook _ hearlier)
      (List.pairwise_of_forall fun _ _ => trivial)
  · -- What follows the refusal of a frame is the failure.
    cases hfinale <;> simp [Event.frame?]

/-! ## The recording -/

/-- What has become of a recording and a tally beside it that were told of `events`, in a delivery
that came to `result`. -/
structure Recorded (start last : Logged Recording × Tally) (events : List Event)
    (result : Except Failure Summary) : Prop where
  told : last = tell start events
  /-- At every point they agree with the frames that were taken. -/
  faithful : ∀ point, point <+: events →
    Faithful (tell start point).1.calls (tell start point).1.sink (tell start point).2
  /-- So does the summary. -/
  summed : ∀ summary, result = .ok summary → summary.frames = last.2.frames ∧
    summary.bytes = last.2.bytes ∧ summary.bytes = last.1.sink.written
  /-- The drain was flushed after it was written to, and not before. -/
  flushed : last.1.sink.out = (start.1.sink.out.writeEach (payloads events)).flush.2
  unflushed : (start.1.sink.out.writeEach (payloads events)).drain.flushes =
    start.1.sink.out.drain.flushes
  /-- With no buffer in front of the drain, it was given everything at once, and the flush is one
  flush of the drain and no write. -/
  direct : start.1.sink.out.capacity = 0 →
    (∀ point, point <+: events → (tell start point).1.sink.out.held = []) ∧
    last.1.sink.out.drain.flushes = start.1.sink.out.drain.flushes + 1 ∧
    last.1.sink.out.drain.writes =
      (start.1.sink.out.writeEach (payloads events)).drain.writes

/-- The drain of a recording that is told of early events, and last of the end or of a failure. -/
theorem out_tell_beside (start : Logged Recording × Tally) {early : List Event} {final : Event}
    (hearly : ∀ event ∈ early, event.isEarly = true) (hfinal : final.isEarly = false) :
    (tell start (early ++ [final])).1.sink.out =
      (start.1.sink.out.writeEach (payloads (early ++ [final]))).flush.2 := by
  have hpayloads : payloads (early ++ [final]) = payloads early := by
    have hnone : payloads [final] = [] := by
      cases final with
      | announced told => rfl
      | frame frame => cases hfinal
      | ended => rfl
      | failed failure => rfl
    have happend : payloads (early ++ [final]) = payloads early ++ payloads [final] := by
      rw [payloads, List.filterMap_append, List.map_append]
      rfl
    rw [happend, hnone, List.append_nil]
  have hfirst : (tell start (early ++ [final])).1 = tell start.1 (early ++ [final]) :=
    tell_beside start _
  rw [hfirst, tell_logged, hpayloads]
  dsimp only
  rw [tell_concat, react_recording_late _ hfinal, out_tell _ hearly]

/-- **The fidelity of a recording.** Whatever the session does, however the drain answers its
writes and its flushes, and with any buffer in front of it or none, the delivery of a reachable
session into a new recording and a tally keeps both in agreement with the frames taken at every
point, and flushes once. The log of the recording changes nothing of what becomes of the
delivery. -/
theorem run_recorded {session : Session} (h : session.Reachable)
    (writePlan : List Drain.Answer) (flushPlan : List (Option Fault)) (capacity : Nat)
    (place : Option (List String)) (every : Nat) :
    let recording : Recording := { out := { drain := { writePlan, flushPlan }, capacity }, place }
    let start : Logged Recording × Tally := ({ sink := recording }, { every })
    run session (recording, start.2) = onto (Prod.map Logged.sink id) (run session start) ∧
      ∃ events,
        Course session (run session start).2.1 (callsOf start events) (run session start).1 ∧
        Recorded start (run session start).2.2 events (run session start).1 := by
  intro recording start
  have hbare := run_map ((AnswersAs.logged Recording).pair (.refl Tally)) session start
  obtain ⟨events, htold, hcourse⟩ := run_told h.lawful start
  refine ⟨hbare, events, hcourse, ?_⟩
  have hstart : Faithful start.1.calls start.1.sink start.2 :=
    ⟨rfl, rfl, rfl, rfl, rfl, ⟨[], .inl rfl, rfl⟩, Nat.zero_le capacity⟩
  have hfaithful (point : List Event) (hpoint : point <+: events) :
      Faithful (tell start point).1.calls (tell start point).1.sink (tell start point).2 := by
    obtain ⟨later, rfl⟩ := hpoint
    have horderly := hcourse.orderly
    rw [callsOf_append] at horderly
    exact hstart.tell (List.pairwise_append.mp horderly).1
  have hlast := hfaithful events List.prefix_rfl
  have hcalls : (tell start events).1.calls = callsOf start events := calls_tell_beside start events
  obtain ⟨early, final, hevents, hearly, hfinal⟩ := hcourse.events
  rw [map_event_callsOf] at hevents
  have hflushed : (tell start events).1.sink.out =
      (start.1.sink.out.writeEach (payloads events)).flush.2 := by
    rw [hevents]
    exact out_tell_beside start hearly hfinal
  have hunflushed := start.1.sink.out.flushes_writeEach (payloads events)
  rw [htold]
  refine ⟨rfl, hfaithful, ?_, hflushed, hunflushed, ?_⟩
  · intro summary hok
    rw [hok] at hcourse
    obtain ⟨hframes, hbytes⟩ := hcourse.summary_eq
    rw [hframes, hbytes, hlast.frames, hlast.bytes, hlast.written, hcalls]
    exact ⟨rfl, rfl, rfl⟩
  · intro hcapacity
    have hfits := Drain.Buffered.writeEach_fits hstart.fits (payloads events)
    have hheld := hfits.held_eq_nil ((Drain.Buffered.capacity_writeEach _ _).trans hcapacity)
    rw [hflushed, Drain.Buffered.flush_of_held_nil hheld]
    refine ⟨?_, ?_, Drain.writes_flush _⟩
    · intro point hpoint
      apply (hfaithful point hpoint).fits.held_eq_nil
      rw [tell_beside, tell_logged]
      exact (capacity_tell start.1.sink point).trans hcapacity
    · rw [← hunflushed]
      exact Drain.flushes_flush _

/-- A drain that is interrupted, takes half of the second frame and then nothing more, and cannot
be flushed. -/
theorem run_recorded_half_frame :
    let told : Announcement := ⟨"Pixel", ⟨.h264, 1280, 720⟩⟩
    let sent : Frame := ⟨⟨false, true, 7, 2⟩, [0xAB, 0xCD]⟩
    let feed : Feed := { script := [.data (told.encode ++ sent.encode ++ sent.encode)] }
    let session := Session.start feed { expectProbe := false } 2
    let drain : Drain := {
      writePlan := [.takes 1, .fails (.ofKind .interrupted), .takes 9, .takes 1, .takes 0]
      flushPlan := [some (.ofKind .brokenPipe)] }
    let start : Logged Recording × Tally := ({ sink := { out := { drain } } }, { every := 0 })
    let ran := run session start
    (lastFrame? ran.2.2.1.calls =
        some { event := .frame sent, refusal := some (.io Drain.stalledFile) } ∧
      ran.2.2.2 = { every := 0, frames := 1, bytes := 2, keyframes := 1 } ∧
      ran.2.2.1.sink.out.drain.taken = [0xAB, 0xCD, 0xAB]) ∧
    ∃ events, Course session ran.2.1 (callsOf start events) ran.1 ∧
      Recorded start ran.2.2 events ran.1 := by
  intro told sent feed session drain start ran
  have hclosed : feed.history.closes = 0 := rfl
  have hrecorded := run_recorded (.start hclosed { expectProbe := false } 2) drain.writePlan
    drain.flushPlan 0 none 0
  exact ⟨by decide +kernel, hrecorded.2⟩

end Screencast.Delivery
