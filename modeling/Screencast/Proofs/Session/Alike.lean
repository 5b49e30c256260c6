/-
Sessions over feeds that say the same.

However the bytes of a stream are cut into reads, and wherever reads are
interrupted, a session makes the same of it. Two sessions over feeds that say
the same are abreast (`Abreast`); asked for the same, they answer alike and
remain so (`Abreast.agreement`). So nothing that can be seen of a session depends
on how its channel cuts the stream (`observe_eq_of_signals`).
-/
import Screencast.Proofs.Feed.Alike
import Screencast.Proofs.Session.Agreement

namespace Screencast

open Feed

/-! ## The handshake -/

namespace Handshake

theorem boundWait_agrees {first second : Feed} (h : Alike first second)
    (hwaits : first.waits = second.waits) (limit : Span) :
    Agrees (boundWait limit first) (boundWait limit second) ∧
      (boundWait limit first).2.waits = (boundWait limit second).2.waits := by
  have hbound := bound_agrees h hwaits (some limit)
  have hlater := (bound_of_waits hwaits (some limit)).2
  unfold boundWait
  generalize first.bound (some limit) = run at hbound hlater ⊢
  generalize second.bound (some limit) = run' at hbound hlater ⊢
  obtain ⟨granted, first'⟩ := run
  obtain ⟨granted', second'⟩ := run'
  obtain ⟨rfl, halike⟩ := hbound
  cases granted with
  | ok => exact ⟨⟨rfl, halike⟩, hlater⟩
  | error fault => exact ⟨⟨rfl, halike.note _ _⟩, hlater⟩

theorem awaitProbe_agrees {first second : Feed} (h : Alike first second)
    (hwaits : first.waits = second.waits) (limit : Span) :
    Agrees (awaitProbe limit first) (awaitProbe limit second) := by
  obtain ⟨⟨hbounded, halike⟩, hlater⟩ := boundWait_agrees h hwaits limit
  have hfirst := readProbe_finds limit (boundWait limit first).2
  have hsecond := readProbe_finds limit (boundWait limit second).2
  rw [← halike.signals] at hsecond
  have hread := Agrees.of_finds halike hfirst hsecond
  -- Reading the probe byte uses up no answer, so both requests to lift the bound get the same.
  have hwaits' : (readProbe limit (boundWait limit first).2).2.waits =
      (readProbe limit (boundWait limit second).2).2.waits := by
    rw [readProbe_waits, readProbe_waits, hlater]
  have hlift := bound_agrees hread.alike hwaits' none
  unfold awaitProbe
  dsimp only
  rw [← hbounded]
  split
  · generalize (readProbe limit (boundWait limit first).2).2.bound none = run at hlift ⊢
    generalize (readProbe limit (boundWait limit second).2).2.bound none = run' at hlift ⊢
    obtain ⟨lifted, first'⟩ := run
    obtain ⟨lifted', second'⟩ := run'
    obtain ⟨rfl, halike'⟩ := hlift
    cases lifted with
    | ok => exact ⟨congrArg Except.ok hread.result, halike'⟩
    | error fault => exact ⟨rfl, halike'⟩
  · exact ⟨congrArg Except.ok hread.result, hread.alike⟩

/-- **Handshakes over feeds that say the same agree.** -/
theorem perform_agrees {first second : Feed} (h : Alike first second)
    (hwaits : first.waits = second.waits) (settings : Settings) :
    Agrees (perform settings first) (perform settings second) := by
  have hprobe : Agrees (probeStep settings first) (probeStep settings second) := by
    unfold probeStep
    split
    · exact awaitProbe_agrees h hwaits settings.wait
    · exact ⟨rfl, h⟩
  unfold perform
  generalize probeStep settings first = run at hprobe ⊢
  generalize probeStep settings second = run' at hprobe ⊢
  obtain ⟨probe, first'⟩ := run
  obtain ⟨probe', second'⟩ := run'
  obtain ⟨rfl, halike⟩ := hprobe
  cases probe with
  | error failure => exact ⟨rfl, halike⟩
  | ok probe =>
    have hfirst := readAnnouncement_finds first'
    have hsecond := readAnnouncement_finds second'
    rw [← halike.signals] at hsecond
    have hannouncement := Agrees.of_finds halike hfirst hsecond
    dsimp only
    generalize readAnnouncement first' = run at hannouncement ⊢
    generalize readAnnouncement second' = run' at hannouncement ⊢
    obtain ⟨told, first''⟩ := run
    obtain ⟨told', second''⟩ := run'
    obtain ⟨rfl, halike'⟩ := hannouncement
    cases told with
    | error failure => exact ⟨rfl, halike'⟩
    | ok told => exact ⟨rfl, halike'⟩

end Handshake

/-! ## Frames -/

/-- Two intakes with the same frames ahead. -/
structure Intake.Alike (first second : Intake) : Prop where
  feed : first.feed.Alike second.feed
  limit : first.limit = second.limit
  finished : first.finished = second.finished
  delivered : first.delivered = second.delivered

theorem Intake.Alike.next {first second : Intake} (h : Intake.Alike first second) :
    first.next.1 = second.next.1 ∧ Intake.Alike first.next.2 second.next.2 := by
  have hfirst := readFrame_finds first.limit first.delivered first.feed
  have hsecond := readFrame_finds first.limit first.delivered second.feed
  rw [← h.feed.signals] at hsecond
  have hread := Agrees.of_finds h.feed hfirst hsecond
  unfold Intake.next
  rw [← h.finished, ← h.limit, ← h.delivered]
  by_cases hfinished : first.finished = true
  · rw [if_pos hfinished, if_pos hfinished]
    exact ⟨rfl, h⟩
  · rw [if_neg hfinished, if_neg hfinished]
    generalize readFrame first.limit first.delivered first.feed = run at hread ⊢
    generalize readFrame first.limit first.delivered second.feed = run' at hread ⊢
    obtain ⟨result, first'⟩ := run
    obtain ⟨result', second'⟩ := run'
    obtain ⟨rfl, halike⟩ := hread
    rcases result with e | _ | frame
    · exact ⟨rfl, halike, rfl, rfl, rfl⟩
    · exact ⟨rfl, halike, rfl, rfl, rfl⟩
    · exact ⟨rfl, halike, rfl, rfl, rfl⟩

/-! ## Sessions -/

namespace Session

/-- Two sessions that go on alike: as long as they have not been cancelled, they have the same ahead
of them. -/
structure Going (first second : Session) : Prop where
  settings : first.settings = second.settings
  cancelled : first.isCancelled = second.isCancelled
  delivered : first.intake.delivered = second.intake.delivered
  ahead : first.isCancelled = false → Intake.Alike first.intake second.intake
  waits : first.phase = .connected → first.feed.waits = second.feed.waits

/-- Two sessions that have come equally far. -/
structure Abreast (first second : Session) : Prop where
  phase : first.phase = second.phase
  known : first.known = second.known
  consumed : first.feed.history.consumed = second.feed.history.consumed
  held : first.Held
  held' : second.Held
  going : first.phase.isTerminal = false → Going first second

namespace Abreast

variable {first second : Session}

theorem view_eq (h : Abreast first second) : first.view = second.view := by
  have hframes : first.framesRead = second.framesRead := by
    cases hterminal : first.phase.isTerminal with
    | true =>
      have hterminal' : second.phase.isTerminal = true := by rw [← h.phase, hterminal]
      rw [framesRead, framesRead, h.held.reader_of_terminal hterminal,
        h.held'.reader_of_terminal hterminal']
    | false => rw [framesRead_eq, framesRead_eq, (h.going hterminal).delivered]
  obtain ⟨hannouncement, hprobe⟩ := Prod.mk.inj h.known
  simp only [view, h.phase, hannouncement, hprobe, h.consumed, hframes]

/-- Two sessions that let go of their channels in the same phase. -/
theorem release (first second : Session) (hknown : first.known = second.known)
    (hconsumed : first.feed.history.consumed = second.feed.history.consumed) {phase : Phase}
    (hterminal : phase.isTerminal = true) :
    Abreast (first.release phase) (second.release phase) where
  phase := by rw [phase_release, phase_release]
  known := by rw [known_release, known_release, hknown]
  consumed := by
    rw [(release_idle first phase).consumed, (release_idle second phase).consumed, hconsumed]
  held := .of_release first hterminal
  held' := .of_release second hterminal
  going h := by
    rw [phase_release, hterminal] at h
    cases h

/-- Two sessions that fail for the same reason. -/
theorem failWith {α : Type} (first second : Session) (hknown : first.known = second.known)
    (hconsumed : first.feed.history.consumed = second.feed.history.consumed)
    (hcancelled : first.isCancelled = second.isCancelled) (failure : Failure) :
    Agree Abreast (first.failWith (α := α) failure) (second.failWith failure) := by
  have hreported : (first.fail failure).1 = (second.fail failure).1 := by
    rw [fail_fst, fail_fst, hcancelled]
  refine ⟨congrArg Except.error hreported, ?_⟩
  -- What is reported on the way out counts no bytes.
  have hnoted (session : Session) (notice : Notice) :
      (session.note notice).feed.history.consumed = session.feed.history.consumed :=
    (Idle.note session.feed notice).consumed
  refine release (first.note _) (second.note _) hknown ?_ rfl
  rw [hnoted, hnoted, hconsumed]

theorem openStream (h : Abreast first second) (hphase : first.phase = .connected) :
    Agree Abreast first.openStream second.openStream := by
  have hopen : first.phase.isTerminal = false := by rw [hphase]; rfl
  have hreader := h.held.reader_of_open hopen
  have hreader' := h.held'.reader_of_open (by rw [← h.phase, hopen])
  have hgoing := h.going hopen
  rw [openStream_eq hreader, openStream_eq hreader', ← hgoing.cancelled]
  by_cases hcancelled : first.isCancelled = true
  · rw [if_pos hcancelled, if_pos hcancelled]
    exact failWith first second h.known h.consumed hgoing.cancelled .closed
  · -- Nobody has cancelled, so both make the handshake, and have the same ahead of them.
    have hahead := hgoing.ahead (by simpa using hcancelled)
    have hperform := Handshake.perform_agrees hahead.feed (hgoing.waits hphase) first.settings
    rw [if_neg hcancelled, if_neg hcancelled, ← hgoing.settings]
    rw [show first.intake.feed = first.feed from rfl,
      show second.intake.feed = second.feed from rfl] at hperform
    generalize Handshake.perform first.settings first.feed = run at hperform ⊢
    generalize Handshake.perform first.settings second.feed = run' at hperform ⊢
    obtain ⟨result, first'⟩ := run
    obtain ⟨result', second'⟩ := run'
    obtain ⟨rfl, halike⟩ := hperform
    have hsame : first'.cancelled = second'.cancelled :=
      halike.calm.1.trans halike.calm'.1.symm
    cases result with
    | ok outcome =>
      refine ⟨rfl, rfl, rfl, halike.consumed, hreader, hreader', fun _ => ⟨hgoing.settings, hsame,
        hahead.delivered, fun _ => ?_, nofun⟩⟩
      exact ⟨halike, hahead.limit, hahead.finished, hahead.delivered⟩
    | error failure =>
      exact failWith { first.withFeed first' with phase := .handshaking }
        { second.withFeed second' with phase := .handshaking } h.known halike.consumed hsame failure

theorem pull (h : Abreast first second) (hopen : first.phase.isTerminal = false)
    (hread : first.phase ≠ .connected) :
    Agree Abreast first.pull second.pull := by
  have hopen' : second.phase.isTerminal = false := by rw [← h.phase, hopen]
  have hgoing := h.going hopen
  rw [pull_eq (h.held.reader_of_open hopen), pull_eq (h.held'.reader_of_open hopen'),
    ← hgoing.cancelled]
  by_cases hcancelled : first.isCancelled = true
  · rw [if_pos hcancelled, if_pos hcancelled]
    exact failWith first second h.known h.consumed hgoing.cancelled .closed
  · obtain ⟨hresult, halike⟩ := (hgoing.ahead (by simpa using hcancelled)).next
    rw [if_neg hcancelled, if_neg hcancelled]
    generalize first.intake.next = run at hresult halike ⊢
    generalize second.intake.next = run' at hresult halike ⊢
    obtain ⟨result, first'⟩ := run
    obtain ⟨result', second'⟩ := run'
    dsimp only at hresult halike
    subst hresult
    have hcalm : first'.feed.cancelled = false := halike.feed.calm.1
    have hcalm' : second'.feed.cancelled = false := halike.feed.calm'.1
    rcases result with e | _ | frame
    · exact failWith (first.withIntake first') (second.withIntake second') h.known
        halike.feed.consumed (hcalm.trans hcalm'.symm) (.ofWire e)
    · -- Nobody cancels, so both have come to the clean end.
      dsimp only
      rw [if_neg (by simp [isCancelled, withIntake, hcalm]),
        if_neg (by simp [isCancelled, withIntake, hcalm'])]
      refine ⟨rfl, release ((first.withIntake first').note _) ((second.withIntake second').note _)
        h.known ?_ rfl⟩
      exact (Idle.note first'.feed _).consumed.trans
        (halike.feed.consumed.trans (Idle.note second'.feed _).consumed.symm)
    · exact ⟨rfl, h.phase, h.known, halike.feed.consumed, .withIntake hopen first',
        .withIntake hopen' second', fun _ => ⟨hgoing.settings, hcalm.trans hcalm'.symm,
        halike.delivered, fun _ => halike, fun hphase => absurd hphase hread⟩⟩

theorem close (h : Abreast first second) : Abreast first.close second.close := by
  cases hterminal : first.phase.isTerminal with
  | true =>
    have hterminal' : second.phase.isTerminal = true := by rw [← h.phase, hterminal]
    rw [close_of_terminal hterminal (h.held.reader_of_terminal hterminal),
      close_of_terminal hterminal' (h.held'.reader_of_terminal hterminal')]
    exact h
  | false =>
    rw [close_of_open hterminal, close_of_open (by rw [← h.phase, hterminal])]
    exact release first second h.known h.consumed rfl

theorem cancel (h : Abreast first second) : Abreast first.cancel second.cancel where
  phase := h.phase
  known := h.known
  held := h.held
  held' := h.held'
  consumed := by
    have hfirst := (Idle.cancel first.feed).consumed
    have hsecond := (Idle.cancel second.feed).consumed
    exact hfirst.trans (h.consumed.trans hsecond.symm)
  going hopen := by
    have hgoing := h.going hopen
    have hfirst : first.cancel.isCancelled = true := cancelled_cancel first.feed
    have hsecond : second.cancel.isCancelled = true := cancelled_cancel second.feed
    refine ⟨hgoing.settings, hfirst.trans hsecond.symm, hgoing.delivered, fun hcalm => ?_,
      fun hphase => ?_⟩
    · rw [hfirst] at hcalm
      cases hcalm
    · show first.feed.cancel.waits = second.feed.cancel.waits
      rw [waits_cancel, waits_cancel]
      exact hgoing.waits hphase

/-- **Sessions that are abreast answer alike, and stay so.** -/
theorem agreement : Agreement Abreast where
  view_eq := view_eq
  openStream := openStream
  pull := pull
  close := close
  cancel := cancel

/-- Nothing that is seen of two sessions that are abreast ever differs. -/
theorem observe_eq (h : Abreast first second) (operations : List Operation) :
    first.observe operations = second.observe operations :=
  agreement.observe_eq h operations

end Abreast

/-- **What is seen of a session does not depend on how its channel cuts the stream.** Two fresh
channels that say the same bytes, finds of nothing and faults, and answer requests for bounded waits
alike, may cut the bytes as they please and interrupt whichever reads: whatever the sessions over
them are asked, the answers, the phases, the announcement, the probe byte, the frames counted and
the bytes consumed are the same after every operation. -/
theorem observe_eq_of_signals {first second : Feed} (hsignals : first.signals = second.signals)
    (hwaits : first.waits = second.waits)
    (hconsumed : first.history.consumed = second.history.consumed) (hcalm : first.Calm)
    (hcalm' : second.Calm) (settings : Handshake.Settings) (limit : Nat)
    (operations : List Operation) :
    (start first settings limit).observe operations =
      (start second settings limit).observe operations := by
  have hfirst := start_sequel first settings limit
  have hsecond := start_sequel second settings limit
  have halike :
      Feed.Alike (start first settings limit).feed (start second settings limit).feed := by
    refine Feed.Alike.sequel ⟨hsignals, hconsumed, hcalm, hcalm'⟩ hfirst hsecond ?_
    rw [signals_start, signals_start, hsignals]
  have hcancelled : (start first settings limit).isCancelled =
      (start second settings limit).isCancelled := halike.calm.1.trans halike.calm'.1.symm
  have hgoing : Going (start first settings limit) (start second settings limit) := by
    refine ⟨rfl, hcancelled, rfl, fun _ => ⟨halike, rfl, rfl, rfl⟩, fun _ => ?_⟩
    rw [start_waits, start_waits, hwaits]
  have habreast : Abreast (start first settings limit) (start second settings limit) :=
    ⟨rfl, rfl, halike.consumed, rfl, rfl, fun _ => hgoing⟩
  exact habreast.observe_eq operations

/-- A stream that breaks off in a payload with a fault, in one piece and in small ones. -/
theorem observe_eq_of_signals_pieces :
    let told : Announcement := ⟨"Pixel", ⟨.h264, 1280, 720⟩⟩
    let sent : Frame := ⟨⟨false, true, 7, 2⟩, [0xAB, 0xCD]⟩
    let bytes := 0 :: (told.encode ++ sent.encode ++ sent.encode.dropLast)
    let first : Feed := { script := [.data bytes, .fault (.ofKind .connectionReset)] }
    let second : Feed := {
      script := [.fault (.ofKind .interrupted), .data (bytes.take 70), .data [],
        .fault (.ofKind .interrupted), .data (bytes.drop 70), .fault (.ofKind .interrupted),
        .fault (.ofKind .connectionReset)]
      perRead := some ⟨3, by decide⟩ }
    let operations : List Operation := [.handshake, .next, .iterate, .next, .close]
    (start first {} 2).observe operations = (start second {} 2).observe operations ∧
      ((start first {} 2).performAll operations).2.phase = .failed ∧
      framesIn ((start second {} 2).performAll operations).1 = 1 := by
  intro told sent bytes first second operations
  have hsignals : first.signals = second.signals := by decide +kernel
  have hcalm : first.Calm := ⟨rfl, by decide +kernel⟩
  have hcalm' : second.Calm := ⟨rfl, by decide +kernel⟩
  refine ⟨observe_eq_of_signals hsignals rfl rfl hcalm hcalm' {} 2 operations, ?_, ?_⟩
  · decide +kernel
  · decide +kernel

end Session

end Screencast
