/-
The life of a session.

A session can be put together in ways that no steps lead to: over, with a reader
still in hand, or giving frames without a handshake. It is lawful if it is as it
can be between two steps: not in the middle of its handshake, with its reader as
long as it is not over and no longer, knowing the announcement and the probe
together and both once it gives frames, and with a channel that has been closed
once if the session is over, and not at all before. Every step keeps this
(`handshake_lawful`, `next_lawful` and so on), and so does whatever a sink does
to the session that feeds it (`undergoAll_lawful`).
-/
import Screencast.Delivery
import Screencast.Proofs.Session

namespace Screencast

namespace Feed

/-- How a feed compares with what it was before something was reported on it, or the session over it
cancelled. -/
structure Marked (before after : Feed) : Prop where
  script : after.script = before.script
  perRead : after.perRead = before.perRead
  closes : after.history.closes = before.history.closes
  cancelled : before.cancelled = true → after.cancelled = true

namespace Marked

theorem refl (feed : Feed) : Marked feed feed := ⟨rfl, rfl, rfl, id⟩

theorem trans {first second third : Feed} (h : Marked first second) (h' : Marked second third) :
    Marked first third where
  script := h'.script.trans h.script
  perRead := h'.perRead.trans h.perRead
  closes := h'.closes.trans h.closes
  cancelled hc := h'.cancelled (h.cancelled hc)

theorem record (feed : Feed) {happening : Happening} (h : happening.closings = 0) :
    Marked feed (feed.record happening) where
  script := rfl
  perRead := rfl
  closes := by simp [Feed.record, h]
  cancelled := id

theorem cancel (feed : Feed) : Marked feed feed.cancel where
  script := script_cancel feed
  perRead := perRead_cancel feed
  closes := closes_cancel feed
  cancelled _ := cancelled_cancel feed

end Marked

end Feed

namespace Session

open Feed

/-! ## What sinks do to sessions -/

theorem undergo_marked (session : Session) (effect : Sink.Effect) :
    ∃ feed', Marked session.feed feed' ∧ session.undergo effect = session.withFeed feed' := by
  cases effect with
  | note notice => exact ⟨_, .record session.feed rfl, rfl⟩
  | cancel => exact ⟨_, .cancel session.feed, rfl⟩
  | testify name event => exact ⟨_, .record session.feed rfl, rfl⟩

/-- A sink can only mark the channel of the session that feeds it. -/
theorem undergoAll_marked (session : Session) (effects : List Sink.Effect) :
    ∃ feed', Marked session.feed feed' ∧ session.undergoAll effects = session.withFeed feed' := by
  induction effects generalizing session with
  | nil => exact ⟨session.feed, .refl _, rfl⟩
  | cons effect rest ih =>
    obtain ⟨feed', hmarked, hfirst⟩ := session.undergo_marked effect
    obtain ⟨feed'', hmarked', hrest⟩ := ih (session.withFeed feed')
    refine ⟨feed'', hmarked.trans hmarked', ?_⟩
    rw [undergoAll, List.foldl_cons, hfirst]
    exact hrest

@[simp] theorem phase_undergoAll (session : Session) (effects : List Sink.Effect) :
    (session.undergoAll effects).phase = session.phase := by
  obtain ⟨feed', -, h⟩ := session.undergoAll_marked effects
  rw [h, phase_withFeed]

/-- A sink neither takes the channel away nor moves the session on. -/
theorem Open.undergoAll {session : Session} {phase : Phase} (h : session.Open phase)
    (effects : List Sink.Effect) : (session.undergoAll effects).Open phase := by
  obtain ⟨feed', -, heq⟩ := session.undergoAll_marked effects
  rw [heq]
  exact ⟨h.phase_eq, h.reader⟩

/-- A request to cancel is never taken back. -/
theorem isCancelled_undergoAll {session : Session} (h : session.isCancelled = true)
    (effects : List Sink.Effect) : (session.undergoAll effects).isCancelled = true := by
  obtain ⟨feed', hmarked, heq⟩ := session.undergoAll_marked effects
  rw [heq]
  exact hmarked.cancelled h

/-! ## What follows a step -/

/-- A session that gives a frame goes on. -/
theorem open_of_next_frame {session session' : Session} (h : session.Open .streaming)
    {frame : Frame} (hnext : session.next = (.ok (some frame), session')) :
    session'.Open .streaming := by
  rw [next_of_streaming h.phase_eq] at hnext
  rcases pull_cases h.reader with
    ⟨frame, intake', -, heq⟩ | ⟨phase, feed', last, -, hterminal, hended, heq | ⟨failure, heq⟩⟩
  · cases heq.symm.trans hnext
    exact ⟨h.phase_eq, rfl⟩
  · cases heq.symm.trans hnext
  · cases heq.symm.trans hnext

/-- Any answer but a frame ends the session. -/
theorem isTerminal_of_next {session session' : Session} (h : session.Open .streaming)
    {answer : Except Failure (Option Frame)} (hnext : session.next = (answer, session'))
    (hend : ∀ frame, answer ≠ .ok (some frame)) : session'.phase.isTerminal = true := by
  rw [next_of_streaming h.phase_eq] at hnext
  rcases pull_cases h.reader with
    ⟨frame, intake', -, heq⟩ | ⟨phase, feed', last, -, hterminal, hended, heq | ⟨failure, heq⟩⟩
  · cases heq.symm.trans hnext
    exact absurd rfl (hend frame)
  · cases heq.symm.trans hnext
    rw [hended.phase_eq, hterminal]
  · cases heq.symm.trans hnext
    rw [hended.phase_eq, hterminal]

/-- A session that has been cancelled gives nothing more. -/
theorem pull_of_cancelled {session : Session} (h : session.isCancelled = true) :
    session.pull = (.error .closed, (session.fail .closed).2) := by
  rw [pull, if_pos h, failWith_eq, fail_fst, if_pos h]

/-- A request to cancel outlives a failure. -/
theorem isCancelled_fail {session : Session} (h : session.reader.isSome = true)
    (failure : Failure) : (session.fail failure).2.isCancelled = session.isCancelled :=
  (fail_ended session h failure).cancelled

/-! ## Lawful sessions -/

/-- A session as it is between two steps. -/
structure Lawful (session : Session) : Prop where
  settled : session.phase ≠ .handshaking
  held : session.Held
  /-- The announcement and the probe are known together. -/
  together : session.known.1.isSome = session.known.2.isSome
  opened : session.phase = .streaming → session.announcement.isSome = true
  closes : session.feed.history.closes = if session.phase.isTerminal then 1 else 0

theorem Lawful.open_of_phase {session : Session} (h : session.Lawful) {phase : Phase}
    (hphase : session.phase = phase) (hopen : phase.isTerminal = false) : session.Open phase :=
  ⟨hphase, h.held.reader_of_open (by rw [hphase, hopen])⟩

/-- A session that is over has closed its channel once. -/
theorem Lawful.closes_of_terminal {session : Session} (h : session.Lawful)
    (hterminal : session.phase.isTerminal = true) : session.feed.history.closes = 1 := by
  rw [h.closes, if_pos hterminal]

theorem Lawful.closes_of_open {session : Session} (h : session.Lawful)
    (hopen : session.phase.isTerminal = false) : session.feed.history.closes = 0 := by
  rw [h.closes, if_neg (by simp [hopen])]

/-- What does not close the channel keeps a session lawful. -/
theorem Lawful.withFeed {session : Session} (h : session.Lawful) {feed' : Feed}
    (hcloses : feed'.history.closes = session.feed.history.closes) :
    (session.withFeed feed').Lawful :=
  ⟨h.settled, h.held, h.together, h.opened, hcloses.trans h.closes⟩

/-- A session that ends over a channel that was open is lawful. -/
theorem Ended.lawful {known : Option Announcement × Option Probe} {phase : Phase} {feed : Feed}
    {last : Session} (h : Ended known phase feed last) (hphase : phase.isTerminal = true)
    (htogether : known.1.isSome = known.2.isSome) (hcloses : feed.history.closes = 0) :
    last.Lawful where
  settled hsettled := by
    rw [← h.phase_eq, hsettled] at hphase
    cases hphase
  held := by
    rw [Held, h.reader, h.phase_eq, hphase]
    rfl
  together := by rw [h.known_eq, htogether]
  opened hopened := by
    rw [← h.phase_eq, hopened] at hphase
    cases hphase
  closes := by rw [h.closes, hcloses, h.phase_eq, if_pos hphase]

theorem start_lawful {feed : Feed} (h : feed.history.closes = 0) (settings : Handshake.Settings)
    (limit : Nat) : (start feed settings limit).Lawful where
  settled := nofun
  held := rfl
  together := rfl
  opened := nofun
  closes := (start_sequel feed settings limit).closes.trans h

theorem openStream_lawful {session : Session} (h : session.Lawful)
    (hphase : session.phase = .connected) : session.openStream.2.Lawful := by
  have hopen := h.open_of_phase hphase rfl
  have hcloses := h.closes_of_open (by rw [hphase]; rfl)
  rcases openStream_cases hopen.reader with
    ⟨outcome, feed', hsequel, heq⟩ | ⟨failure, feed', last, hsequel, hended, heq⟩
  · rw [heq]
    exact ⟨nofun, hopen.reader, rfl, fun _ => rfl, hsequel.closes.trans hcloses⟩
  · rw [heq]
    exact hended.lawful rfl h.together (hsequel.closes.trans hcloses)

theorem pull_lawful {session : Session} (h : session.Lawful)
    (hphase : session.phase = .streaming) : session.pull.2.Lawful := by
  have hopen := h.open_of_phase hphase rfl
  have hcloses := h.closes_of_open (by rw [hphase]; rfl)
  rcases pull_cases hopen.reader with
    ⟨frame, intake', hsequel, heq⟩ | ⟨phase, feed', last, hsequel, hterminal, hended, heq⟩
  · rw [heq]
    exact ⟨h.settled, .withIntake (by rw [hphase]; rfl) intake', h.together, h.opened,
      hsequel.closes.trans h.closes⟩
  · have hlast : session.pull.2 = last := by
      rcases heq with heq | ⟨failure, heq⟩
      · rw [heq]
      · rw [heq]
    rw [hlast]
    exact hended.lawful hterminal h.together (hsequel.closes.trans hcloses)

theorem handshake_lawful {session : Session} (h : session.Lawful) :
    session.handshake.2.Lawful := by
  unfold handshake
  cases hphase : session.phase with
  | connected => exact openStream_lawful h hphase
  | handshaking => exact absurd hphase h.settled
  | streaming =>
    dsimp only
    split
    · exact h
    · exact h
  | closed => exact h
  | failed => exact h

/-- After its handshake a session gives what it would have given without it. -/
theorem handshake_cases {session : Session} (h : session.Lawful) :
    (∃ told last, session.handshake = (.ok told, last) ∧ last.Open .streaming ∧
      session.next = last.next) ∨
    (∃ failure last, session.handshake = (.error failure, last) ∧
      last.phase.isTerminal = true) := by
  unfold handshake next
  cases hphase : session.phase with
  | connected =>
    have hopen := h.open_of_phase hphase rfl
    rcases openStream_cases hopen.reader with
      ⟨outcome, feed', -, heq⟩ | ⟨failure, feed', last, -, hended, heq⟩
    · exact .inl ⟨_, _, heq, ⟨rfl, hopen.reader⟩, by rw [heq]; rfl⟩
    · exact .inr ⟨failure, last, heq, by rw [hended.phase_eq]; rfl⟩
  | handshaking => exact absurd hphase h.settled
  | streaming =>
    obtain ⟨told, htold⟩ := Option.isSome_iff_exists.mp (h.opened hphase)
    refine .inl ⟨told, session, ?_, h.open_of_phase hphase rfl, ?_⟩
    · simp only [htold]
    · rw [hphase]
  | closed => exact .inr ⟨.closed, session, rfl, by rw [hphase]; rfl⟩
  | failed => exact .inr ⟨.closed, session, rfl, by rw [hphase]; rfl⟩

theorem next_lawful {session : Session} (h : session.Lawful) : session.next.2.Lawful := by
  unfold next
  cases hphase : session.phase with
  | connected =>
    -- The handshake is made first, and a frame is read only if it succeeds.
    have hopen := openStream_lawful h hphase
    dsimp only
    rcases openStream_cases (h.open_of_phase hphase rfl).reader with
      ⟨outcome, feed', -, heq⟩ | ⟨failure, feed', last, -, -, heq⟩
    · rw [heq] at hopen ⊢
      exact pull_lawful hopen rfl
    · rw [heq] at hopen ⊢
      exact hopen
  | handshaking => exact absurd hphase h.settled
  | streaming => exact pull_lawful h hphase
  | closed => exact h
  | failed => exact h

theorem lawful_of_next {session session' : Session} (h : session.Lawful)
    {answer : Except Failure (Option Frame)} (hnext : session.next = (answer, session')) :
    session'.Lawful := by
  have hlawful := next_lawful h
  rwa [hnext] at hlawful

theorem close_lawful {session : Session} (h : session.Lawful) : session.close.Lawful := by
  cases hterminal : session.phase.isTerminal with
  | true =>
    rw [close_of_terminal hterminal (h.held.reader_of_terminal hterminal)]
    exact h
  | false =>
    rw [close_of_open hterminal]
    exact (release_ended (h.held.reader_of_open hterminal) .closed).lawful rfl h.together
      (h.closes_of_open hterminal)

theorem cancel_lawful {session : Session} (h : session.Lawful) : session.cancel.Lawful :=
  h.withFeed (closes_cancel session.feed)

theorem fail_lawful {session : Session} (h : session.Lawful)
    (hopen : session.phase.isTerminal = false) (failure : Failure) :
    (session.fail failure).2.Lawful :=
  (fail_ended session (h.held.reader_of_open hopen) failure).lawful rfl h.together
    (h.closes_of_open hopen)

theorem undergoAll_lawful {session : Session} (h : session.Lawful)
    (effects : List Sink.Effect) : (session.undergoAll effects).Lawful := by
  obtain ⟨feed', hmarked, heq⟩ := session.undergoAll_marked effects
  rw [heq]
  exact h.withFeed hmarked.closes

end Session

end Screencast
