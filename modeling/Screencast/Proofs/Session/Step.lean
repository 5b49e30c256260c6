/-
What an answer says of the step that gave it.

A session that goes on after a step was not cancelled when the step began, and
has taken what its channel gave it (`openStream_eq_ok`, `pull_eq_frame`). One
that ends has let go of its channel without asking it for anything more, and if
it has been cancelled by then, it ends with `closed` and in no other way
(`openStream_eq_error`, `pull_eq_end`).
-/
import Screencast.Proofs.Delivery
import Screencast.Proofs.Feed.Idle

namespace Screencast

namespace Session

open Feed

/-! ## The ways to end -/

@[simp] theorem known_release (session : Session) (phase : Phase) :
    (session.release phase).known = session.known := by
  unfold release
  split
  · rfl
  · rfl

@[simp] theorem settings_release (session : Session) (phase : Phase) :
    (session.release phase).settings = session.settings := by
  unfold release
  split
  · rfl
  · rfl

theorem release_idle (session : Session) (phase : Phase) :
    session.feed.Idle (session.release phase).feed := by
  unfold release
  split
  · exact (Idle.close session.feed).trans (.note _ _)
  · exact .refl _

theorem close_idle (session : Session) : session.feed.Idle session.close.feed :=
  release_idle session _

theorem fail_idle (session : Session) (failure : Failure) :
    session.feed.Idle (session.fail failure).2.feed := by
  have hnote := Idle.note session.feed
    (.sessionFailed (session.fail failure).1 session.phase)
  exact hnote.trans (release_idle (session.note _) .failed)

/-- A failure ends the session. If it has been cancelled by then, it fails with `closed`. -/
theorem failWith_ends {α : Type} {session last : Session}
    (hreader : session.reader.isSome = true) {failure : Failure} {answer : Except Failure α}
    (h : session.failWith failure = (answer, last)) :
    last.phase = .failed ∧ last.known = session.known ∧ ∃ reported,
      answer = .error reported ∧ (last.isCancelled = true → reported = .closed) := by
  have hended := fail_ended session hreader failure
  have hreported := fail_fst session failure
  rw [failWith_eq] at h
  cases h
  refine ⟨hended.phase_eq, hended.known_eq, _, rfl, fun hcancelled => ?_⟩
  rw [hended.cancelled] at hcancelled
  rw [hreported, isCancelled, if_pos hcancelled]

/-! ## The handshake -/

/-- A session that is not over is connected or streaming, and holds its channel. -/
theorem Lawful.connected_or_streaming {session : Session} (h : session.Lawful)
    (hopen : session.phase.isTerminal = false) :
    session.Open .connected ∨ session.Open .streaming := by
  cases hphase : session.phase with
  | connected => exact .inl (h.open_of_phase hphase rfl)
  | handshaking => exact absurd hphase h.settled
  | streaming => exact .inr (h.open_of_phase hphase rfl)
  | closed | failed =>
    rw [hphase] at hopen
    cases hopen

theorem handshake_of_connected {session : Session} (hphase : session.phase = .connected) :
    session.handshake = session.openStream := by
  rw [handshake, hphase]

/-- A session that is streaming knows what was announced. -/
theorem handshake_of_streaming {session : Session} (h : session.Lawful)
    (hphase : session.phase = .streaming) :
    ∃ told, session.handshake = (.ok told, session) := by
  obtain ⟨told, htold⟩ := Option.isSome_iff_exists.mp (h.opened hphase)
  exact ⟨told, by simp [handshake, hphase, htold]⟩

/-- A handshake that is made begins before a request to cancel. -/
theorem openStream_eq_ok {session opened : Session} {told : Announcement}
    (h : session.openStream = (.ok told, opened)) :
    session.isCancelled = false ∧ session.reader.isSome = true ∧ ∃ outcome feed',
      Handshake.perform session.settings session.feed = (.ok outcome, feed') ∧
      told = outcome.announcement ∧ opened = (session.withFeed feed').learn outcome := by
  unfold openStream failWith at h
  split at h
  · cases h
  · next hcalm =>
    dsimp only at h
    split at h
    · cases h
    · next reader hreader =>
      split at h
      · next outcome feed' hperform =>
        cases h
        exact ⟨by simpa using hcalm, by rw [hreader]; rfl, outcome, feed', hperform, rfl, rfl⟩
      · cases h

/-- A handshake that fails ends the session. -/
theorem openStream_eq_error {session last : Session} (hreader : session.reader.isSome = true)
    {failure : Failure} (h : session.openStream = (.error failure, last)) :
    last.phase = .failed ∧ last.known = session.known ∧
      (last.isCancelled = true → failure = .closed) := by
  -- In either case the session fails with what it has, before it or after its handshake.
  have hends {before : Session} (hheld : before.reader.isSome = true)
      (hknown : before.known = session.known) {cause : Failure}
      (hfailed : before.failWith cause = (Except.error (α := Announcement) failure, last)) :
      last.phase = .failed ∧ last.known = session.known ∧
        (last.isCancelled = true → failure = .closed) := by
    obtain ⟨hphase, hsame, reported, heq, hclosed⟩ := failWith_ends hheld hfailed
    cases heq
    exact ⟨hphase, hsame.trans hknown, hclosed⟩
  rw [openStream_eq hreader] at h
  split at h
  · exact hends hreader rfl h
  · split at h
    · cases h
    · next feed' hperform => exact hends (by exact hreader) (by rfl) h

/-! ## A frame -/

/-- A frame that is given is asked for before a request to cancel. -/
theorem pull_eq_frame {session last : Session} {frame : Frame}
    (h : session.pull = (.ok (some frame), last)) :
    session.isCancelled = false ∧ ∃ intake', session.intake.next = (.ok (some frame), intake') ∧
      last = session.withIntake intake' := by
  cases hreader : session.reader with
  | none =>
    unfold pull failWith at h
    rw [hreader] at h
    split at h
    · cases h
    · cases h
  | some reader =>
    rw [pull_eq (by rw [hreader]; rfl), failWith_eq] at h
    split at h
    · cases h
    · next hcalm =>
      split at h
      · next intake' hnext =>
        cases h
        exact ⟨by simpa using hcalm, intake', hnext, rfl⟩
      · split at h
        · cases h
        · cases h
      · cases h

/-- Any answer but a frame ends the session, and after a request to cancel only with `closed`. -/
theorem pull_eq_end {session last : Session} (hreader : session.reader.isSome = true)
    {answer : Except Failure (Option Frame)} (h : session.pull = (answer, last))
    (hend : ∀ frame, answer ≠ .ok (some frame)) :
    last.phase.isTerminal = true ∧ last.known = session.known ∧
      (last.isCancelled = true → answer = .error .closed ∧ last.phase = .failed) := by
  -- A failure is `closed` if the request has come by the time it is reported.
  have hends {before : Session} (hheld : before.reader.isSome = true)
      (hknown : before.known = session.known) {cause : Failure}
      (hrun : before.failWith cause = (answer, last)) :
      last.phase.isTerminal = true ∧ last.known = session.known ∧
        (last.isCancelled = true → answer = .error .closed ∧ last.phase = .failed) := by
    obtain ⟨hfailed, hsame, reported, rfl, hclosed⟩ := failWith_ends hheld hrun
    refine ⟨by rw [hfailed]; rfl, hsame.trans hknown, fun hcancelled => ?_⟩
    exact ⟨congrArg _ (hclosed hcancelled), hfailed⟩
  rw [pull_eq hreader] at h
  split at h
  · exact hends hreader rfl h
  · split at h
    · next frame intake' hnext =>
      cases h
      exact absurd rfl (hend frame)
    · next intake' hnext =>
      split at h
      · exact hends (by rfl) (by rfl) h
      · next hcalm =>
        -- The clean end is reached only if no request has come.
        cases h
        have hended := release_note_ended (session.withIntake intake') rfl
          (.streamEnded intake'.delivered) .closed
        refine ⟨by rw [hended.phase_eq]; rfl, hended.known_eq, fun hcancelled => ?_⟩
        rw [hended.cancelled] at hcancelled
        exact absurd hcancelled hcalm
    · next e intake' hnext => exact hends (by rfl) (by rfl) h

/-! ## The next frame -/

/-- A session whose handshake has been made, before its next frame is read. -/
inductive Opens (session : Session) : Session → Prop
  | already (hopen : session.Open .streaming) : Opens session session
  | made {told : Announcement} {opened : Session} (hopen : session.Open .connected)
      (hopened : session.openStream = (.ok told, opened)) : Opens session opened

namespace Opens

variable {session opened : Session}

theorem streaming (h : Opens session opened) : opened.Open .streaming := by
  cases h with
  | already hopen => exact hopen
  | made hopen hopened =>
    obtain ⟨-, -, outcome, feed', -, -, rfl⟩ := openStream_eq_ok hopened
    exact ⟨rfl, hopen.reader⟩

theorem phase_eq (h : Opens session opened) : opened.phase = .streaming := h.streaming.phase_eq

theorem lawful (h : Opens session opened) (hlawful : session.Lawful) : opened.Lawful := by
  cases h with
  | already => exact hlawful
  | made hconnected hopened =>
    have hopen := openStream_lawful hlawful hconnected.phase_eq
    rwa [hopened] at hopen

/-- The handshake leaves the reader as it is. -/
theorem reader_eq (h : Opens session opened) : opened.reader = session.reader := by
  cases h with
  | already => rfl
  | made _ hopened =>
    obtain ⟨-, -, outcome, feed', -, -, rfl⟩ := openStream_eq_ok hopened
    rfl

theorem delivered_eq (h : Opens session opened) :
    opened.intake.delivered = session.intake.delivered := by
  rw [← framesRead_eq, ← framesRead_eq, framesRead, framesRead, h.reader_eq]

theorem limit_eq (h : Opens session opened) : opened.intake.limit = session.intake.limit := by
  unfold intake
  rw [h.reader_eq]
  rfl

end Opens

/-- A session is asked for its next frame: the handshake fails, or a frame is read after it. -/
theorem next_cases {session : Session} (h : session.Lawful)
    (hopen : session.phase.isTerminal = false) :
    (∃ opened, Opens session opened ∧ session.next = opened.pull) ∨
      ∃ failure last, session.Open .connected ∧
        session.openStream = (.error failure, last) ∧ session.next = (.error failure, last) := by
  rcases h.connected_or_streaming hopen with hconnected | hstreaming
  · rw [next, hconnected.phase_eq]
    dsimp only
    rcases hopened : session.openStream with ⟨failure | told, opened⟩
    · exact .inr ⟨failure, opened, hconnected, rfl, rfl⟩
    · exact .inl ⟨opened, .made hconnected hopened, rfl⟩
  · exact .inl ⟨session, .already hstreaming, next_of_streaming hstreaming.phase_eq⟩

end Session

end Screencast
