/-
What the steps of a session do to it.

A session that still holds its channel makes a step over it (`openStream_eq`,
`pull_eq`): it goes on, over a sequel of the channel, or it ends. `Ended` says
what ending changes, and in particular that the channel is closed once and let
go of. On a channel that nobody cancels, the handshake and the frames of a
session are those in the signals of its channel (`openStream_finds`,
`pull_finds`).
-/
import Screencast.Session
import Screencast.Proofs.Handshake
import Screencast.Proofs.Intake

namespace Screencast.Session

open Feed

/-! ## Views -/

@[simp] theorem feed_withFeed (session : Session) (feed : Feed) :
    (session.withFeed feed).feed = feed := rfl

@[simp] theorem phase_withFeed (session : Session) (feed : Feed) :
    (session.withFeed feed).phase = session.phase := rfl

/-- What is known of the device. -/
def known (session : Session) : Option Announcement × Option Probe :=
  (session.announcement, session.probe)

/-- What a session has left to read. That is nothing, once it has let go of its channel. -/
def intake (session : Session) : Intake :=
  (session.reader.getD { limit := 0, finished := true }).over session.feed

/-- A session that holds its channel is as its reader and the channel are. -/
theorem withIntake_intake {session : Session} (h : session.reader.isSome = true) :
    session.withIntake session.intake = session := by
  obtain ⟨feed, _ | reader, settings, phase, announcement, probe⟩ := session
  · cases h
  · rfl

/-- The session counts what its reader has delivered. -/
theorem framesRead_eq (session : Session) : session.framesRead = session.intake.delivered := by
  unfold framesRead intake
  cases session.reader with
  | none => rfl
  | some reader => rfl

/-- To start a session leaves its channel as it is, but for a report. -/
theorem feed_start (feed : Feed) (settings : Handshake.Settings) (limit : Nat) :
    (start feed settings limit).feed = feed ∨
      ∃ notice, (start feed settings limit).feed = feed.note notice := by
  unfold start
  dsimp only
  split
  · next fault _ => exact .inr ⟨.closerUnavailable fault, rfl⟩
  · exact .inl rfl

@[simp] theorem signals_start (feed : Feed) (settings : Handshake.Settings) (limit : Nat) :
    (start feed settings limit).feed.signals = feed.signals := by
  rcases feed_start feed settings limit with hfeed | ⟨notice, hfeed⟩
  · rw [hfeed]
  · rw [hfeed]
    rfl

theorem start_sequel (feed : Feed) (settings : Handshake.Settings) (limit : Nat) :
    Sequel feed (start feed settings limit).feed := by
  rcases feed_start feed settings limit with hfeed | ⟨notice, hfeed⟩
  · rw [hfeed]
  · rw [hfeed]
    exact .note feed notice

theorem start_waits (feed : Feed) (settings : Handshake.Settings) (limit : Nat) :
    (start feed settings limit).feed.waits = feed.waits := by
  rcases feed_start feed settings limit with hfeed | ⟨notice, hfeed⟩
  · rw [hfeed]
  · rw [hfeed]
    rfl

/-! ## The ways to end -/

/-- What a session is that has let go of a channel, in a terminal phase. It knows what it knew. -/
structure Ended (known : Option Announcement × Option Probe) (phase : Phase) (feed : Feed)
    (after : Session) : Prop where
  phase_eq : after.phase = phase
  reader : after.reader = none
  known_eq : after.known = known
  closes : after.feed.history.closes = feed.history.closes + 1
  total : after.feed.total = feed.total
  signals : after.feed.signals = feed.signals
  cancelled : after.isCancelled = feed.cancelled

theorem close_spec (feed : Feed) :
    feed.close.total = feed.total ∧ feed.close.history.closes = feed.history.closes + 1 ∧
      feed.close.signals = feed.signals ∧ feed.close.cancelled = feed.cancelled := by
  unfold Feed.close
  dsimp only
  split
  · simp [Feed.total, Feed.note, Feed.record, Happening.taken, Happening.closings, Feed.signals]
  · simp [Feed.total, Feed.record, Happening.taken, Happening.closings, Feed.signals]

/-- A session that holds its channel lets go of it. -/
theorem release_of_reader {session : Session} {reader : Reader}
    (h : session.reader = some reader) (phase : Phase) :
    session.release phase =
      { session with phase, reader := none, feed := session.feed.close.note (.released phase) } := by
  rw [release, h]

/-- A session that has let go of its channel only changes its phase. -/
theorem release_of_none {session : Session} (h : session.reader = none) (phase : Phase) :
    session.release phase = { session with phase } := by
  rw [release, h]

@[simp] theorem phase_release (session : Session) (phase : Phase) :
    (session.release phase).phase = phase := by
  unfold release
  split
  · rfl
  · rfl

/-- Whatever the session was, it holds no channel any more. -/
@[simp] theorem reader_release (session : Session) (phase : Phase) :
    (session.release phase).reader = none := by
  unfold release
  split
  · rfl
  · assumption

theorem release_ended {session : Session} (h : session.reader.isSome = true) (phase : Phase) :
    Ended session.known phase session.feed (session.release phase) := by
  obtain ⟨reader, hreader⟩ := Option.isSome_iff_exists.mp h
  obtain ⟨htotal, hcloses, hsignals, hcancelled⟩ := close_spec session.feed
  have hnote := Sequel.note session.feed.close (.released phase)
  rw [release_of_reader hreader]
  exact ⟨rfl, rfl, rfl, hnote.closes.trans hcloses, hnote.total.trans htotal, hsignals, hcancelled⟩

/-- A session that is over stays as it is when it is closed. -/
theorem close_of_terminal {session : Session} (h : session.phase.isTerminal = true)
    (hreader : session.reader = none) : session.close = session := by
  rw [close, if_pos h, release_of_none hreader]

theorem close_of_open {session : Session} (h : session.phase.isTerminal = false) :
    session.close = session.release .closed := by
  rw [close, if_neg (by simp [h])]

/-- What is reported just before is no part of the end. -/
theorem release_note_ended (session : Session) (h : session.reader.isSome = true)
    (notice : Notice) (phase : Phase) :
    Ended session.known phase session.feed ((session.note notice).release phase) := by
  have hheld : (session.note notice).reader.isSome = true := h
  have hended := release_ended hheld phase
  have hnote := Sequel.note session.feed notice
  exact ⟨hended.phase_eq, hended.reader, hended.known_eq,
    by rw [hended.closes]; exact congrArg (· + 1) hnote.closes,
    hended.total.trans hnote.total, hended.signals, hended.cancelled⟩

theorem fail_fst (session : Session) (failure : Failure) :
    (session.fail failure).1 = if session.isCancelled then .closed else failure := rfl

theorem fail_ended (session : Session) (h : session.reader.isSome = true) (failure : Failure) :
    Ended session.known .failed session.feed (session.fail failure).2 :=
  release_note_ended session h _ .failed

theorem failWith_eq {α : Type} (session : Session) (failure : Failure) :
    session.failWith (α := α) failure =
      (.error (session.fail failure).1, (session.fail failure).2) := rfl

/-- A session that nobody cancelled fails for the reason it has. -/
theorem failWith_of_calm {α : Type} {session : Session} (h : session.isCancelled = false)
    (failure : Failure) :
    (session.failWith failure : Except Failure α × Session) =
      (.error failure, (session.fail failure).2) := by
  rw [failWith_eq, fail_fst, h]
  rfl

/-! ## What the steps do -/

/-- A session that has come to a phase and still holds its channel. -/
structure Open (session : Session) (phase : Phase) : Prop where
  phase_eq : session.phase = phase
  reader : session.reader.isSome = true

/-- A session holds its channel up to its end. -/
def Held (session : Session) : Prop := session.reader.isSome = !session.phase.isTerminal

theorem Held.reader_of_open {session : Session} (h : session.Held)
    (hopen : session.phase.isTerminal = false) : session.reader.isSome = true := by
  rw [h, hopen]
  rfl

theorem Held.reader_of_terminal {session : Session} (h : session.Held)
    (hterminal : session.phase.isTerminal = true) : session.reader = none := by
  rw [Held, hterminal] at h
  simpa using h

/-- A session that goes on after a frame was asked for holds its channel. -/
theorem Held.withIntake {session : Session} (hopen : session.phase.isTerminal = false)
    (intake : Intake) : (session.withIntake intake).Held := by
  rw [Held, Session.withIntake, hopen]
  rfl

/-- A session that ends holds its channel no longer. -/
theorem Held.of_release (session : Session) {phase : Phase} (h : phase.isTerminal = true) :
    (session.release phase).Held := by
  rw [Held, reader_release, phase_release, h]
  rfl

/-- The handshake of a session that holds its channel. -/
theorem openStream_eq {session : Session} (h : session.reader.isSome = true) :
    session.openStream =
      if session.isCancelled then session.failWith .closed
      else
        match Handshake.perform session.settings session.feed with
        | (.ok outcome, feed) => (.ok outcome.announcement, (session.withFeed feed).learn outcome)
        | (.error failure, feed) =>
          { session.withFeed feed with phase := .handshaking }.failWith failure := by
  obtain ⟨feed, _ | reader, settings, phase, announcement, probe⟩ := session
  · cases h
  · rfl

/-- The next frame of a session that holds its channel. -/
theorem pull_eq {session : Session} (h : session.reader.isSome = true) :
    session.pull =
      if session.isCancelled then session.failWith .closed
      else
        match session.intake.next with
        | (.ok (some frame), intake) => (.ok (some frame), session.withIntake intake)
        | (.ok none, intake) =>
          if (session.withIntake intake).isCancelled then
            (session.withIntake intake).failWith .closed
          else
            (.ok none,
              ((session.withIntake intake).note (.streamEnded intake.delivered)).release .closed)
        | (.error e, intake) => (session.withIntake intake).failWith (.ofWire e) := by
  obtain ⟨feed, _ | reader, settings, phase, announcement, probe⟩ := session
  · cases h
  · rfl

/-- What a step does that makes the handshake: it goes on to the frames, or the session fails. -/
theorem openStream_cases {session : Session} (h : session.reader.isSome = true) :
    (∃ outcome feed', Sequel session.feed feed' ∧
      session.openStream =
        (.ok outcome.announcement, (session.withFeed feed').learn outcome)) ∨
    (∃ failure feed' last, Sequel session.feed feed' ∧
      Ended session.known .failed feed' last ∧ session.openStream = (.error failure, last)) := by
  have hsequel := Handshake.perform_sequel session.settings session.feed
  rw [openStream_eq h]
  by_cases hcancelled : session.isCancelled = true
  · rw [if_pos hcancelled]
    exact .inr ⟨_, _, _, .refl _, fail_ended session h .closed, rfl⟩
  · rw [if_neg hcancelled]
    generalize Handshake.perform session.settings session.feed = run at hsequel ⊢
    obtain ⟨failure | outcome, feed'⟩ := run
    · exact .inr ⟨_, feed', _, hsequel,
        fail_ended { session.withFeed feed' with phase := .handshaking } h failure, rfl⟩
    · exact .inl ⟨outcome, feed', hsequel, rfl⟩

/-- What a step does that reads a frame: it gives one, or the session ends. -/
theorem pull_cases {session : Session} (h : session.reader.isSome = true) :
    (∃ frame intake', Sequel session.feed intake'.feed ∧
      session.pull = (.ok (some frame), session.withIntake intake')) ∨
    (∃ phase feed' last, Sequel session.feed feed' ∧ phase.isTerminal = true ∧
      Ended session.known phase feed' last ∧
      (session.pull = (.ok none, last) ∨ ∃ failure, session.pull = (.error failure, last))) := by
  have hsequel : Sequel session.feed session.intake.next.2.feed := session.intake.next_sequel
  rw [pull_eq h]
  by_cases hcancelled : session.isCancelled = true
  · rw [if_pos hcancelled]
    exact .inr ⟨.failed, _, _, .refl _, rfl, fail_ended session h .closed, .inr ⟨_, rfl⟩⟩
  · rw [if_neg hcancelled]
    generalize session.intake.next = run at hsequel ⊢
    obtain ⟨e | _ | frame, intake'⟩ := run
    · exact .inr ⟨.failed, intake'.feed, _, hsequel, rfl,
        fail_ended (session.withIntake intake') rfl _, .inr ⟨_, rfl⟩⟩
    · -- The request to cancel may have come with the end.
      dsimp only
      by_cases hlate : (session.withIntake intake').isCancelled = true
      · rw [if_pos hlate]
        exact .inr ⟨.failed, intake'.feed, _, hsequel, rfl,
          fail_ended (session.withIntake intake') rfl .closed, .inr ⟨_, rfl⟩⟩
      · rw [if_neg hlate]
        exact .inr ⟨.closed, intake'.feed, _, hsequel, rfl,
          release_note_ended (session.withIntake intake') rfl _ .closed, .inl rfl⟩
    · exact .inl ⟨frame, intake', hsequel, rfl⟩

/-! ## The handshake -/

/-- The handshake of a session is the handshake on the signals of its channel. -/
theorem openStream_finds (session : Session) (hcalm : session.feed.Calm)
    (hreader : session.reader.isSome = true)
    (hlifts : session.settings.expectProbe = true → session.feed.waits.lifts = true) :
    ∃ feed', Sequel session.feed feed' ∧
      feed'.signals = (Signal.handshake session.settings.expectProbe session.feed.signals).2 ∧
      match (Signal.handshake session.settings.expectProbe session.feed.signals).1 with
      | .ok outcome =>
        session.openStream = (.ok outcome.announcement, (session.withFeed feed').learn outcome)
      | .error failure => ∃ last, session.openStream = (.error failure, last) ∧
          Ended session.known .failed feed' last := by
  obtain ⟨hresult, hsignals, hsequel⟩ := Handshake.perform_finds hlifts
  refine ⟨_, hsequel, hsignals, ?_⟩
  have hcancelled : session.isCancelled = false := hcalm.1
  rw [← hresult, openStream_eq hreader, if_neg (by simp [hcancelled])]
  generalize Handshake.perform session.settings session.feed = run at hsequel ⊢
  obtain ⟨failure | outcome, feed'⟩ := run
  · -- Nobody has cancelled in the meantime, so the failure is reported as it is.
    have hcalm' : feed'.cancelled = false := (hsequel.calm hcalm).1
    dsimp only
    rw [failWith_of_calm (by exact hcalm')]
    exact ⟨_, rfl, fail_ended { session.withFeed feed' with phase := .handshaking } hreader failure⟩
  · rfl

/-! ## The frames -/

/-- The next frame of a session is the next one in the signals of its channel. -/
theorem pull_finds (session : Session) (hcalm : session.feed.Calm)
    (hreader : session.reader.isSome = true) (hopen : session.intake.finished = false) :
    ∃ feed', Sequel session.feed feed' ∧
      feed'.signals = (Signal.frame session.intake.limit session.feed.signals).2 ∧
      match (Signal.frame session.intake.limit session.feed.signals).1 with
      | .ok (some frame) =>
        session.pull = (.ok (some frame), session.withIntake
          { session.intake with feed := feed', delivered := session.intake.delivered + 1 })
      | .ok none => ∃ last, session.pull = (.ok none, last) ∧
          Ended session.known .closed feed' last
      | .error e => ∃ last, session.pull = (.error (.ofWire e), last) ∧
          Ended session.known .failed feed' last := by
  obtain ⟨feed', hsequel, hsignals, hnext⟩ := Intake.next_eq hopen
  have hcancelled : session.isCancelled = false := hcalm.1
  have hcalm' : feed'.cancelled = false := (hsequel.calm hcalm).1
  refine ⟨feed', hsequel, hsignals, ?_⟩
  rw [pull_eq hreader, if_neg (by simp [hcancelled]), hnext]
  rw [show session.intake.feed.signals = session.feed.signals from rfl]
  rcases (Signal.frame session.intake.limit session.feed.signals).1 with e | _ | frame
  · dsimp only
    rw [failWith_of_calm (by exact hcalm')]
    exact ⟨_, rfl, fail_ended (session.withIntake { session.intake with feed := feed', finished := true })
      rfl _⟩
  · dsimp only
    rw [if_neg (by simp [isCancelled, withIntake, hcalm'])]
    exact ⟨_, rfl, release_note_ended
      (session.withIntake { session.intake with feed := feed', finished := true }) rfl _ .closed⟩
  · rfl

theorem next_of_streaming {session : Session} (h : session.phase = .streaming) :
    session.next = session.pull := by
  rw [next, h]

theorem next_of_terminal {session : Session} (h : session.phase.isTerminal = true) :
    session.next = (.ok none, session) := by
  unfold next
  cases hphase : session.phase with
  | closed | failed => rfl
  | connected | handshaking | streaming =>
    rw [hphase] at h
    cases h

end Screencast.Session
