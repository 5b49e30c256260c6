/-
The books that a session keeps.

A session that was started over a channel and has answered some operations
accounts for all of them: as long as it is only connected it has asked nothing
of its channel, as long as it gives frames it has counted those that it gave,
and it has closed its channel once if it is over and not at all before. One
operation keeps these accounts (`Accounts.perform`), so they are right after any
sequence of operations (`performAll_lifecycle`).
-/
import Screencast.Proofs.Session.Operation
import Screencast.Proofs.Session.Step

namespace Screencast.Session

open Feed

/-! ## What the handshake learned -/

/-- A session that is about to make a handshake, which will succeed with the given outcome. -/
structure Learns (session : Session) (outcome : Handshake.Outcome) : Prop where
  phase_eq : session.phase = .connected
  perform_eq : (Handshake.perform session.settings session.feed).1 = .ok outcome

theorem known_openStream {session opened : Session} {told : Announcement}
    (hphase : session.phase = .connected) (h : session.openStream = (.ok told, opened)) :
    ∃ outcome, session.Learns outcome ∧ told = outcome.announcement ∧
      opened.known = (some outcome.announcement, some outcome.probe) := by
  obtain ⟨-, -, outcome, feed', hperform, htold, rfl⟩ := openStream_eq_ok h
  exact ⟨outcome, ⟨hphase, congrArg Prod.fst hperform⟩, htold, rfl⟩

theorem known_pull {session : Session} (h : session.reader.isSome = true) :
    session.pull.2.known = session.known := by
  rcases hpull : session.pull with ⟨failure | _ | frame, last⟩
  · exact (pull_eq_end h hpull nofun).2.1
  · exact (pull_eq_end h hpull nofun).2.1
  · obtain ⟨-, intake', -, rfl⟩ := pull_eq_frame hpull
    rfl

theorem known_next {session : Session} (h : session.Lawful)
    (hopen : session.phase.isTerminal = false) :
    session.next.2.known = session.known ∨ ∃ outcome, session.Learns outcome ∧
      session.next.2.known = (some outcome.announcement, some outcome.probe) := by
  rcases next_cases h hopen with
    ⟨opened, hopens, heq⟩ | ⟨failure, last, hconnected, hfailed, heq⟩
  · have hpull := known_pull hopens.streaming.reader
    rw [heq, hpull]
    cases hopens with
    | already => exact .inl rfl
    | made hconnected hopened =>
      obtain ⟨outcome, hlearns, -, hknown⟩ := known_openStream hconnected.phase_eq hopened
      exact .inr ⟨outcome, hlearns, hknown⟩
  · obtain ⟨-, hknown, -⟩ := openStream_eq_error hconnected.reader hfailed
    rw [heq]
    exact .inl hknown

theorem known_handshake {session : Session} (h : session.Lawful)
    (hopen : session.phase.isTerminal = false) :
    session.handshake.2.known = session.known ∨ ∃ outcome, session.Learns outcome ∧
      session.handshake.2.known = (some outcome.announcement, some outcome.probe) := by
  rcases h.connected_or_streaming hopen with hconnected | hstreaming
  · rw [handshake_of_connected hconnected.phase_eq]
    rcases hopened : session.openStream with ⟨failure | told, opened⟩
    · obtain ⟨-, hknown, -⟩ := openStream_eq_error hconnected.reader hopened
      exact .inl hknown
    · obtain ⟨outcome, hlearns, -, hknown⟩ := known_openStream hconnected.phase_eq hopened
      exact .inr ⟨outcome, hlearns, hknown⟩
  · obtain ⟨told, heq⟩ := handshake_of_streaming h hstreaming.phase_eq
    rw [heq]
    exact .inl rfl

/-- **Only a handshake that succeeds changes what is known of the device.** -/
theorem known_perform {session : Session} (h : session.Lawful) (operation : Operation) :
    (session.perform operation).2.known = session.known ∨ ∃ outcome, session.Learns outcome ∧
      (session.perform operation).2.known = (some outcome.announcement, some outcome.probe) := by
  cases hterminal : session.phase.isTerminal with
  | true => exact .inl (h.held.perform_stays hterminal operation).known
  | false =>
    cases operation with
    | handshake => exact known_handshake h hterminal
    | next | iterate => exact known_next h hterminal
    | close => exact .inl (known_release session _)
    | cancel => exact .inl rfl

/-! ## One operation -/

theorem framesIn_append (answered : List Answer) (answer : Answer) :
    framesIn (answered ++ [answer]) = framesIn answered + framesIn [answer] := by
  rw [framesIn, framesIn, framesIn, List.filterMap_append, List.length_append]

/-- An item holds the frame that it was made of. -/
theorem frame?_yielded (answer : Except Failure (Option Frame)) :
    (Answer.yielded (item answer)).frame? = (Answer.gave answer).frame? := by
  rcases answer with failure | _ | frame <;> rfl

/-- A session over the channel `origin` that has answered with `answered`. -/
structure Accounts (origin : Feed) (answered : List Answer) (session : Session) : Prop where
  lawful : session.Lawful
  fresh : session.phase = .connected → session.known = (none, none) ∧ origin.Idle session.feed
  delivered : session.phase.isTerminal = false → session.intake.delivered = framesIn answered

namespace Accounts

variable {origin : Feed} {answered : List Answer} {session : Session}

theorem start {feed : Feed} (h : feed.history.closes = 0) (settings : Handshake.Settings)
    (limit : Nat) : Accounts feed [] (start feed settings limit) where
  lawful := start_lawful h settings limit
  fresh := by
    intro _
    refine ⟨rfl, ?_⟩
    rcases feed_start feed settings limit with hfeed | ⟨notice, hfeed⟩
    · rw [hfeed]
    · rw [hfeed]
      exact .note feed notice
  delivered _ := rfl

/-- Of a session that is over only its channel is accounted for. -/
theorem of_terminal {last : Session} (hlawful : last.Lawful)
    (hterminal : last.phase.isTerminal = true) : Accounts origin answered last where
  lawful := hlawful
  fresh hphase := by rw [hphase] at hterminal; cases hterminal
  delivered hopen := by rw [hterminal] at hopen; cases hopen

/-- A session that gives frames accounts for those that it has counted. -/
theorem of_streaming {last : Session} (hlawful : last.Lawful) (hphase : last.phase = .streaming)
    (hdelivered : last.intake.delivered = framesIn answered) : Accounts origin answered last where
  lawful := hlawful
  fresh hconnected := by rw [hphase] at hconnected; cases hconnected
  delivered _ := hdelivered

theorem handshake (h : Accounts origin answered session)
    (hopen : session.phase.isTerminal = false) :
    Accounts origin (answered ++ [.told session.handshake.1]) session.handshake.2 := by
  have hlawful := handshake_lawful h.lawful
  have hcount : session.intake.delivered = framesIn (answered ++ [.told session.handshake.1]) := by
    rw [framesIn_append, h.delivered hopen]
    rfl
  rcases h.lawful.connected_or_streaming hopen with hconnected | hstreaming
  · rw [handshake_of_connected hconnected.phase_eq] at hlawful hcount ⊢
    rcases hopened : session.openStream with ⟨failure | told, opened⟩
    · rw [hopened] at hlawful
      obtain ⟨hfailed, -, -⟩ := openStream_eq_error hconnected.reader hopened
      exact of_terminal hlawful (by rw [hfailed]; rfl)
    · rw [hopened] at hlawful hcount
      have hopens : session.Opens opened := .made hconnected hopened
      exact of_streaming hlawful hopens.streaming.phase_eq (hopens.delivered_eq.trans hcount)
  · obtain ⟨told, heq⟩ := handshake_of_streaming h.lawful hstreaming.phase_eq
    rw [heq] at hcount ⊢
    exact of_streaming h.lawful hstreaming.phase_eq hcount

/-- A frame that is given is counted, whatever form the answer has that holds it. -/
theorem next (h : Accounts origin answered session) (hopen : session.phase.isTerminal = false)
    {answer : Answer} (hanswer : answer.frame? = (Answer.gave session.next.1).frame?) :
    Accounts origin (answered ++ [answer]) session.next.2 := by
  have hlawful := next_lawful h.lawful
  have hframes : framesIn [answer] = framesIn [.gave session.next.1] := by
    rw [framesIn, framesIn, List.filterMap_cons, List.filterMap_cons, hanswer]
  rcases next_cases h.lawful hopen with
    ⟨opened, hopens, heq⟩ | ⟨failure, last, hconnected, hfailed, heq⟩
  · rw [heq] at hlawful hframes ⊢
    rcases hpull : opened.pull with ⟨failure | _ | frame, last⟩
    · rw [hpull] at hlawful
      exact of_terminal hlawful (pull_eq_end hopens.streaming.reader hpull nofun).1
    · rw [hpull] at hlawful
      exact of_terminal hlawful (pull_eq_end hopens.streaming.reader hpull nofun).1
    · rw [hpull] at hlawful hframes
      obtain ⟨-, intake', hnext, rfl⟩ := pull_eq_frame hpull
      obtain ⟨-, hcounted, -⟩ := Intake.next_eq_frame hnext
      refine of_streaming hlawful hopens.streaming.phase_eq ?_
      rw [framesIn_append, hframes, ← h.delivered hopen, ← hopens.delivered_eq]
      exact hcounted
  · rw [heq] at hlawful ⊢
    obtain ⟨hterminal, -, -⟩ := openStream_eq_error hconnected.reader hfailed
    exact of_terminal hlawful (by rw [hterminal]; rfl)

/-- **One operation keeps the accounts.** -/
theorem perform (h : Accounts origin answered session) (operation : Operation) :
    Accounts origin (answered ++ [(session.perform operation).1])
      (session.perform operation).2 := by
  cases hterminal : session.phase.isTerminal with
  | true =>
    obtain ⟨-, hphase⟩ := perform_of_terminal hterminal operation
    exact of_terminal (perform_lawful h.lawful operation) (by rw [hphase, hterminal])
  | false =>
    cases operation with
    | handshake => exact h.handshake hterminal
    | next => exact h.next hterminal rfl
    | iterate => exact h.next hterminal (frame?_yielded session.next.1)
    | close =>
      refine of_terminal (close_lawful h.lawful) ?_
      show session.close.phase.isTerminal = true
      rw [close_of_open hterminal, phase_release]
      rfl
    | cancel =>
      have hcount := h.delivered hterminal
      refine ⟨cancel_lawful h.lawful, ?_, ?_⟩
      · intro hphase
        obtain ⟨hunknown, hidle⟩ := h.fresh hphase
        exact ⟨hunknown, hidle.trans (.cancel session.feed)⟩
      · intro _
        rw [framesIn_append]
        exact hcount

theorem performAll (h : Accounts origin answered session) (operations : List Operation) :
    Accounts origin (answered ++ (session.performAll operations).1)
      (session.performAll operations).2 := by
  induction operations generalizing answered session with
  | nil => simpa [Session.performAll] using h
  | cons operation rest ih =>
    have hlater := ih (h.perform operation)
    rw [List.append_assoc] at hlater
    exact hlater

/-- What is known of the device stays known. -/
theorem known_performAll (h : Accounts origin answered session)
    (hknown : session.announcement.isSome = true) (operations : List Operation) :
    (session.performAll operations).2.known = session.known := by
  induction operations generalizing answered session with
  | nil => rfl
  | cons operation rest ih =>
    rcases known_perform h.lawful operation with hsame | ⟨outcome, hlearns, -⟩
    · have hstill : (session.perform operation).2.announcement = session.announcement :=
        congrArg Prod.fst hsame
      exact (ih (h.perform operation) (by rw [hstill, hknown])).trans hsame
    · -- Whoever is about to make its handshake knows nothing yet.
      obtain ⟨hunknown, -⟩ := h.fresh hlearns.phase_eq
      have hnone : session.announcement = none := congrArg Prod.fst hunknown
      rw [hnone] at hknown
      cases hknown

end Accounts

/-! ## The life of a session -/

/-- The life of a session over the channel `origin`, as far as it has come when it has answered with
`answered`. -/
structure Lifecycle (origin : Feed) (answered : List Answer) (session : Session) : Prop where
  settled : session.phase ≠ .handshaking
  /-- While it is only connected, nothing was read and nothing is known. -/
  connected : session.phase = .connected →
    origin.Idle session.feed ∧ session.announcement = none ∧ session.probe = none
  streaming : session.phase = .streaming →
    session.announcement.isSome = true ∧ session.probe.isSome = true
  /-- The reader is there until the session ends. -/
  held : session.reader.isSome = !session.phase.isTerminal
  /-- The channel is closed once, when the session ends. -/
  closes : session.feed.history.closes = if session.phase.isTerminal then 1 else 0
  /-- Nothing follows the end: whatever is asked is answered at once. -/
  terminal : session.phase.isTerminal = true → ∀ later,
    (session.performAll later).1 = later.map Operation.idle ∧
      Stays session (session.performAll later).2
  together : session.announcement.isSome = session.probe.isSome
  /-- The announcement and the probe come of a handshake that succeeds. -/
  learned : ∀ operation,
    (session.perform operation).2.announcement = session.announcement ∧
      (session.perform operation).2.probe = session.probe ∨
    ∃ outcome, session.Learns outcome ∧
      (session.perform operation).2.announcement = some outcome.announcement ∧
      (session.perform operation).2.probe = some outcome.probe
  /-- Once known, they stay. -/
  kept : session.announcement.isSome = true → ∀ later,
    (session.performAll later).2.announcement = session.announcement ∧
      (session.performAll later).2.probe = session.probe
  framesRead : session.framesRead = if session.phase.isTerminal then 0 else framesIn answered
  /-- Letting go of the session closes the channel, unless that was done before. -/
  dropped : session.close.feed.history.closes = 1

theorem Accounts.lifecycle {origin : Feed} {answered : List Answer} {session : Session}
    (h : Accounts origin answered session) : Lifecycle origin answered session where
  settled := h.lawful.settled
  connected := by
    intro hphase
    obtain ⟨hunknown, hidle⟩ := h.fresh hphase
    exact ⟨hidle, Prod.mk.inj hunknown⟩
  streaming := by
    intro hphase
    have hopened := h.lawful.opened hphase
    exact ⟨hopened, h.lawful.together.symm.trans hopened⟩
  held := h.lawful.held
  closes := h.lawful.closes
  terminal hterminal later :=
    ⟨answers_of_terminal hterminal later, h.lawful.held.performAll_stays hterminal later⟩
  together := h.lawful.together
  learned := by
    intro operation
    rcases known_perform h.lawful operation with hsame | ⟨outcome, hlearns, hknown⟩
    · exact .inl (Prod.mk.inj hsame)
    · exact .inr ⟨outcome, hlearns, Prod.mk.inj hknown⟩
  kept hknown later := Prod.mk.inj (h.known_performAll hknown later)
  framesRead := by
    cases hterminal : session.phase.isTerminal with
    | true =>
      rw [Session.framesRead, h.lawful.held.reader_of_terminal hterminal]
      rfl
    | false =>
      rw [framesRead_eq, h.delivered hterminal]
      rfl
  dropped := by
    have hlawful := close_lawful h.lawful
    refine hlawful.closes_of_terminal ?_
    rw [close, phase_release]
    split
    · assumption
    · rfl

/-- **The life of a session.** Whatever is asked of it, in whatever order, and whatever its channel
does: it is between two phases of its life, it knows the announcement and the probe from the one
successful handshake on, it counts the frames that it gave, it closes its channel when it ends and
at no other time, and after that it leaves the channel alone. -/
theorem performAll_lifecycle {feed : Feed} (h : feed.history.closes = 0)
    (settings : Handshake.Settings) (limit : Nat) (operations : List Operation) :
    Lifecycle feed ((start feed settings limit).performAll operations).1
      ((start feed settings limit).performAll operations).2 :=
  ((Accounts.start h settings limit).performAll operations).lifecycle

/-- A session that is cancelled after its second frame, over a channel that has a third. -/
theorem performAll_lifecycle_cancelled :
    let told : Announcement := ⟨"Pixel", ⟨.h264, 1280, 720⟩⟩
    let sent : Frame := ⟨⟨false, true, 7, 2⟩, [0xAB, 0xCD]⟩
    let feed : Feed := {
      script := [.data (told.encode ++ sent.encode), .fault (.ofKind .interrupted),
        .data (sent.encode ++ sent.encode)]
      perRead := some ⟨7, by decide⟩ }
    let operations : List Operation :=
      [.handshake, .next, .iterate, .cancel, .handshake, .next, .iterate, .close]
    let run := (start feed { expectProbe := false } 2).performAll operations
    Lifecycle feed run.1 run.2 ∧ run.2.phase = .failed ∧ framesIn run.1 = 2 ∧
      run.2.framesRead = 0 ∧ run.2.announcement = some told := by
  intro told sent feed operations run
  have hlifecycle : Lifecycle feed run.1 run.2 :=
    performAll_lifecycle (by decide) { expectProbe := false } 2 operations
  refine ⟨hlifecycle, ?_, ?_, ?_, ?_⟩
  · decide +kernel
  · decide +kernel
  · decide +kernel
  · decide +kernel

end Screencast.Session
