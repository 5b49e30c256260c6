/-
Requests to cancel.

A request may come between two operations or inside any read that one of them
makes. The operation that meets it either comes to what it was asked for, and
the session is then doomed: it refuses whatever it is asked for next
(`Doomed`). Or it is refused itself, and the session is dead (`Dead`). Either
way the channel is not touched again (`performAll_idle`). A session that is over
takes no notice of a request (`observe_cancel`).

There is one moment between these: a session that has come to its clean end
looks for a request for the last time, and only then lets go of its channel. A
request that comes in between is one that comes right after the end
(`pull_eq_none`).
-/
import Screencast.Proofs.Session.Step
import Screencast.Proofs.Session.Use

namespace Screencast.Session

open Feed

/-! ## Verdicts -/

/-- The operation makes a session give something that it has not given yet. -/
def Operation.asks (phase : Phase) : Operation → Bool
  | handshake => phase = .connected
  | next | iterate => true
  | close | cancel => false

/-- The answer of a session that will not go on. -/
def Operation.refusal : Operation → Answer
  | handshake => .told (.error .closed)
  | next => .gave (.error .closed)
  | iterate => .yielded (some (.error .closed))
  | close | cancel => .done

/-- The answer is what was asked for: an announcement, or one whole frame. -/
inductive Answer.Completes (limit : Nat) : Answer → Prop
  | told (announcement : Announcement) : Completes limit (.told (.ok announcement))
  | gave {frame : Frame} (h : frame.Accepted limit) : Completes limit (.gave (.ok (some frame)))
  | yielded {frame : Frame} (h : frame.Accepted limit) :
      Completes limit (.yielded (some (.ok frame)))
  | done : Completes limit .done

/-- A session that has failed, and answers whatever it is asked as one that is over. -/
structure Dead (session : Session) : Prop where
  failed : session.phase = .failed
  answers : ∀ later, (session.performAll later).1 = later.map Operation.idle

/-- A session that fails with `closed` when it is next asked for something, unless it is closed
before. -/
structure Doomed (session : Session) : Prop where
  going : session.phase.isTerminal = false
  refuses : ∀ (quiet : List Operation) (asking : Operation),
    (∀ operation ∈ quiet, operation ≠ .close ∧ operation.asks session.phase = false) →
      asking.asks session.phase = true →
        ((session.performAll quiet).2.perform asking).1 = asking.refusal ∧
          Dead ((session.performAll quiet).2.perform asking).2

/-- A request to cancel has come by the time an operation has been performed: before it, as the
operation itself, or inside one of its reads. -/
def Meets (session : Session) (operation : Operation) : Prop :=
  session.isCancelled = true ∨ operation = .cancel ∨
    (session.perform operation).2.feed.requests < session.feed.requests

theorem Dead.of_failed {session : Session} (h : session.phase = .failed) : Dead session where
  failed := h
  answers := answers_of_terminal (by rw [h]; rfl)

/-! ## Sessions that have been cancelled -/

section

variable {session : Session}

theorem perform_uses (session : Session) {operation : Operation} (h : operation ≠ .cancel) :
    Uses session.feed (session.perform operation).2.feed := by
  cases operation with
  | handshake => exact handshake_uses session
  | next | iterate => exact next_uses session
  | close => exact release_uses session _
  | cancel => exact absurd rfl h

/-- **A request that was met has cancelled the session.** -/
theorem Meets.isCancelled {operation : Operation} (h : session.Meets operation) :
    (session.perform operation).2.isCancelled = true := by
  by_cases hcancel : operation = .cancel
  · subst hcancel
    exact cancelled_cancel session.feed
  · obtain ⟨-, hmet⟩ := (session.perform_uses hcancel).requests
    rcases h with hbefore | hsame | hread
    · exact hmet (.inl hbefore)
    · exact absurd hsame hcancel
    · exact hmet (.inr hread)

theorem isCancelled_perform (h : session.isCancelled = true) (operation : Operation) :
    (session.perform operation).2.isCancelled = true :=
  Meets.isCancelled (.inl h)

theorem openStream_of_cancelled (h : session.isCancelled = true) :
    session.openStream = (.error .closed, (session.fail .closed).2) := by
  rw [openStream, if_pos h, failWith_eq, fail_fst, if_pos h]

/-- A session that has been cancelled is asked for its next frame in vain. -/
theorem next_of_cancelled (hlawful : session.Lawful) (hopen : session.phase.isTerminal = false)
    (h : session.isCancelled = true) :
    session.next = (.error .closed, (session.fail .closed).2) := by
  rcases hlawful.connected_or_streaming hopen with hconnected | hstreaming
  · rw [next, hconnected.phase_eq]
    dsimp only
    rw [openStream_of_cancelled h]
  · rw [next_of_streaming hstreaming.phase_eq, pull_of_cancelled h]

/-- No operation on a session that has been cancelled touches its channel. -/
theorem perform_idle (hlawful : session.Lawful) (h : session.isCancelled = true)
    (operation : Operation) : session.feed.Idle (session.perform operation).2.feed := by
  cases hterminal : session.phase.isTerminal with
  | true => exact (hlawful.held.perform_stays hterminal operation).idle
  | false =>
    cases operation with
    | handshake =>
      show session.feed.Idle session.handshake.2.feed
      rcases hlawful.connected_or_streaming hterminal with hconnected | hstreaming
      · rw [handshake_of_connected hconnected.phase_eq, openStream_of_cancelled h]
        exact fail_idle session .closed
      · obtain ⟨told, heq⟩ := handshake_of_streaming hlawful hstreaming.phase_eq
        rw [heq]
    | next | iterate =>
      show session.feed.Idle session.next.2.feed
      rw [next_of_cancelled hlawful hterminal h]
      exact fail_idle session .closed
    | close => exact close_idle session
    | cancel => exact .cancel session.feed

/-- **The channel of a session that has been cancelled is not touched again.** -/
theorem performAll_idle (hlawful : session.Lawful) (h : session.isCancelled = true)
    (operations : List Operation) : session.feed.Idle (session.performAll operations).2.feed := by
  induction operations generalizing session with
  | nil => exact .refl session.feed
  | cons operation rest ih =>
    have hfirst := perform_idle hlawful h operation
    have hrest := ih (perform_lawful hlawful operation) (isCancelled_perform h operation)
    exact hfirst.trans hrest

/-- A session that has been cancelled refuses what it is asked for. -/
theorem perform_refused (hlawful : session.Lawful) (hopen : session.phase.isTerminal = false)
    (h : session.isCancelled = true) {asking : Operation}
    (hasks : asking.asks session.phase = true) :
    (session.perform asking).1 = asking.refusal ∧
      (session.perform asking).2.phase = .failed := by
  have hfailed : (session.fail .closed).2.phase = .failed :=
    (fail_ended session (hlawful.held.reader_of_open hopen) .closed).phase_eq
  cases asking with
  | handshake =>
    have hphase : session.phase = .connected := by simpa [Operation.asks] using hasks
    rw [perform, handshake_of_connected hphase, openStream_of_cancelled h]
    exact ⟨rfl, hfailed⟩
  | next | iterate =>
    rw [perform, next_of_cancelled hlawful hopen h]
    exact ⟨rfl, hfailed⟩
  | close | cancel => cases hasks

/-- What asks for nothing keeps a session going that it does not close. -/
theorem phase_perform_of_quiet (hlawful : session.Lawful)
    (hopen : session.phase.isTerminal = false) {operation : Operation}
    (hclose : operation ≠ .close) (hquiet : operation.asks session.phase = false) :
    (session.perform operation).2.phase = session.phase := by
  cases operation with
  | handshake =>
    show session.handshake.2.phase = session.phase
    rcases hlawful.connected_or_streaming hopen with hconnected | hstreaming
    · rw [hconnected.phase_eq] at hquiet
      cases hquiet
    · obtain ⟨told, heq⟩ := handshake_of_streaming hlawful hstreaming.phase_eq
      rw [heq]
  | next | iterate => cases hquiet
  | close => exact absurd rfl hclose
  | cancel => rfl

/-- **A session that goes on after it has been cancelled is doomed.** -/
theorem Doomed.of_cancelled (hlawful : session.Lawful) (hopen : session.phase.isTerminal = false)
    (h : session.isCancelled = true) : Doomed session where
  going := hopen
  refuses quiet asking hquiet hasks := by
    induction quiet generalizing session with
    | nil =>
      obtain ⟨hanswer, hfailed⟩ := perform_refused hlawful hopen h hasks
      exact ⟨hanswer, .of_failed hfailed⟩
    | cons operation rest ih =>
      obtain ⟨⟨hclose, hfirst⟩, hrest⟩ := List.forall_mem_cons.mp hquiet
      have hphase := phase_perform_of_quiet hlawful hopen hclose hfirst
      rw [performAll_cons]
      refine ih (perform_lawful hlawful operation) ?_ (isCancelled_perform h operation) ?_ ?_
      · rw [hphase, hopen]
      · rw [hphase]
        exact hrest
      · rw [hphase, hasks]

end

/-! ## The operation that meets a request -/

/-- A frame that a session gives is whole, and small enough. -/
theorem accepted_of_pull {session last : Session} {frame : Frame}
    (h : session.pull = (.ok (some frame), last)) : frame.Accepted session.intake.limit := by
  obtain ⟨-, intake', hnext, -⟩ := pull_eq_frame h
  exact Intake.accepted_of_next hnext

/-- The next frame of a session that has been cancelled by the time it is given. -/
theorem next_met {session : Session} (hlawful : session.Lawful)
    (hopen : session.phase.isTerminal = false) (h : session.next.2.isCancelled = true) :
    (∃ frame, session.next.1 = .ok (some frame) ∧ frame.Accepted session.intake.limit ∧
        Doomed session.next.2) ∨
      session.next.1 = .error .closed ∧ Dead session.next.2 := by
  have hafter := next_lawful hlawful
  rcases next_cases hlawful hopen with
    ⟨opened, hopens, hnext⟩ | ⟨failure, last, hconnected, hopened, hnext⟩
  · rw [hnext] at h hafter ⊢
    rcases hpull : opened.pull with ⟨failure | _ | frame, last⟩
    -- Whatever but a frame ends the session; and it knows of the request, so it has failed.
    · rw [hpull] at h
      obtain ⟨hanswer, hfailed⟩ := (pull_eq_end hopens.streaming.reader hpull nofun).2.2 h
      exact .inr ⟨hanswer, .of_failed hfailed⟩
    · rw [hpull] at h
      obtain ⟨hanswer, -⟩ := (pull_eq_end hopens.streaming.reader hpull nofun).2.2 h
      cases hanswer
    · rw [hpull] at h hafter
      have haccepted := accepted_of_pull hpull
      obtain ⟨-, intake', -, rfl⟩ := pull_eq_frame hpull
      rw [hopens.limit_eq] at haccepted
      refine .inl ⟨frame, rfl, haccepted, .of_cancelled hafter ?_ h⟩
      show opened.phase.isTerminal = false
      rw [hopens.streaming.phase_eq]
      rfl
  · obtain ⟨hfailed, -, hclosed⟩ := openStream_eq_error hconnected.reader hopened
    rw [hnext] at h ⊢
    exact .inr ⟨congrArg _ (hclosed h), .of_failed hfailed⟩

/-- **The operation that meets a request to cancel** comes to what it was asked for and leaves the
session doomed, or it is refused and leaves the session dead. -/
theorem perform_met {session : Session} (hlawful : session.Lawful)
    (hopen : session.phase.isTerminal = false) {operation : Operation}
    (hclose : operation ≠ .close) (hmeets : session.Meets operation) :
    (session.perform operation).1.Completes session.intake.limit ∧
        Doomed (session.perform operation).2 ∨
      (session.perform operation).1 = operation.refusal ∧ Dead (session.perform operation).2 := by
  have hcancelled := hmeets.isCancelled
  have hafter := perform_lawful hlawful operation
  cases operation with
  | handshake =>
    show Answer.Completes _ (.told session.handshake.1) ∧ Doomed session.handshake.2 ∨
      Answer.told session.handshake.1 = .told (.error .closed) ∧ Dead session.handshake.2
    rcases hlawful.connected_or_streaming hopen with hconnected | hstreaming
    · rw [perform, handshake_of_connected hconnected.phase_eq] at hcancelled hafter
      rw [handshake_of_connected hconnected.phase_eq]
      rcases hopened : session.openStream with ⟨failure | told, opened⟩
      · rw [hopened] at hcancelled
        obtain ⟨hfailed, -, hclosed⟩ := openStream_eq_error hconnected.reader hopened
        refine .inr ⟨?_, .of_failed hfailed⟩
        rw [hclosed hcancelled]
      · rw [hopened] at hcancelled hafter
        have hopens := (Opens.made hconnected hopened).streaming
        exact .inl ⟨.told told, .of_cancelled hafter (by rw [hopens.phase_eq]; rfl) hcancelled⟩
    · -- The announcement is known already.
      obtain ⟨told, heq⟩ := handshake_of_streaming hlawful hstreaming.phase_eq
      rw [perform, heq] at hcancelled
      rw [heq]
      exact .inl ⟨.told told, .of_cancelled hlawful hopen hcancelled⟩
  | next =>
    show Answer.Completes _ (.gave session.next.1) ∧ Doomed session.next.2 ∨
      Answer.gave session.next.1 = .gave (.error .closed) ∧ Dead session.next.2
    rcases next_met hlawful hopen hcancelled with
      ⟨frame, hanswer, haccepted, hdoomed⟩ | ⟨hanswer, hdead⟩
    · rw [hanswer]
      exact .inl ⟨.gave haccepted, hdoomed⟩
    · rw [hanswer]
      exact .inr ⟨rfl, hdead⟩
  | iterate =>
    show Answer.Completes _ (.yielded (item session.next.1)) ∧ Doomed session.next.2 ∨
      Answer.yielded (item session.next.1) = .yielded (some (.error .closed)) ∧
        Dead session.next.2
    rcases next_met hlawful hopen hcancelled with
      ⟨frame, hanswer, haccepted, hdoomed⟩ | ⟨hanswer, hdead⟩
    · rw [hanswer]
      exact .inl ⟨.yielded haccepted, hdoomed⟩
    · rw [hanswer]
      exact .inr ⟨rfl, hdead⟩
  | close => exact absurd rfl hclose
  | cancel => exact .inl ⟨.done, .of_cancelled hafter hopen hcancelled⟩

/-! ## Sessions that are over -/

/-- What is seen of a session that is over, whatever it is asked. -/
theorem observe_of_terminal {session : Session} (hheld : session.Held)
    (h : session.phase.isTerminal = true) (operations : List Operation) :
    session.observe operations =
      operations.map fun operation => (operation.idle, session.view) := by
  induction operations generalizing session with
  | nil => rfl
  | cons operation rest ih =>
    obtain ⟨hanswer, -⟩ := perform_of_terminal h operation
    have hstays := hheld.perform_stays h operation
    have hover : (session.perform operation).2.phase.isTerminal = true := by rw [hstays.phase, h]
    have hrest := ih (hstays.held hheld) hover
    rw [hstays.view_eq] at hrest
    show ((session.perform operation).1, (session.perform operation).2.view) ::
      (session.perform operation).2.observe rest = _
    rw [hanswer, hstays.view_eq, hrest, List.map_cons]

/-- **A session that is over takes no notice of a request to cancel.** -/
theorem observe_cancel {session : Session} (hheld : session.Held)
    (h : session.phase.isTerminal = true) :
    session.cancel.view = session.view ∧
      ∀ operations, session.cancel.observe operations = session.observe operations := by
  have hstays := Stays.cancel session
  have hover : session.cancel.phase.isTerminal = true := h
  refine ⟨hstays.view_eq, fun operations => ?_⟩
  rw [observe_of_terminal (hstays.held hheld) hover, observe_of_terminal hheld h, hstays.view_eq]

/-! ## The last moment -/

/-- The second session is the first, but for the order in which things happened to its channel. -/
def Reordered (first second : Session) : Prop :=
  ∃ history : History, first.feed.history.latestFirst.Perm history.latestFirst ∧
    second = first.withFeed { first.feed with history }

theorem Reordered.refl (session : Session) : Reordered session session :=
  ⟨session.feed.history, .refl _, rfl⟩

/-- **To cancel a session and to have it let go of its channel comes to the same in either order**,
but for the order of the reports. -/
theorem release_cancel (session : Session) (phase : Phase) :
    Reordered (session.cancel.release phase) (session.release phase).cancel := by
  obtain ⟨⟨script, perRead, waits, closeFault, closerFault, cancelled, history⟩, reader, settings,
    before, announcement, probe⟩ := session
  cases cancelled with
  | true => cases reader <;> cases closeFault <;> exact .refl _
  | false =>
    cases reader with
    | none => exact .refl _
    | some reader =>
      -- The request is reported before the channel is closed, or after that.
      cases closeFault with
      | none => exact ⟨_, @List.perm_middle _ _ [_, _] _, rfl⟩
      | some fault => exact ⟨_, @List.perm_middle _ _ [_, _, _] _, rfl⟩

/-- A session that gives its clean end has looked for a request, and lets go of its channel then. A
request that comes in between leaves what one leaves that comes right after. -/
theorem pull_eq_none {session last : Session} (hopen : session.Open .streaming)
    (h : session.pull = (.ok none, last)) :
    ∃ held : Session, held.Open .streaming ∧ held.isCancelled = false ∧
      last = held.release .closed ∧ Reordered (held.cancel.release .closed) last.cancel := by
  rw [pull_eq hopen.reader] at h
  unfold failWith at h
  split at h
  · cases h
  · split at h
    · cases h
    · next intake _ =>
      split at h
      · cases h
      · next hcalm =>
        cases h
        have hheld : (session.withIntake intake).isCancelled = false := by simpa using hcalm
        exact ⟨(session.withIntake intake).note (.streamEnded intake.delivered),
          ⟨hopen.phase_eq, rfl⟩, hheld, rfl, release_cancel _ _⟩
    · cases h

end Screencast.Session
