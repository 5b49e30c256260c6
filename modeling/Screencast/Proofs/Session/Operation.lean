/-
Sequences of operations on a session.

Whoever holds a session asks it for the announcement and for frames, closes it
and cancels it, in any order. `perform` is one such operation and `performAll` a
sequence of them. Every operation keeps a session lawful (`perform_lawful`), and
so does every sequence. A session that is over answers every operation at once
(`answers_of_terminal`) and stays as it is, its channel left alone
(`Held.performAll_stays`).
-/
import Screencast.Proofs.Delivery
import Screencast.Proofs.Feed.Idle

namespace Screencast.Session

open Feed

/-! ## Operations -/

/-- Something that a session is asked. -/
inductive Operation
  | handshake
  | next
  /-- The next item, where the session is used as an iterator. -/
  | iterate
  | close
  | cancel
  deriving DecidableEq, Repr

/-- What a session answers. -/
inductive Answer
  | told (result : Except Failure Announcement)
  | gave (result : Except Failure (Option Frame))
  | yielded (item : Option (Except Failure Frame))
  | done
  deriving Repr

/-- A frame that was asked for, as an item of an iterator: the clean end is no item. -/
def item : Except Failure (Option Frame) → Option (Except Failure Frame)
  | .ok (some frame) => some (.ok frame)
  | .ok none => none
  | .error failure => some (.error failure)

/-- Does what is asked. -/
def perform (session : Session) : Operation → Answer × Session
  | .handshake => (.told session.handshake.1, session.handshake.2)
  | .next => (.gave session.next.1, session.next.2)
  | .iterate => (.yielded (item session.next.1), session.next.2)
  | .close => (.done, session.close)
  | .cancel => (.done, session.cancel)

/-- Does what is asked, one thing after another. -/
def performAll (session : Session) : List Operation → List Answer × Session
  | [] => ([], session)
  | operation :: rest =>
    let (answer, session) := session.perform operation
    let (later, session) := session.performAll rest
    (answer :: later, session)

/-- What a session answers that is over. -/
def Operation.idle : Operation → Answer
  | handshake => .told (.error .closed)
  | next => .gave (.ok none)
  | iterate => .yielded none
  | close | cancel => .done

/-- The frame in an answer. -/
def Answer.frame? : Answer → Option Frame
  | gave (.ok (some frame)) | yielded (some (.ok frame)) => some frame
  | gave _ | yielded _ | told _ | done => none

/-- The number of frames that were given. -/
def framesIn (answered : List Answer) : Nat := (answered.filterMap Answer.frame?).length

/-! ## Views -/

/-- What can be seen of a session. -/
structure View where
  phase : Phase
  announcement : Option Announcement
  probe : Option Probe
  framesRead : Nat
  /-- The bytes that were taken out of the channel. -/
  consumed : Nat
  deriving DecidableEq, Repr

/-- What can be seen of a session. -/
def view (session : Session) : View where
  phase := session.phase
  announcement := session.announcement
  probe := session.probe
  framesRead := session.framesRead
  consumed := session.feed.history.consumed

/-- What a session answers to operations, and what can be seen of it after each. -/
def observe (session : Session) : List Operation → List (Answer × View)
  | [] => []
  | operation :: rest =>
    let (answer, session) := session.perform operation
    (answer, session.view) :: session.observe rest

/-! ## Sequences -/

theorem performAll_cons (session : Session) (operation : Operation) (rest : List Operation) :
    session.performAll (operation :: rest) =
      ((session.perform operation).1 :: ((session.perform operation).2.performAll rest).1,
        ((session.perform operation).2.performAll rest).2) := rfl

/-- What every operation keeps, every sequence of operations keeps. -/
theorem performAll_induction {P : Session → Prop}
    (hstep : ∀ session operation, P session → P (session.perform operation).2)
    {session : Session} (h : P session) (operations : List Operation) :
    P (session.performAll operations).2 := by
  induction operations generalizing session with
  | nil => exact h
  | cons operation rest ih => exact ih (hstep session operation h)

theorem perform_lawful {session : Session} (h : session.Lawful) (operation : Operation) :
    (session.perform operation).2.Lawful := by
  cases operation with
  | handshake => exact handshake_lawful h
  | next | iterate => exact next_lawful h
  | close => exact close_lawful h
  | cancel => exact cancel_lawful h

theorem performAll_lawful {session : Session} (h : session.Lawful)
    (operations : List Operation) : (session.performAll operations).2.Lawful :=
  performAll_induction (P := Lawful) (fun _ operation h => perform_lawful h operation) h operations

/-! ## Sessions that are over -/

/-- A session to which nothing happened but requests to cancel. -/
structure Stays (before after : Session) : Prop where
  phase : after.phase = before.phase
  reader : after.reader = before.reader
  known : after.known = before.known
  idle : before.feed.Idle after.feed
  closes : after.feed.history.closes = before.feed.history.closes

namespace Stays

@[refl] theorem refl (session : Session) : Stays session session :=
  ⟨rfl, rfl, rfl, .refl _, rfl⟩

theorem trans {first second third : Session} (h : Stays first second) (h' : Stays second third) :
    Stays first third where
  phase := h'.phase.trans h.phase
  reader := h'.reader.trans h.reader
  known := h'.known.trans h.known
  idle := h.idle.trans h'.idle
  closes := h'.closes.trans h.closes

theorem cancel (session : Session) : Stays session session.cancel where
  phase := rfl
  reader := rfl
  known := rfl
  idle := .cancel session.feed
  closes := closes_cancel session.feed

theorem held {before after : Session} (h : Stays before after) (hheld : before.Held) :
    after.Held := by
  rw [Held, h.reader, h.phase]
  exact hheld

/-- Nothing is seen to change. -/
theorem view_eq {before after : Session} (h : Stays before after) : after.view = before.view := by
  obtain ⟨hannouncement, hprobe⟩ := Prod.mk.inj h.known
  simp only [view, framesRead, h.phase, h.reader, hannouncement, hprobe, h.idle.consumed]

end Stays

theorem handshake_of_terminal {session : Session} (h : session.phase.isTerminal = true) :
    session.handshake = (.error .closed, session) := by
  unfold handshake
  cases hphase : session.phase with
  | closed | failed => rfl
  | connected | handshaking | streaming =>
    rw [hphase] at h
    cases h

/-- A session that is over answers at once, and nothing takes it out of its phase. -/
theorem perform_of_terminal {session : Session} (h : session.phase.isTerminal = true)
    (operation : Operation) :
    (session.perform operation).1 = operation.idle ∧
      (session.perform operation).2.phase = session.phase := by
  cases operation with
  | handshake =>
    rw [perform, handshake_of_terminal h]
    exact ⟨rfl, rfl⟩
  | next | iterate =>
    rw [perform, next_of_terminal h]
    exact ⟨rfl, rfl⟩
  | close =>
    refine ⟨rfl, ?_⟩
    show session.close.phase = session.phase
    rw [close, phase_release, if_pos h]
  | cancel => exact ⟨rfl, rfl⟩

theorem answers_of_terminal {session : Session} (h : session.phase.isTerminal = true)
    (operations : List Operation) :
    (session.performAll operations).1 = operations.map Operation.idle := by
  induction operations generalizing session with
  | nil => rfl
  | cons operation rest ih =>
    obtain ⟨hanswer, hphase⟩ := perform_of_terminal h operation
    rw [performAll_cons, List.map_cons, hanswer, ih (by rw [hphase, h])]

/-- A session that is over and has let go of its channel leaves it alone. -/
theorem Held.perform_stays {session : Session} (hheld : session.Held)
    (h : session.phase.isTerminal = true) (operation : Operation) :
    Stays session (session.perform operation).2 := by
  cases operation with
  | handshake =>
    rw [perform, handshake_of_terminal h]
  | next | iterate =>
    rw [perform, next_of_terminal h]
  | close =>
    rw [perform, close_of_terminal h (hheld.reader_of_terminal h)]
  | cancel => exact .cancel session

/-- **A session that is over stays as it is.** -/
theorem Held.performAll_stays {session : Session} (hheld : session.Held)
    (h : session.phase.isTerminal = true) (operations : List Operation) :
    Stays session (session.performAll operations).2 := by
  induction operations generalizing session with
  | nil => exact .refl session
  | cons operation rest ih =>
    have hstays := hheld.perform_stays h operation
    exact hstays.trans (ih (hstays.held hheld) (by rw [hstays.phase, h]))

end Screencast.Session
