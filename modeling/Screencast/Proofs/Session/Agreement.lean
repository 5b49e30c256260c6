/-
Relations between sessions that answer alike.

Everything that is asked of a session comes down to four steps: it makes its
handshake, takes a frame, is closed or is cancelled. A relation that these steps
keep, and under which they come to the same, is an agreement (`Agreement`).
Sessions in agreement answer every operation alike (`Agreement.perform`), and
nothing that is seen of them ever differs (`Agreement.observe_eq`).
-/
import Screencast.Proofs.Session.Operation
import Screencast.Proofs.Session.Step

namespace Screencast.Session

/-- Two steps of sessions come to the same and leave them related. -/
structure Agree {α : Type} (R : Session → Session → Prop) (run run' : α × Session) : Prop where
  result : run.1 = run'.1
  last : R run.2 run'.2

theorem Agree.exists_eq {α : Type} {R : Session → Session → Prop} {run run' : α × Session}
    (h : Agree R run run') {result : α} {first : Session} (hrun : run = (result, first)) :
    ∃ second, run' = (result, second) ∧ R first second := by
  subst hrun
  exact ⟨run'.2, Prod.ext h.result.symm rfl, h.last⟩

/-- A relation between sessions of which the same is seen, kept by every step that comes to the same
on both. -/
structure Agreement (R : Session → Session → Prop) : Prop where
  view_eq : ∀ {first second}, R first second → first.view = second.view
  openStream : ∀ {first second}, R first second → first.phase = .connected →
    Agree R first.openStream second.openStream
  pull : ∀ {first second}, R first second → first.phase.isTerminal = false →
    first.phase ≠ .connected → Agree R first.pull second.pull
  close : ∀ {first second}, R first second → R first.close second.close
  cancel : ∀ {first second}, R first second → R first.cancel second.cancel

namespace Agreement

variable {R : Session → Session → Prop} {first second : Session}

theorem phase_eq (hR : Agreement R) (h : R first second) : first.phase = second.phase :=
  congrArg View.phase (hR.view_eq h)

theorem handshake (hR : Agreement R) (h : R first second) :
    Agree R first.handshake second.handshake := by
  have htold : first.announcement = second.announcement :=
    congrArg View.announcement (hR.view_eq h)
  unfold Session.handshake
  rw [← hR.phase_eq h, ← htold]
  cases hphase : first.phase with
  | connected => exact hR.openStream h hphase
  | handshaking | streaming =>
    dsimp only
    cases first.announcement with
    | some told => exact ⟨rfl, h⟩
    | none => exact ⟨rfl, h⟩
  | closed | failed => exact ⟨rfl, h⟩

theorem next (hR : Agreement R) (h : R first second) : Agree R first.next second.next := by
  unfold Session.next
  rw [← hR.phase_eq h]
  cases hphase : first.phase with
  | connected =>
    have hopen := hR.openStream h hphase
    rcases hopened : first.openStream with ⟨result, opened⟩
    obtain ⟨opened', hopened', hlast⟩ := hopen.exists_eq hopened
    dsimp only
    rw [hopened']
    cases result with
    | error failure => exact ⟨rfl, hlast⟩
    | ok told =>
      -- Whoever has made the handshake is streaming, so a frame can be taken.
      have hstreaming : opened.phase = .streaming := by
        obtain ⟨-, -, outcome, feed', -, -, rfl⟩ := openStream_eq_ok hopened
        rfl
      exact hR.pull hlast (by rw [hstreaming]; rfl) (by rw [hstreaming]; nofun)
  | handshaking | streaming => exact hR.pull h (by rw [hphase]; rfl) (by rw [hphase]; nofun)
  | closed | failed => exact ⟨rfl, h⟩

/-- **Sessions in agreement answer alike, and stay in agreement.** -/
theorem perform (hR : Agreement R) (h : R first second) (operation : Operation) :
    Agree R (first.perform operation) (second.perform operation) := by
  cases operation with
  | handshake =>
    obtain ⟨hresult, hlast⟩ := hR.handshake h
    exact ⟨congrArg Answer.told hresult, hlast⟩
  | next =>
    obtain ⟨hresult, hlast⟩ := hR.next h
    exact ⟨congrArg Answer.gave hresult, hlast⟩
  | iterate =>
    obtain ⟨hresult, hlast⟩ := hR.next h
    exact ⟨congrArg (fun result => Answer.yielded (item result)) hresult, hlast⟩
  | close => exact ⟨rfl, hR.close h⟩
  | cancel => exact ⟨rfl, hR.cancel h⟩

theorem performAll (hR : Agreement R) (h : R first second) (operations : List Operation) :
    R (first.performAll operations).2 (second.performAll operations).2 := by
  induction operations generalizing first second with
  | nil => exact h
  | cons operation rest ih => exact ih (hR.perform h operation).last

/-- **Nothing that is seen of sessions in agreement ever differs.** -/
theorem observe_eq (hR : Agreement R) (h : R first second) (operations : List Operation) :
    first.observe operations = second.observe operations := by
  induction operations generalizing first second with
  | nil => rfl
  | cons operation rest ih =>
    obtain ⟨hanswer, hlast⟩ := hR.perform h operation
    show ((first.perform operation).1, (first.perform operation).2.view) ::
        (first.perform operation).2.observe rest =
      ((second.perform operation).1, (second.perform operation).2.view) ::
        (second.perform operation).2.observe rest
    rw [hanswer, hR.view_eq hlast, ih hlast]

end Agreement

end Screencast.Session
