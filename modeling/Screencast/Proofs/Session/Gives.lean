/-
The frames that a session gives, and where they leave it.

`Gives` follows a session through calls that are all answered with frames. Every
session gives some frames and then ends (`exists_gives`). While it gives frames
it goes on streaming, it has taken from its channel just the bytes of these
frames, and nobody cancels it unless its channel says so (`Gives.streams`).
-/
import Screencast.Proofs.Intake.Handover
import Screencast.Proofs.Session.Step

namespace Screencast.Session

open Feed

/-- A session answers call after call with these frames, and is left so. -/
inductive Gives : Session → List Frame → Session → Prop
  | nil (session : Session) : Gives session [] session
  | cons {session between last : Session} {frame : Frame} {frames : List Frame}
      (hnext : session.next = (.ok (some frame), between)) (h : Gives between frames last) :
      Gives session (frame :: frames) last

/-- The last answer of a session: a clean end, or a failure. -/
def endAnswer (ending : Except Failure Unit) : Except Failure (Option Frame) :=
  ending.map fun _ => none

/-- Every session gives some frames and then ends. -/
theorem exists_gives (session : Session) :
    ∃ frames last ending, Gives session frames last ∧ last.next.1 = endAnswer ending := by
  rcases hnext : session.next with ⟨failure | _ | frame, between⟩
  · exact ⟨[], session, .error failure, .nil session, by rw [hnext]; rfl⟩
  · exact ⟨[], session, .ok (), .nil session, by rw [hnext]; rfl⟩
  · have hlt := weight_next_lt hnext
    obtain ⟨frames, last, ending, hgives, hending⟩ := exists_gives between
    exact ⟨frame :: frames, last, ending, .cons hnext hgives, hending⟩
termination_by session.weight

/-- Frames are given one part after the other. -/
theorem Gives.split {session last : Session} {first second : List Frame}
    (h : Gives session (first ++ second) last) :
    ∃ between, Gives session first between ∧ Gives between second last := by
  induction first generalizing session with
  | nil => exact ⟨session, .nil session, h⟩
  | cons frame more ih =>
    cases h with
    | cons hnext hmore =>
      obtain ⟨between, hfirst, hsecond⟩ := ih hmore
      exact ⟨between, .cons hnext hfirst, hsecond⟩

/-- How a session that is streaming has gone on by so many frames. -/
structure Streams (session : Session) (frames : List Frame) (last : Session) : Prop where
  streaming : last.Open .streaming
  known : last.known = session.known
  took : Took session.feed last.feed (frames.flatMap Frame.encode)
  sequel : Sequel session.feed last.feed

/-- **A session that gives frames takes their bytes and goes on.** -/
theorem Gives.streams {session last : Session} {frames : List Frame}
    (h : Gives session frames last) (hopen : session.Open .streaming) :
    Streams session frames last := by
  induction h with
  | nil session => exact ⟨hopen, rfl, .nil _, .refl _⟩
  | @cons session between last frame frames hnext hmore ih =>
    rw [next_of_streaming hopen.phase_eq] at hnext
    obtain ⟨-, intake', hread, rfl⟩ := pull_eq_frame hnext
    have htook : Took session.feed intake'.feed frame.encode := Intake.next_took hread
    have hsequel : Sequel session.feed intake'.feed := by
      have hsequel := session.intake.next_sequel
      rwa [hread] at hsequel
    have hrest := ih ⟨hopen.phase_eq, rfl⟩
    exact ⟨hrest.streaming, hrest.known, htook.append hrest.took, hsequel.trans hrest.sequel⟩

/-- A session over a calm channel has not been cancelled when it ends. -/
theorem isCancelled_next {session : Session} (hopen : session.Open .streaming)
    (hcalm : session.feed.Calm) : session.next.2.isCancelled = false := by
  rw [next_of_streaming hopen.phase_eq]
  rcases pull_cases hopen.reader with ⟨frame, intake', hsequel, hpull⟩ |
    ⟨phase, feed', last, hsequel, -, hended, hpull⟩
  · rw [hpull]
    exact (hsequel.calm hcalm).1
  · have hlast : session.pull.2 = last := by
      rcases hpull with hpull | ⟨failure, hpull⟩
      · rw [hpull]
      · rw [hpull]
    rw [hlast, hended.cancelled]
    exact (hsequel.calm hcalm).1

end Screencast.Session
