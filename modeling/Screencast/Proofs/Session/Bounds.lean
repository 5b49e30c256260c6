/-
Bounded waits, in a session.

What a session has asked of its channel is told by its phase (`Stage`): nothing
before the handshake is made, a course that may be read on from while it is
streaming, and one of the courses once it is over. Every operation keeps the
session at its stage or takes it to a later one (`Stage.perform`), and so does a
delivery into any sink (`Stage.deliver`). So whatever is made of a session
(`Runs`), it bounds no wait but those for the probe byte (`bounds_only_probe`).
-/
import Screencast.Proofs.Handshake.Bounds
import Screencast.Proofs.Session.Step
import Screencast.Sink.Tally

namespace Screencast

namespace Session

open Feed Handshake

/-! ## Stages -/

/-- What a session has asked of its channel since that was `feed`, by the phase that it is in. -/
inductive Stage (settings : Settings) (feed : Feed) (session : Session) : Prop
  | connected (hopen : session.Open .connected) (hsettings : session.settings = settings)
      (hscript : session.feed.script = feed.script)
      (hasked : session.feed.history.asked = feed.history.asked)
  | streaming (hopen : session.Open .streaming) {asked : List Happening}
      (hcourse : Reading settings feed.script asked)
      (hasked : session.feed.history.asked = feed.history.asked ++ asked)
  | ended (hphase : session.phase.isTerminal = true) {asked : List Happening}
      (hcourse : Asked settings feed.script asked)
      (hasked : session.feed.history.asked = feed.history.asked ++ asked)

@[simp] theorem asked_release (session : Session) (phase : Phase) :
    (session.release phase).feed.history.asked = session.feed.history.asked := by
  unfold release
  split
  · exact (asked_note _ _).trans (asked_close _)
  · rfl

@[simp] theorem asked_fail (session : Session) (failure : Failure) :
    (session.fail failure).2.feed.history.asked = session.feed.history.asked :=
  (asked_release _ _).trans (asked_note _ _)

namespace Stage

variable {settings : Settings} {feed : Feed} {session : Session}

/-- At every stage a session has taken one of the courses. -/
theorem asked (h : Stage settings feed session) :
    ∃ asked, session.feed.history.asked = feed.history.asked ++ asked ∧
      Asked settings feed.script asked := by
  cases h with
  | connected _ _ _ hasked => exact ⟨[], hasked.trans (List.append_nil _).symm, .nothing⟩
  | streaming _ hcourse hasked => exact ⟨_, hasked, .reading hcourse⟩
  | ended _ hcourse hasked => exact ⟨_, hasked, hcourse⟩

/-- A session that is over, and has asked for nothing more, is at its last stage. -/
theorem ended_of_asked_eq (h : Stage settings feed session) {last : Session}
    (hphase : last.phase.isTerminal = true)
    (hasked : last.feed.history.asked = session.feed.history.asked) :
    Stage settings feed last := by
  obtain ⟨course, hcourse, htaken⟩ := h.asked
  exact .ended hphase htaken (hasked.trans hcourse)

theorem start (settings : Settings) (feed : Feed) (limit : Nat) :
    Stage settings feed (Session.start feed settings limit) := by
  rcases feed_start feed settings limit with hfeed | ⟨notice, hfeed⟩
  · exact .connected ⟨rfl, rfl⟩ rfl (congrArg Feed.script hfeed)
      (congrArg (·.history.asked) hfeed)
  · refine .connected ⟨rfl, rfl⟩ rfl ?_ ?_
    · rw [hfeed]
      rfl
    · rw [hfeed, asked_note]

/-- What neither reads the channel nor asks it for bounded waits leaves a session at its stage. -/
theorem withFeed (h : Stage settings feed session) {feed' : Feed}
    (hscript : feed'.script = session.feed.script)
    (hasked : feed'.history.asked = session.feed.history.asked) :
    Stage settings feed (session.withFeed feed') := by
  cases h with
  | connected hopen hsettings hscript' hasked' =>
    exact .connected ⟨hopen.phase_eq, hopen.reader⟩ hsettings (hscript.trans hscript')
      (hasked.trans hasked')
  | streaming hopen hcourse hasked' =>
    exact .streaming ⟨hopen.phase_eq, hopen.reader⟩ hcourse (hasked.trans hasked')
  | ended hphase hcourse hasked' => exact .ended hphase hcourse (hasked.trans hasked')

theorem note (h : Stage settings feed session) (notice : Notice) :
    Stage settings feed (session.note notice) := h.withFeed rfl (asked_note _ _)

theorem cancel (h : Stage settings feed session) : Stage settings feed session.cancel :=
  h.withFeed (script_cancel _) (asked_cancel _)

/-- A session that ends is over with the course that it has taken. -/
theorem release (h : Stage settings feed session) {phase : Phase}
    (hterminal : phase.isTerminal = true) : Stage settings feed (session.release phase) :=
  h.ended_of_asked_eq (by rw [phase_release, hterminal]) (asked_release _ _)

theorem close (h : Stage settings feed session) : Stage settings feed session.close := by
  unfold Session.close
  split
  · next hterminal => exact h.release hterminal
  · exact h.release rfl

theorem fail (h : Stage settings feed session) (failure : Failure) :
    Stage settings feed (session.fail failure).2 := (h.note _).release rfl

/-! ## Operations -/

theorem openStream (h : Stage settings feed session) (hphase : session.phase = .connected) :
    Stage settings feed session.openStream.2 := by
  cases h with
  | streaming hopen => cases hphase.symm.trans hopen.phase_eq
  | ended hphase' => rw [hphase] at hphase'; cases hphase'
  | connected hopen hsettings hscript hasked =>
    obtain ⟨course, htaken, hcourse, hreading⟩ := perform_asked session.settings session.feed
    rw [hasked] at htaken
    rw [hsettings, hscript] at hcourse hreading
    rw [hsettings] at htaken
    rw [openStream_eq hopen.reader]
    split
    · exact fail (.connected hopen hsettings hscript hasked) .closed
    · rw [hsettings]
      split
      · next outcome feed' hperform =>
        rw [hperform] at htaken hreading
        exact .streaming ⟨rfl, hopen.reader⟩ (hreading outcome rfl) htaken
      · next failure feed' hperform =>
        rw [hperform] at htaken
        -- The failure is what the handshake came to, and nothing is asked for after it.
        refine .ended ?_ hcourse ((asked_fail _ _).trans htaken)
        exact congrArg Phase.isTerminal (phase_release _ _)

theorem handshake (h : Stage settings feed session) :
    Stage settings feed session.handshake.2 := by
  unfold Session.handshake
  split
  · next hphase => exact h.openStream hphase
  · split
    · exact h
    · exact h
  · split
    · exact h
    · exact h
  · exact h
  · exact h

theorem pull (h : Stage settings feed session) (hphase : session.phase = .streaming) :
    Stage settings feed session.pull.2 := by
  cases h with
  | connected hopen => cases hphase.symm.trans hopen.phase_eq
  | ended hphase' => rw [hphase] at hphase'; cases hphase'
  | streaming hopen hcourse hasked =>
    obtain ⟨reads, hreads, hread⟩ := (pull_onlyRead session).asked
    -- Whatever the session answers, it has added reads to its course and nothing else.
    have hcourse' := hcourse.append hreads
    rw [hasked, List.append_assoc] at hread
    rcases hpull : session.pull with ⟨failure | _ | frame, last⟩
    · rw [hpull] at hread
      exact .ended (pull_eq_end hopen.reader hpull nofun).1 (.reading hcourse') hread
    · rw [hpull] at hread
      exact .ended (pull_eq_end hopen.reader hpull nofun).1 (.reading hcourse') hread
    · rw [hpull] at hread
      obtain ⟨-, intake', -, rfl⟩ := pull_eq_frame hpull
      exact .streaming ⟨hphase, rfl⟩ hcourse' hread

theorem next (h : Stage settings feed session) : Stage settings feed session.next.2 := by
  cases h with
  | connected hopen hsettings hscript hasked =>
    have hopens := openStream (.connected hopen hsettings hscript hasked) hopen.phase_eq
    rw [Session.next, hopen.phase_eq]
    rcases hopened : session.openStream with ⟨failure | told, opened⟩
    · rwa [hopened] at hopens
    · rw [hopened] at hopens
      exact hopens.pull (Opens.made hopen hopened).phase_eq
  | streaming hopen hcourse hasked =>
    rw [next_of_streaming hopen.phase_eq]
    exact pull (.streaming hopen hcourse hasked) hopen.phase_eq
  | ended hphase hcourse hasked =>
    rw [next_of_terminal hphase]
    exact .ended hphase hcourse hasked

/-- **Every operation keeps a session at its stage or takes it to a later one.** -/
theorem perform (h : Stage settings feed session) (operation : Operation) :
    Stage settings feed (session.perform operation).2 := by
  cases operation with
  | handshake => exact h.handshake
  | next | iterate => exact h.next
  | close => exact h.close
  | cancel => exact h.cancel

/-! ## Sinks -/

theorem undergo (h : Stage settings feed session) (effect : Sink.Effect) :
    Stage settings feed (session.undergo effect) := by
  cases effect with
  | note notice => exact h.note notice
  | cancel => exact h.cancel
  | testify name event => exact h.withFeed rfl (asked_record rfl _)

/-- **A delivery keeps a session at its stage or takes it to a later one.** -/
theorem deliver {σ : Type} [Sink σ] (h : Stage settings feed session) (sink : σ) :
    Stage settings feed (Delivery.run session sink).2.1 := by
  have hsteps : Delivery.Keeps (Stage settings feed) :=
    { handshake := fun _ => handshake
      next := fun _ => next
      fail := fun _ failure h => h.fail failure
      undergo := fun _ effect h => h.undergo effect }
  exact hsteps.run h sink

end Stage

/-! ## The law -/

/-- What becomes of a session that is asked for things, to which sinks do things and that is
delivered from, in any order. -/
inductive Runs (origin : Session) : Session → Prop
  | refl : Runs origin origin
  | perform {session : Session} (h : Runs origin session) (operation : Operation) :
      Runs origin (session.perform operation).2
  | undergo {session : Session} (h : Runs origin session) (effect : Sink.Effect) :
      Runs origin (session.undergo effect)
  | deliver {session : Session} (h : Runs origin session) {σ : Type} [Sink σ] (sink : σ) :
      Runs origin (Delivery.run session sink).2.1

/-- Whatever is made of a session, it is at one of its stages. -/
theorem Runs.stage {settings : Settings} {feed : Feed} {limit : Nat} {session : Session}
    (h : Runs (start feed settings limit) session) : Stage settings feed session := by
  induction h with
  | refl => exact .start settings feed limit
  | perform _ operation ih => exact ih.perform operation
  | undergo _ effect ih => exact ih.undergo effect
  | deliver _ sink ih => exact ih.deliver sink

/-- **No wait is bounded but those for the probe byte.** A session is started over any channel, and
is asked for anything, cancelled and delivered from in any order. What it has asked of its channel
has one of the courses; and of its reads, any that is not one for the probe byte was made with no
bound in force. -/
theorem bounds_only_probe (settings : Settings) (feed : Feed) (limit : Nat) {session : Session}
    (h : Runs (start feed settings limit) session) :
    ∃ asked, session.feed.history.asked = feed.history.asked ++ asked ∧
      Asked settings feed.script asked ∧
      ∀ front got back, asked = front ++ .read got :: back →
        (settings.expectProbe = true ∧ front.length ≤ (probing feed.script).length) ∨
          inForce front = none := by
  obtain ⟨asked, htaken, hcourse⟩ := h.stage.asked
  exact ⟨asked, htaken, hcourse, fun _ _ _ heq => hcourse.unbounded heq⟩

/-- The probe byte is to be waited for no longer than 400 microseconds, which makes it a millisecond.
A frame is asked for, and the rest is delivered. The bound is lifted before the name is read. -/
theorem bounds_only_probe_lifted :
    let told : Announcement := ⟨"Pixel", ⟨.h264, 1280, 720⟩⟩
    let sent : Frame := ⟨⟨false, true, 7, 2⟩, [0xAB, 0xCD]⟩
    let feed : Feed := {
      script := [.fault (.ofKind .interrupted), .data (0 :: (told.encode ++ sent.encode)),
        .data sent.encode] }
    let settings : Handshake.Settings := { probeLimit := ⟨400⟩ }
    let asked : List Happening := [.wait (some (.ofMillis 1)) true, .read none, .read (some 1),
      .wait none true, .read (some 64), .read (some 12), .read (some 12), .read (some 2),
      .read (some 12), .read (some 2), .read (some 0)]
    let session := ((start feed settings 2).perform .next).2
    (Delivery.run session ({} : Sink.Tally)).2.1.feed.history.asked = asked ∧
      Asked settings feed.script asked := by
  intro told sent feed settings asked session
  obtain ⟨course, htaken, hcourse, -⟩ :=
    bounds_only_probe settings feed 2 (.deliver (.perform .refl .next) ({} : Sink.Tally))
  have hasked : (Delivery.run session ({} : Sink.Tally)).2.1.feed.history.asked = asked := by
    decide +kernel
  have hsame : course = asked := htaken.symm.trans hasked
  rw [hsame] at hcourse
  exact ⟨hasked, hcourse⟩

end Session

end Screencast
