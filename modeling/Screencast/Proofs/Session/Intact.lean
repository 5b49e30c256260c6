/-
What the steps of a session keep of what it was started with.

A session is started over a channel, with settings and a limit. Whatever it is
asked and whatever sinks do to it (`Descends`), as long as it goes on it has the
same settings and the same limit, its channel has no faults but those that it
had, and until the handshake is made it answers requests for bounded waits as it
did (`Intact.of_descends`).
-/
import Screencast.Proofs.Session.Operation
import Screencast.Proofs.Session.Step
import Screencast.Proofs.Session.Use

namespace Screencast

/-! ## Faults of the script -/

namespace Feed

/-- The faults that a channel has still to report are among those that it had to. -/
theorem Uses.fault_mem {before after : Feed} (h : Uses before after) {fault : Fault}
    (hfault : .fault fault ∈ after.script) : .fault fault ∈ before.script := by
  induction h with
  | refl => exact hfault
  | @read middle _ wanted ih =>
    rw [read_script] at hfault
    exact ih (mem_of_mem_serve (by simp) hfault)
  | @bound middle _ limit ih =>
    rw [script_bound] at hfault
    exact ih hfault
  | record _ happening ih => exact ih hfault

end Feed

/-- An intake that gives a frame is not finished. -/
theorem Intake.unfinished_of_frame {intake intake' : Intake} {frame : Frame}
    (h : intake.next = (.ok (some frame), intake')) : intake'.finished = false := by
  unfold next at h
  split at h
  · cases h
  · next hunfinished =>
    split at h
    · cases h
      show intake.finished = false
      simpa using hunfinished
    · next hne hread =>
      cases h
      exact absurd rfl (hne frame)

namespace Session

open Feed

/-! ## What the steps keep -/

/-- What becomes of a session that is asked for things, and to which sinks do things, in any
order. -/
inductive Descends (origin : Session) : Session → Prop
  | refl : Descends origin origin
  | perform {session : Session} (h : Descends origin session) (operation : Operation) :
      Descends origin (session.perform operation).2
  | undergo {session : Session} (h : Descends origin session) (effect : Sink.Effect) :
      Descends origin (session.undergo effect)

/-- A session that was started over a channel keeps its settings and its limit as long as it goes
on, and its channel has no faults but those that it had. -/
structure Intact (feed : Feed) (settings : Handshake.Settings) (limit : Nat) (session : Session) :
    Prop where
  lawful : session.Lawful
  fault_mem : ∀ fault, .fault fault ∈ session.feed.script → .fault fault ∈ feed.script
  settings_eq : session.phase.isTerminal = false → session.settings = settings
  limit_eq : session.phase.isTerminal = false → session.intake.limit = limit
  unfinished : session.phase.isTerminal = false → session.intake.finished = false
  waits_eq : session.phase = .connected → session.feed.waits = feed.waits

namespace Intact

variable {feed : Feed} {settings : Handshake.Settings} {limit : Nat} {session : Session}

theorem start (h : feed.history.closes = 0) : Intact feed settings limit
    (Session.start feed settings limit) where
  lawful := start_lawful h settings limit
  fault_mem := by
    rcases feed_start feed settings limit with hfeed | ⟨notice, hfeed⟩
    · rw [hfeed]
      exact fun _ => id
    · rw [hfeed]
      exact fun _ => id
  settings_eq _ := rfl
  limit_eq _ := rfl
  unfinished _ := rfl
  waits_eq _ := start_waits feed settings limit

/-- Of a session that is over only its channel matters. -/
theorem of_terminal {last : Session} (h : last.Lawful)
    (hfaults : ∀ fault, .fault fault ∈ last.feed.script → .fault fault ∈ feed.script)
    (hterminal : last.phase.isTerminal = true) : Intact feed settings limit last where
  lawful := h
  fault_mem := hfaults
  settings_eq hopen := by rw [hterminal] at hopen; cases hopen
  limit_eq hopen := by rw [hterminal] at hopen; cases hopen
  unfinished hopen := by rw [hterminal] at hopen; cases hopen
  waits_eq hphase := by rw [hphase] at hterminal; cases hterminal

/-- A session that comes to give frames has the settings and the limit that it had. -/
theorem opened (h : Intact feed settings limit session) {opened : Session}
    (hopens : session.Opens opened) : Intact feed settings limit opened := by
  have hlawful := hopens.lawful h.lawful
  cases hopens with
  | already => exact h
  | @made told opened hconnected hopened =>
    have hopen : session.phase.isTerminal = false := by rw [hconnected.phase_eq]; rfl
    have huses := openStream_uses session
    rw [hopened] at huses
    obtain ⟨-, -, outcome, feed', -, -, rfl⟩ := openStream_eq_ok hopened
    exact {
      lawful := hlawful
      fault_mem := fun fault hfault => h.fault_mem fault (huses.fault_mem hfault)
      settings_eq := fun _ => h.settings_eq hopen
      limit_eq := fun _ => h.limit_eq hopen
      unfinished := fun _ => h.unfinished hopen
      waits_eq := nofun }

theorem handshake (h : Intact feed settings limit session)
    (hopen : session.phase.isTerminal = false) :
    Intact feed settings limit session.handshake.2 := by
  have hlawful := handshake_lawful h.lawful
  have huses := handshake_uses session
  rcases h.lawful.connected_or_streaming hopen with hconnected | hstreaming
  · rw [handshake_of_connected hconnected.phase_eq] at hlawful huses ⊢
    rcases hopened : session.openStream with ⟨failure | told, last⟩
    · rw [hopened] at hlawful huses
      obtain ⟨hfailed, -, -⟩ := openStream_eq_error hconnected.reader hopened
      refine of_terminal hlawful (fun fault hfault => ?_) (by rw [hfailed]; rfl)
      exact h.fault_mem fault (huses.fault_mem hfault)
    · exact h.opened (.made hconnected hopened)
  · obtain ⟨told, heq⟩ := handshake_of_streaming h.lawful hstreaming.phase_eq
    rw [heq]
    exact h

theorem next (h : Intact feed settings limit session)
    (hopen : session.phase.isTerminal = false) : Intact feed settings limit session.next.2 := by
  have hlawful := next_lawful h.lawful
  have hfaults fault (hfault : .fault fault ∈ session.next.2.feed.script) :
      .fault fault ∈ feed.script := h.fault_mem fault ((next_uses session).fault_mem hfault)
  rcases next_cases h.lawful hopen with
    ⟨opened, hopens, heq⟩ | ⟨failure, last, hconnected, hfailed, heq⟩
  · have hopened := h.opened hopens
    have hstreaming := hopens.phase_eq
    have hreader := hopens.streaming.reader
    have hgoes : opened.phase.isTerminal = false := by rw [hstreaming]; rfl
    rw [heq] at hlawful hfaults ⊢
    rcases hpull : opened.pull with ⟨failure | _ | frame, last⟩
    · rw [hpull] at hlawful hfaults
      exact of_terminal hlawful hfaults (pull_eq_end hreader hpull nofun).1
    · rw [hpull] at hlawful hfaults
      exact of_terminal hlawful hfaults (pull_eq_end hreader hpull nofun).1
    · rw [hpull] at hlawful hfaults
      obtain ⟨-, intake', hnext, rfl⟩ := pull_eq_frame hpull
      obtain ⟨-, -, hlimit⟩ := Intake.next_eq_frame hnext
      exact {
        lawful := hlawful
        fault_mem := hfaults
        settings_eq := fun _ => hopened.settings_eq hgoes
        limit_eq := fun _ => hlimit.trans (hopened.limit_eq hgoes)
        unfinished := fun _ => Intake.unfinished_of_frame hnext
        waits_eq := fun hphase => by cases hstreaming.symm.trans hphase }
  · rw [heq] at hlawful hfaults ⊢
    obtain ⟨hterminal, -, -⟩ := openStream_eq_error hconnected.reader hfailed
    exact of_terminal hlawful hfaults (by rw [hterminal]; rfl)

theorem perform (h : Intact feed settings limit session) (operation : Operation) :
    Intact feed settings limit (session.perform operation).2 := by
  cases hterminal : session.phase.isTerminal with
  | true =>
    have hstays := h.lawful.held.perform_stays hterminal operation
    refine of_terminal (perform_lawful h.lawful operation) ?_ (by rw [hstays.phase, hterminal])
    rw [hstays.idle.script]
    exact h.fault_mem
  | false =>
    cases operation with
    | handshake => exact h.handshake hterminal
    | next | iterate => exact h.next hterminal
    | close =>
      refine of_terminal (close_lawful h.lawful) (fun fault hfault => ?_) ?_
      · exact h.fault_mem fault ((release_uses session _).fault_mem hfault)
      · show session.close.phase.isTerminal = true
        rw [close_of_open hterminal, phase_release]
        rfl
    | cancel =>
      have hwaits := waits_cancel session.feed
      refine ⟨cancel_lawful h.lawful, fun fault hfault => ?_, h.settings_eq, h.limit_eq,
        h.unfinished, fun hphase => hwaits.trans (h.waits_eq hphase)⟩
      have hbefore : .fault fault ∈ session.feed.cancel.script := hfault
      rw [script_cancel] at hbefore
      exact h.fault_mem fault hbefore

/-- A sink can do no more to a session than to cancel it. -/
theorem undergo (h : Intact feed settings limit session) (effect : Sink.Effect) :
    Intact feed settings limit (session.undergo effect) := by
  have hlawful := undergoAll_lawful h.lawful [effect]
  cases effect with
  | note notice =>
    exact ⟨hlawful, h.fault_mem, h.settings_eq, h.limit_eq, h.unfinished, h.waits_eq⟩
  | cancel => exact h.perform .cancel
  | testify name event =>
    exact ⟨hlawful, h.fault_mem, h.settings_eq, h.limit_eq, h.unfinished, h.waits_eq⟩

/-- **Whatever becomes of a session, it stays intact.** -/
theorem of_descends (hclosed : feed.history.closes = 0)
    (h : Descends (Session.start feed settings limit) session) :
    Intact feed settings limit session := by
  induction h with
  | refl => exact start hclosed
  | perform _ operation ih => exact ih.perform operation
  | undergo _ effect ih => exact ih.undergo effect

end Intact

end Session

end Screencast
