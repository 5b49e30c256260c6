/-
How a delivery leaves the session.

Whatever the sink does, a delivery leaves the session over, with its channel
closed once (`run_over`). So a session that has been through any steps, in any
order and among them deliveries, is lawful (`Session.Reachable.lawful`).
-/
import Screencast.Proofs.Session.Lifecycle

namespace Screencast.Delivery

open Sink

variable {σ : Type} [Sink σ]

/-- A session that is over, as its last step left it. -/
structure Over (session : Session) : Prop where
  lawful : session.Lawful
  terminal : session.phase.isTerminal = true

theorem Over.closes {session : Session} (h : Over session) : session.feed.history.closes = 1 :=
  h.lawful.closes_of_terminal h.terminal

theorem Over.undergoAll {session : Session} (h : Over session) (effects : List Effect) :
    Over (session.undergoAll effects) where
  lawful := Session.undergoAll_lawful h.lawful effects
  terminal := by rw [Session.phase_undergoAll, h.terminal]

theorem mourn_over {session : Session} (h : Over session) (failure : Failure) (sink : σ) :
    Over (mourn failure session sink).2.1 := h.undergoAll _

theorem giveUp_over {session : Session} (h : session.Lawful)
    (hopen : session.phase.isTerminal = false) (error : Sink.Error) (sink : σ) :
    Over (giveUp error session sink).2.1 := by
  have hlawful := Session.fail_lawful h hopen (.sink error)
  have hended := Session.fail_ended session (h.held.reader_of_open hopen) (.sink error)
  exact mourn_over ⟨hlawful, by rw [hended.phase_eq]; rfl⟩ _ sink

theorem conclude_over {session : Session} (h : Over session) (summary : Summary) (sink : σ) :
    Over (conclude summary session sink).2.1 := by
  have hsession := h.undergoAll (onEnd sink).effects
  unfold conclude
  dsimp only
  cases (onEnd sink).result with
  | error e => exact hsession
  | ok => exact ⟨hsession.lawful.withFeed (Feed.Sequel.note _ _).closes, hsession.terminal⟩

theorem deliverFrames_over (summary : Summary) {session : Session} (h : session.Lawful)
    (hopen : session.Open .streaming) (sink : σ) :
    Over (deliverFrames summary session sink).2.1 := by
  fun_induction deliverFrames summary session sink with
  | case1 summary session sink failure session' hnext =>
    have hlawful := Session.lawful_of_next h hnext
    have hterminal := Session.isTerminal_of_next hopen hnext nofun
    exact mourn_over ⟨hlawful, hterminal⟩ failure sink
  | case2 summary session sink session' hnext =>
    have hlawful := Session.lawful_of_next h hnext
    have hterminal := Session.isTerminal_of_next hopen hnext nofun
    exact conclude_over ⟨hlawful, hterminal⟩ summary sink
  | case3 summary session sink frame session' hnext reply e hreply =>
    have hlawful := Session.undergoAll_lawful (Session.lawful_of_next h hnext) reply.effects
    have hstreaming := (Session.open_of_next_frame hopen hnext).undergoAll reply.effects
    exact giveUp_over hlawful (by rw [hstreaming.phase_eq]; rfl) e reply.sink
  | case4 summary session sink frame session' hnext reply hreply ih =>
    -- What the sink does to the session neither ends nor closes it.
    have hlawful := Session.undergoAll_lawful (Session.lawful_of_next h hnext) reply.effects
    exact ih hlawful ((Session.open_of_next_frame hopen hnext).undergoAll reply.effects)

/-- **A delivery leaves the session over, and its channel closed once.** -/
theorem run_over {session : Session} (h : session.Lawful) (sink : σ) :
    Over (run session sink).2.1 := by
  have hlawful := Session.handshake_lawful h
  unfold run
  rcases Session.handshake_cases h with
    ⟨told, last, heq, hopen, -⟩ | ⟨failure, last, heq, hterminal⟩
  · rw [heq] at hlawful ⊢
    have hmarked := Session.undergoAll_lawful hlawful (onAnnouncement sink told).effects
    have hstreaming := hopen.undergoAll (onAnnouncement sink told).effects
    dsimp only
    cases (onAnnouncement sink told).result with
    | error e => exact giveUp_over hmarked (by rw [hstreaming.phase_eq]; rfl) e _
    | ok => exact deliverFrames_over _ hmarked hstreaming _
  · rw [heq] at hlawful ⊢
    exact mourn_over ⟨hlawful, hterminal⟩ failure sink

/-! ## What a delivery keeps -/

/-- A property of sessions that every single step of a delivery keeps. -/
structure Keeps (P : Session → Prop) : Prop where
  handshake : ∀ session, P session → P session.handshake.2
  next : ∀ session, P session → P session.next.2
  fail : ∀ session failure, P session → P (session.fail failure).2
  undergo : ∀ session effect, P session → P (session.undergo effect)

namespace Keeps

variable {P : Session → Prop} {session : Session}

theorem undergoAll (hsteps : Keeps P) (h : P session) (effects : List Effect) :
    P (session.undergoAll effects) := by
  induction effects generalizing session with
  | nil => exact h
  | cons effect rest ih => exact ih (hsteps.undergo session effect h)

theorem mourn (hsteps : Keeps P) (h : P session) (failure : Failure) (sink : σ) :
    P (mourn failure session sink).2.1 := hsteps.undergoAll h _

theorem giveUp (hsteps : Keeps P) (h : P session) (error : Sink.Error) (sink : σ) :
    P (giveUp error session sink).2.1 := hsteps.mourn (hsteps.fail session _ h) _ sink

theorem conclude (hsteps : Keeps P) (h : P session) (summary : Summary) (sink : σ) :
    P (conclude summary session sink).2.1 := by
  have htold := hsteps.undergoAll h (onEnd sink).effects
  unfold Delivery.conclude
  dsimp only
  cases (onEnd sink).result with
  | error e => exact htold
  -- What is reported at the end is reported as a sink would.
  | ok => exact hsteps.undergo _ (.note _) htold

theorem deliverFrames (hsteps : Keeps P) (h : P session) (summary : Summary) (sink : σ) :
    P (deliverFrames summary session sink).2.1 := by
  fun_induction Delivery.deliverFrames summary session sink with
  | case1 summary session sink failure session' hnext =>
    have hlast := hsteps.next session h
    rw [hnext] at hlast
    exact hsteps.mourn hlast failure sink
  | case2 summary session sink session' hnext =>
    have hlast := hsteps.next session h
    rw [hnext] at hlast
    exact hsteps.conclude hlast summary sink
  | case3 summary session sink frame session' hnext reply e hreply =>
    have hgiven := hsteps.next session h
    rw [hnext] at hgiven
    exact hsteps.giveUp (hsteps.undergoAll hgiven _) e reply.sink
  | case4 summary session sink frame session' hnext reply hreply ih =>
    have hgiven := hsteps.next session h
    rw [hnext] at hgiven
    exact ih (hsteps.undergoAll hgiven _)

/-- **What every step keeps of a session, a delivery keeps.** -/
theorem run (hsteps : Keeps P) (h : P session) (sink : σ) : P (run session sink).2.1 := by
  have hopened := hsteps.handshake session h
  unfold Delivery.run
  generalize session.handshake = opened at hopened ⊢
  obtain ⟨failure | told, last⟩ := opened
  · exact hsteps.mourn hopened failure sink
  · have htold := hsteps.undergoAll hopened (onAnnouncement sink told).effects
    dsimp only
    cases (onAnnouncement sink told).result with
    | error e => exact hsteps.giveUp htold e _
    | ok => exact hsteps.deliverFrames htold _ _

end Keeps

end Screencast.Delivery

/-! ## Reachable sessions -/

namespace Screencast.Session

/-- The sessions that come of a start by any steps in any order. -/
inductive Reachable : Session → Prop
  | start {feed : Feed} (h : feed.history.closes = 0) (settings : Handshake.Settings)
      (limit : Nat) : Reachable (start feed settings limit)
  | handshake {session : Session} (h : Reachable session) : Reachable session.handshake.2
  | next {session : Session} (h : Reachable session) : Reachable session.next.2
  | close {session : Session} (h : Reachable session) : Reachable session.close
  | cancel {session : Session} (h : Reachable session) : Reachable session.cancel
  | run {session : Session} (h : Reachable session) {σ : Type} [Sink σ] (sink : σ) :
      Reachable (Delivery.run session sink).2.1

/-- **Every reachable session is lawful.** -/
theorem Reachable.lawful {session : Session} (h : session.Reachable) : session.Lawful := by
  induction h with
  | start h settings limit => exact start_lawful h settings limit
  | handshake _ ih => exact handshake_lawful ih
  | next _ ih => exact next_lawful ih
  | close _ ih => exact close_lawful ih
  | cancel _ ih => exact cancel_lawful ih
  | run _ sink ih => exact (Delivery.run_over ih sink).lawful

end Screencast.Session
