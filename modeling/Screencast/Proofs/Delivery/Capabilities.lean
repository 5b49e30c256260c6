/-
Deliveries over channels that can do different things.

A delivery asks its session for the handshake and for frames, and lets what the
sink does happen to it; peers go through all of this as peers (`run_matches`). So
whether a channel can bound its waits, be closed or be closed from outside is
seen neither on a session nor in what is delivered from it
(`unseen_capabilities`). A channel that grants a bound and then does not lift it
is the exception: the handshake fails for that.
-/
import Screencast.Proofs.Session.Peers
import Screencast.Proofs.Sink.Logged
import Screencast.Sink.Witness

namespace Screencast

open Sink

namespace Session

/-! ## What a sink does to peers -/

theorem Peers.undergo {first second : Session} (h : Peers first second) (effect : Effect) :
    Peers (first.undergo effect) (second.undergo effect) := by
  cases effect with
  | note notice => exact h.note notice notice
  | cancel => exact h.cancel
  | testify name event => exact h.record rfl rfl

theorem Peers.undergoAll {first second : Session} (h : Peers first second)
    (effects : List Effect) : Peers (first.undergoAll effects) (second.undergoAll effects) := by
  induction effects generalizing first second with
  | nil => exact h
  | cons effect rest ih => exact ih (h.undergo effect)

end Session

namespace Delivery

open Session

variable {σ : Type} [Sink σ]

/-! ## Deliveries from peers -/

/-- Two deliveries that come to the same: they leave the same sink, and peers. -/
structure Matches (run run' : Except Failure Summary × Session × σ) : Prop where
  result : run.1 = run'.1
  peers : Peers run.2.1 run'.2.1
  sink : run.2.2 = run'.2.2

variable {first second : Session}

theorem mourn_matches (h : Peers first second) (failure : Failure) (sink : σ) :
    Matches (mourn failure first sink) (mourn failure second sink) :=
  ⟨rfl, h.undergoAll (onFailure sink failure).2, rfl⟩

theorem giveUp_matches (h : Peers first second) (e : Sink.Error) (sink : σ) :
    Matches (giveUp e first sink) (giveUp e second sink) := by
  obtain ⟨hreported, hlast⟩ := h.fail (.sink e)
  have hmourned := mourn_matches hlast (first.fail (.sink e)).1 sink
  show Matches (mourn (first.fail (.sink e)).1 (first.fail (.sink e)).2 sink)
    (mourn (second.fail (.sink e)).1 (second.fail (.sink e)).2 sink)
  rw [← hreported]
  exact hmourned

theorem conclude_matches (h : Peers first second) (summary : Summary) (sink : σ) :
    Matches (conclude summary first sink) (conclude summary second sink) := by
  have htold := h.undergoAll (onEnd sink).effects
  unfold conclude
  dsimp only
  cases (onEnd sink).result with
  | error e => exact ⟨rfl, htold, rfl⟩
  | ok => exact ⟨rfl, htold.note _ _, rfl⟩

theorem deliverFrames_matches (h : Peers first second) (summary : Summary) (sink : σ) :
    Matches (deliverFrames summary first sink) (deliverFrames summary second sink) := by
  -- The induction is on the frames that the first session gives; the second gives the same. It is
  -- reverted by hand, as `generalizing` does not see past the reply.
  revert second
  fun_induction deliverFrames summary first sink with
  | case1 summary first sink failure first' hnext =>
    intro second h
    obtain ⟨second', hnext', hlast⟩ := (Peers.agreement.next h).exists_eq hnext
    rw [deliverFrames_eq summary second sink, hnext']
    exact mourn_matches hlast failure sink
  | case2 summary first sink first' hnext =>
    intro second h
    obtain ⟨second', hnext', hlast⟩ := (Peers.agreement.next h).exists_eq hnext
    rw [deliverFrames_eq summary second sink, hnext']
    exact conclude_matches hlast summary sink
  | case3 summary first sink frame first' hnext reply e =>
    rename_i hreply
    intro second h
    have hrefused : (onFrame sink frame).result = .error e := hreply
    obtain ⟨second', hnext', hlast⟩ := (Peers.agreement.next h).exists_eq hnext
    rw [deliverFrames_eq summary second sink, hnext']
    dsimp only
    rw [hrefused]
    exact giveUp_matches (hlast.undergoAll reply.effects) e reply.sink
  | case4 summary first sink frame first' hnext reply =>
    rename_i hreply ih
    intro second h
    have htaken : (onFrame sink frame).result = .ok () := hreply
    obtain ⟨second', hnext', hlast⟩ := (Peers.agreement.next h).exists_eq hnext
    rw [deliverFrames_eq summary second sink, hnext']
    dsimp only
    rw [htaken]
    exact ih (hlast.undergoAll reply.effects)

/-- **Deliveries from peers come to the same.** -/
theorem run_matches (h : Peers first second) (sink : σ) :
    Matches (run first sink) (run second sink) := by
  rcases hfirst : first.handshake with ⟨result, first'⟩
  obtain ⟨second', hsecond, hlast⟩ := (Peers.agreement.handshake h).exists_eq hfirst
  unfold run
  rw [hfirst, hsecond]
  cases result with
  | error failure => exact mourn_matches hlast failure sink
  | ok told =>
    have hmarked := hlast.undergoAll (onAnnouncement sink told).effects
    dsimp only
    cases (onAnnouncement sink told).result with
    | error e => exact giveUp_matches hmarked e _
    | ok => exact deliverFrames_matches hmarked _ _

end Delivery

/-! ## What is seen -/

namespace Session

/-- A session that has closed its channel once if it is over, and not at all before. -/
def ClosedOnce (session : Session) : Prop :=
  session.feed.history.closes = if session.phase.isTerminal then 1 else 0

/-- Two sessions that nothing tells apart, whatever is asked of them from now on, and that each let
go of their channel only once. -/
structure SeenAlike (first second : Session) : Prop where
  view : first.view = second.view
  observe : ∀ operations, first.observe operations = second.observe operations
  closed : ∀ operations, ClosedOnce (first.performAll operations).2
  closed' : ∀ operations, ClosedOnce (second.performAll operations).2

theorem Peers.seenAlike {first second : Session} (h : Peers first second) (hlawful : first.Lawful)
    (hlawful' : second.Lawful) : SeenAlike first second where
  view := h.view_eq
  observe := agreement.observe_eq h
  closed operations := (performAll_lawful hlawful operations).closes
  closed' operations := (performAll_lawful hlawful' operations).closes

end Session

namespace Delivery

open Session

/-- Two sessions from which the same is delivered to a sink. -/
structure DeliverAlike {σ : Type} [Sink σ] (first second : Session) (sink : σ) : Prop where
  result : (run first sink).1 = (run second sink).1
  sinks : (run first sink).2.2 = (run second sink).2.2
  /-- The sink is told of the same events. -/
  calls : (run first ({ sink } : Logged σ)).2.2.calls = (run second ({ sink } : Logged σ)).2.2.calls
  later : SeenAlike (run first sink).2.1 (run second sink).2.1

/-- **What a channel can do besides being read is not seen.** Of two fresh channels that say the
same, each may be unable to bound its waits, refuse to, or grant a bound and lift it again, and each
may fail to be closed or to be closed from outside: after any operations, whatever is asked of the
sessions over them and whatever sink they are delivered to, the answers, the phases, the
announcement, the probe byte, the frames counted, the bytes consumed and the events are the same. -/
theorem unseen_capabilities {feed : Feed} (hclosed : feed.history.closes = 0)
    (hlifts : feed.waits.lifts = true) {capabilities : Feed.Capabilities}
    (hlifts' : capabilities.waits.lifts = true) (settings : Handshake.Settings) (limit : Nat) :
    SeenAlike (start feed settings limit)
        (start (feed.withCapabilities capabilities) settings limit) ∧
      ∀ (operations : List Operation) {σ : Type} [Sink σ] (sink : σ),
        DeliverAlike ((start feed settings limit).performAll operations).2
          ((start (feed.withCapabilities capabilities) settings limit).performAll operations).2
          sink := by
  have hpeers := Peers.start hlifts hlifts' settings limit
  have hfirst : (start feed settings limit).Lawful := start_lawful hclosed settings limit
  have hsecond : (start (feed.withCapabilities capabilities) settings limit).Lawful := by
    have hclosed' : (feed.withCapabilities capabilities).history.closes = 0 := hclosed
    exact start_lawful hclosed' settings limit
  refine ⟨hpeers.seenAlike hfirst hsecond, ?_⟩
  intro operations σ _ sink
  have hlater := Peers.agreement.performAll hpeers operations
  have hfirst' := performAll_lawful hfirst operations
  have hsecond' := performAll_lawful hsecond operations
  have hrun := run_matches hlater sink
  have hlogged := run_matches hlater ({ sink } : Logged σ)
  exact {
    result := hrun.result
    sinks := hrun.sink
    calls := congrArg Logged.calls hlogged.sink
    later := hrun.peers.seenAlike (run_over hfirst' sink).lawful (run_over hsecond' sink).lawful }

/-- A channel that grants a bound and lifts it, and one that refuses it and cannot be closed, each
delivered from once a frame was read. -/
theorem unseen_capabilities_refused :
    let told : Announcement := ⟨"Pixel", ⟨.h264, 1280, 720⟩⟩
    let sent : Frame := ⟨⟨false, true, 7, 2⟩, [0xAB, 0xCD]⟩
    let feed : Feed := {
      script := [.fault (.ofKind .interrupted), .data (0 :: (told.encode ++ sent.encode)),
        .fault (.ofKind .interrupted), .data sent.encode]
      perRead := some ⟨7, by decide⟩ }
    let capabilities : Feed.Capabilities := {
      waits := .answers [some (.ofKind .permissionDenied)]
      closeFault := some (.ofKind .notConnected)
      closerFault := some (.ofKind .unsupported) }
    let first := start feed {} 2
    let second := start (feed.withCapabilities capabilities) {} 2
    let operations : List Operation := [.handshake, .next]
    SeenAlike first second ∧
      DeliverAlike (first.performAll operations).2 (second.performAll operations).2
        ({} : Counter) ∧
      (first.performAll operations).2.feed.history.waits = [some (.ofSeconds 2), none] ∧
      (second.performAll operations).2.feed.history.waits = [some (.ofSeconds 2)] ∧
      (run (second.performAll operations).2 ({} : Counter)).2.1.feed.history.closes = 1 := by
  intro told sent feed capabilities first second operations
  have hclosed : feed.history.closes = 0 := rfl
  have hlifts : feed.waits.lifts = true := rfl
  have hlifts' : capabilities.waits.lifts = true := rfl
  obtain ⟨hseen, hdelivered⟩ := unseen_capabilities hclosed hlifts hlifts' {} 2
  refine ⟨hseen, hdelivered operations ({} : Counter), ?_, ?_, ?_⟩
  · decide +kernel
  · decide +kernel
  · decide +kernel

end Delivery

end Screencast
