/-
Requests to cancel, on the way to a sink.

A delivery heeds every request that comes before its session is over: the one
that comes first of all, the one that a read meets, and the one that the sink
makes when it is told of the announcement or of a frame, even if it then
refuses it (`Heeds`). The delivery comes to `closed`, of which the sink is told
last, and of nothing but that after its own request (`run_heeds`). Together
with the operations of a session that makes the law of cancellation
(`cancellation`).

A request that comes at the last moment, when a session has seen its clean end
and not let go of its channel, is one that the sink makes first of all when it
is told of the end (`deliverFrames_parting`).
-/
import Screencast.Proofs.Session.Cancellation
import Screencast.Proofs.Sink.Logged
import Screencast.Sink.Witness

namespace Screencast

namespace Sink

variable {σ : Type} [Sink σ]

/-- What a sink becomes when it is told of an event, and what it does. -/
def react (sink : σ) : Event → σ × List Effect
  | .announced told => ((onAnnouncement sink told).sink, (onAnnouncement sink told).effects)
  | .frame frame => ((onFrame sink frame).sink, (onFrame sink frame).effects)
  | .ended => ((onEnd sink).sink, (onEnd sink).effects)
  | .failed failure => onFailure sink failure

/-- The session still goes on when a sink is told of the event. -/
def Event.isEarly : Event → Bool
  | announced _ | frame _ => true
  | ended | failed _ => false

/-- A sink that is told of some events, and still of the events `later` after it has cancelled a
session that goes on. -/
inductive CancelsBefore (later : List Event) : σ → List Event → Prop
  | now {sink : σ} {event : Event} (hearly : event.isEarly = true)
      (h : Effect.cancel ∈ (react sink event).2) : CancelsBefore later sink (event :: later)
  | after {sink : σ} {event : Event} {rest : List Event}
      (h : CancelsBefore later (react sink event).1 rest) :
      CancelsBefore later sink (event :: rest)

@[simp] theorem Call.event_of (event : Event) (result : Except Sink.Error Unit) :
    (Call.of event result).event = event := by
  cases result <;> rfl

/-- A sink that is told of one event cancels with that one or not at all. -/
theorem CancelsBefore.isEarly {later : List Event} {sink : σ} {event : Event}
    (h : CancelsBefore later sink [event]) : event.isEarly = true := by
  cases h with
  | now hearly => exact hearly
  | after h => cases h

end Sink

namespace Session

open Feed Sink

/-! ## What sinks do to sessions -/

theorem undergo_stays (session : Session) (effect : Effect) :
    Stays session (session.undergo effect) := by
  cases effect with
  | note notice =>
    exact ⟨rfl, rfl, rfl, .note session.feed notice, (Sequel.note session.feed notice).closes⟩
  | cancel => exact .cancel session
  | testify name event =>
    exact ⟨rfl, rfl, rfl, .record rfl session.feed, (Sequel.record session.feed rfl rfl).closes⟩

theorem undergoAll_stays (session : Session) (effects : List Effect) :
    Stays session (session.undergoAll effects) := by
  induction effects generalizing session with
  | nil => exact .refl session
  | cons effect rest ih => exact (session.undergo_stays effect).trans (ih _)

/-- A sink that cancels has cancelled the session. -/
theorem isCancelled_of_mem {session : Session} {effects : List Effect}
    (h : Effect.cancel ∈ effects) : (session.undergoAll effects).isCancelled = true := by
  induction effects generalizing session with
  | nil => cases h
  | cons effect rest ih =>
    rcases List.mem_cons.mp h with rfl | hrest
    · have hcancelled : session.cancel.isCancelled = true := cancelled_cancel session.feed
      exact isCancelled_undergoAll hcancelled rest
    · exact ih hrest

theorem Reordered.undergo {first second : Session} (h : Reordered first second)
    (effect : Effect) : Reordered (first.undergo effect) (second.undergo effect) := by
  obtain ⟨history, hperm, rfl⟩ := h
  cases effect with
  | note notice => exact ⟨history.add (.note notice), hperm.cons _, rfl⟩
  | testify name event => exact ⟨history.add (.testimony name event), hperm.cons _, rfl⟩
  | cancel =>
    obtain ⟨⟨script, perRead, waits, closeFault, closerFault, cancelled, before⟩, reader, settings,
      phase, announcement, probe⟩ := first
    cases cancelled with
    | true => exact ⟨history, hperm, rfl⟩
    | false => exact ⟨history.add (.note .cancelRequested), hperm.cons _, rfl⟩

theorem Reordered.undergoAll {first second : Session} (h : Reordered first second)
    (effects : List Effect) :
    Reordered (first.undergoAll effects) (second.undergoAll effects) := by
  induction effects generalizing first second with
  | nil => exact h
  | cons effect rest ih => exact ih (h.undergo effect)

theorem Stays.requests {before after : Session} (h : Stays before after) :
    after.feed.requests = before.feed.requests := by
  rw [Feed.requests, h.idle.script, Feed.requests]

end Session

namespace Delivery

open Feed Sink

variable {σ : Type}

/-! ## Deliveries that were cancelled -/

/-- A delivery that failed with `closed`, and told the sink of that and of no other end. -/
structure CutShort (run : Except Failure Summary × Session × Logged σ) (calls : List Call) :
    Prop where
  result : run.1 = .error .closed
  dead : run.2.1.Dead
  told : ∃ early, calls = early ++ [{ event := .failed .closed }] ∧
    ∀ call ∈ early, call.event.isEarly = true

/-- A delivery of a session that tells the sink of these calls, and heeds requests to cancel: those
that come before it or inside a read, and those that the sink makes. -/
structure Heeds [Sink σ] (session : Session) (logged : Logged σ)
    (run : Except Failure Summary × Session × Logged σ) (calls : List Call) : Prop where
  calls_eq : run.2.2.calls = logged.calls ++ calls
  met : session.isCancelled = true ∨ run.2.1.feed.requests < session.feed.requests →
    CutShort run calls
  made : ∀ later, CancelsBefore later logged.sink (calls.map Call.event) →
    CutShort run calls ∧ later = [.failed .closed]

theorem CutShort.of_failed {run : Except Failure Summary × Session × Logged σ}
    (hresult : run.1 = .error .closed) (hfailed : run.2.1.phase = .failed) :
    CutShort run [{ event := .failed .closed }] :=
  ⟨hresult, .of_failed hfailed, [], rfl, by simp⟩

theorem CutShort.cons {run : Except Failure Summary × Session × Logged σ} {call : Call}
    {rest : List Call} (h : CutShort run rest) (hearly : call.event.isEarly = true) :
    CutShort run (call :: rest) := by
  obtain ⟨early, rfl, hall⟩ := h.told
  exact ⟨h.result, h.dead, call :: early, rfl, List.forall_mem_cons.mpr ⟨hearly, hall⟩⟩

variable [Sink σ]

namespace Heeds

variable {session : Session} {logged : Logged σ}
  {run : Except Failure Summary × Session × Logged σ} {calls : List Call}

/-- Requests that come while the channel is used are heeded by what follows. -/
theorem before {used : Session} (h : Heeds used logged run calls)
    (huses : Uses session.feed used.feed) : Heeds session logged run calls := by
  obtain ⟨hle, hmet⟩ := huses.requests
  refine ⟨h.calls_eq, fun hrequest => ?_, h.made⟩
  rcases hrequest with hbefore | hread
  · exact h.met (.inl (hmet (.inl hbefore)))
  · -- The request is met while the channel is used, or after that.
    by_cases hused : used.feed.requests < session.feed.requests
    · exact h.met (.inl (hmet (.inr hused)))
    · exact h.met (.inr (by omega))

/-- What a sink does when it is told of an early event is heeded by what follows, provided that it
stops at once if the sink has cancelled. -/
theorem tell (event : Event) (hearly : event.isEarly = true) {reply : Reply (Logged σ)}
    (hreact : react logged.sink event = (reply.sink.sink, reply.effects))
    (hcalls : reply.sink.calls = logged.calls ++ [.of event reply.result])
    (h : Heeds (session.undergoAll reply.effects) reply.sink run calls)
    (hstops : (session.undergoAll reply.effects).isCancelled = true →
      calls = [{ event := .failed .closed }]) :
    Heeds session logged run (.of event reply.result :: calls) := by
  have hstays := session.undergoAll_stays reply.effects
  refine ⟨?_, fun hrequest => ?_, fun later hmade => ?_⟩
  · rw [h.calls_eq, hcalls, List.append_assoc]
    rfl
  · refine (h.met ?_).cons (by rw [Call.event_of, hearly])
    rw [hstays.requests]
    exact hrequest.imp_left fun hbefore => Session.isCancelled_undergoAll hbefore reply.effects
  · rw [List.map_cons, Call.event_of] at hmade
    cases hmade with
    | now _ hcancel =>
      rw [hreact] at hcancel
      have hcancelled : (session.undergoAll reply.effects).isCancelled = true :=
        Session.isCancelled_of_mem hcancel
      refine ⟨(h.met (.inl hcancelled)).cons (by rw [Call.event_of, hearly]), ?_⟩
      rw [hstops hcancelled]
      rfl
    | after hmade =>
      rw [hreact] at hmade
      obtain ⟨hcut, hlater⟩ := h.made later hmade
      exact ⟨hcut.cons (by rw [Call.event_of, hearly]), hlater⟩

end Heeds

/-! ## The ends of a delivery -/

/-- A session that failed, and with `closed` if it was cancelled, has heeded every request. -/
theorem mourn_heeds {session : Session} {failure : Failure} (logged : Logged σ)
    (h : session.isCancelled = true → failure = .closed ∧ session.phase = .failed) :
    Heeds session logged (mourn failure session logged) [{ event := .failed failure }] := by
  have hstays := session.undergoAll_stays (onFailure logged failure).2
  refine ⟨rfl, fun hrequest => ?_, fun later hmade => ?_⟩
  · rcases hrequest with hcancelled | hread
    · obtain ⟨rfl, hfailed⟩ := h hcancelled
      exact .of_failed rfl (hstays.phase.trans hfailed)
    · exact absurd (hstays.requests ▸ hread) (Nat.lt_irrefl _)
  · cases hmade.isEarly

/-- A refusal gives way to a request that has come with it. -/
theorem giveUp_heeds {session : Session} (hreader : session.reader.isSome = true)
    (e : Sink.Error) (logged : Logged σ) :
    Heeds session logged (giveUp e session logged)
      [{ event := .failed (session.fail (.sink e)).1 }] := by
  have hended := Session.fail_ended session hreader (.sink e)
  refine (mourn_heeds logged fun hcancelled => ⟨?_, hended.phase_eq⟩).before
    (Session.fail_uses session (.sink e))
  exact if_pos (hended.cancelled.symm.trans hcancelled)

/-- The end is told only if no request has come. -/
theorem conclude_heeds (summary : Summary) {session : Session}
    (h : session.isCancelled = false) (logged : Logged σ) :
    Heeds session logged (conclude summary session logged)
      [.of .ended (onEnd logged).result] := by
  have hstays := session.undergoAll_stays (onEnd logged).effects
  have hrequests :
      (conclude summary session logged).2.1.feed.requests = session.feed.requests := by
    unfold conclude
    dsimp only
    split
    · exact hstays.requests
    · exact hstays.requests
  refine ⟨?_, fun hrequest => ?_, fun later hmade => ?_⟩
  · unfold conclude
    dsimp only
    split
    · rw [calls_onEnd]
    · rw [calls_onEnd]
  · rcases hrequest with hcancelled | hread
    · rw [h] at hcancelled
      cases hcancelled
    · rw [hrequests] at hread
      exact absurd hread (Nat.lt_irrefl _)
  · have hearly := hmade.isEarly
    rw [Call.event_of] at hearly
    cases hearly

/-! ## The delivery -/

/-- Nothing is delivered of a session that has been cancelled. -/
theorem deliverFrames_of_cancelled (summary : Summary) {session : Session}
    (hphase : session.phase = .streaming) (h : session.isCancelled = true) (sink : σ) :
    deliverFrames summary session sink = mourn .closed (session.fail .closed).2 sink := by
  rw [deliverFrames_eq, Session.next_of_streaming hphase, Session.pull_of_cancelled h]

/-- Of a session that has been cancelled the sink is told nothing but that. -/
theorem Heeds.stops {summary : Summary} {session : Session} {logged : Logged σ}
    {calls : List Call} (h : Heeds session logged (deliverFrames summary session logged) calls)
    (hphase : session.phase = .streaming) (hcancelled : session.isCancelled = true) :
    calls = [{ event := .failed .closed }] := by
  have hcalls := h.calls_eq
  rw [deliverFrames_of_cancelled summary hphase hcancelled] at hcalls
  exact (List.append_cancel_left hcalls).symm

/-- **Frame by frame, a delivery heeds every request.** -/
theorem deliverFrames_heeds (summary : Summary) (session : Session) (logged : Logged σ) :
    session.Open .streaming →
      ∃ calls, Heeds session logged (deliverFrames summary session logged) calls := by
  fun_induction deliverFrames summary session logged with
  | case1 summary session logged failure session' hnext =>
    intro hopen
    have huses := session.next_uses
    rw [hnext] at huses
    rw [Session.next_of_streaming hopen.phase_eq] at hnext
    -- A failure is `closed` if a request has come by then.
    have hend := (Session.pull_eq_end hopen.reader hnext fun _ hframe => by cases hframe).2.2
    refine ⟨_, (mourn_heeds logged fun hcancelled => ?_).before huses⟩
    obtain ⟨hanswer, hfailed⟩ := hend hcancelled
    exact ⟨Except.error.inj hanswer, hfailed⟩
  | case2 summary session logged session' hnext =>
    intro hopen
    have huses := session.next_uses
    rw [hnext] at huses
    rw [Session.next_of_streaming hopen.phase_eq] at hnext
    have hend := (Session.pull_eq_end hopen.reader hnext fun _ hframe => by cases hframe).2.2
    refine ⟨_, (conclude_heeds summary ?_ logged).before huses⟩
    cases hcancelled : session'.isCancelled with
    | false => rfl
    | true => cases (hend hcancelled).1
  | case3 summary session logged frame session' hnext reply e hreply =>
    intro hopen
    have huses := session.next_uses
    rw [hnext] at huses
    have hopen' := (Session.open_of_next_frame hopen hnext).undergoAll reply.effects
    refine ⟨_, Heeds.before (Heeds.tell (.frame frame) rfl rfl rfl
      (giveUp_heeds hopen'.reader e reply.sink) fun hcancelled => ?_) huses⟩
    rw [Session.fail_fst, if_pos hcancelled]
  | case4 summary session logged frame session' hnext reply hreply ih =>
    intro hopen
    have huses := session.next_uses
    rw [hnext] at huses
    have hopen' := (Session.open_of_next_frame hopen hnext).undergoAll reply.effects
    obtain ⟨calls, hheeds⟩ := ih hopen'
    -- The request may have come before, with this frame or later; what follows heeds all three.
    exact ⟨_, Heeds.before (Heeds.tell (.frame frame) rfl rfl rfl hheeds
      (hheeds.stops hopen'.phase_eq)) huses⟩

/-- **A delivery heeds every request to cancel** that comes before the session is over. -/
theorem run_heeds {session : Session} (h : session.Lawful)
    (hopen : session.phase.isTerminal = false) (logged : Logged σ) :
    ∃ calls, Heeds session logged (run session logged) calls := by
  have huses := session.handshake_uses
  unfold run
  rcases Session.handshake_cases h with ⟨told, last, heq, hstreaming, -⟩ | ⟨failure, last, heq, -⟩
  · rw [heq] at huses ⊢
    have hopen' := hstreaming.undergoAll (onAnnouncement logged told).effects
    dsimp only
    cases hresult : (onAnnouncement logged told).result with
    | error e =>
      refine ⟨_, Heeds.before (Heeds.tell (.announced told) rfl rfl rfl
        (giveUp_heeds hopen'.reader e (onAnnouncement logged told).sink)
        fun hcancelled => ?_) huses⟩
      rw [Session.fail_fst, if_pos hcancelled]
    | ok =>
      obtain ⟨calls, hheeds⟩ := deliverFrames_heeds { announcement := told } _
        (onAnnouncement logged told).sink hopen'
      exact ⟨_, Heeds.before (Heeds.tell (.announced told) rfl rfl rfl hheeds
        (hheeds.stops hopen'.phase_eq)) huses⟩
  · rw [heq] at huses ⊢
    refine ⟨_, (mourn_heeds logged fun hcancelled => ?_).before huses⟩
    -- Of the sessions that are not over, only one that is connected can fail its handshake.
    rcases h.connected_or_streaming hopen with hconnected | hstreaming
    · rw [Session.handshake_of_connected hconnected.phase_eq] at heq
      obtain ⟨hfailed, -, hclosed⟩ := Session.openStream_eq_error hconnected.reader heq
      exact ⟨hclosed hcancelled, hfailed⟩
    · obtain ⟨told, hmade⟩ := Session.handshake_of_streaming h hstreaming.phase_eq
      rw [hmade] at heq
      cases heq

theorem mourn_idle (failure : Failure) (session : Session) (sink : σ) :
    session.feed.Idle (mourn failure session sink).2.1.feed :=
  (session.undergoAll_stays _).idle

/-- A delivery of a session that has been cancelled does not touch its channel. -/
theorem run_idle {session : Session} (h : session.Lawful) (hcancelled : session.isCancelled = true)
    (sink : σ) : session.feed.Idle (run session sink).2.1.feed := by
  unfold run
  cases hterminal : session.phase.isTerminal with
  | true =>
    rw [Session.handshake_of_terminal hterminal]
    exact mourn_idle .closed session sink
  | false =>
    rcases h.connected_or_streaming hterminal with hconnected | hstreaming
    · rw [Session.handshake_of_connected hconnected.phase_eq,
        Session.openStream_of_cancelled hcancelled]
      exact (Session.fail_idle session .closed).trans (mourn_idle _ _ sink)
    · obtain ⟨told, heq⟩ := Session.handshake_of_streaming h hstreaming.phase_eq
      rw [heq]
      dsimp only
      -- The sink is told of the announcement once more, and then of the failure.
      have hidle := (session.undergoAll_stays (onAnnouncement sink told).effects).idle
      have hcancelled' :=
        Session.isCancelled_undergoAll hcancelled (onAnnouncement sink told).effects
      have hphase' := (hstreaming.undergoAll (onAnnouncement sink told).effects).phase_eq
      cases (onAnnouncement sink told).result with
      | error e => exact hidle.trans ((Session.fail_idle _ (.sink e)).trans (mourn_idle _ _ _))
      | ok =>
        dsimp only
        rw [deliverFrames_of_cancelled _ hphase' hcancelled']
        exact hidle.trans ((Session.fail_idle _ .closed).trans (mourn_idle _ _ _))

/-- A delivery of a session that is over takes no notice of a request to cancel. -/
theorem run_cancel {session : Session} (h : session.phase.isTerminal = true) (sink : σ) :
    (run session.cancel sink).1 = (run session sink).1 ∧
      (run session.cancel sink).2.1.view = (run session sink).2.1.view ∧
      (run session.cancel sink).2.2 = (run session sink).2.2 := by
  have hcancel : session.cancel.phase.isTerminal = true := h
  have hview := (Session.Stays.cancel session).view_eq
  unfold run
  rw [Session.handshake_of_terminal h, Session.handshake_of_terminal hcancel]
  refine ⟨rfl, ?_, rfl⟩
  -- What the sink does on the failure is not seen of a session that is over, either.
  have hafter := (session.undergoAll_stays (onFailure sink .closed).2).view_eq
  have hafter' := (session.cancel.undergoAll_stays (onFailure sink .closed).2).view_eq
  exact hafter'.trans (hview.trans hafter.symm)

/-! ## The last moment -/

/-- What a delivery comes to at the end does not depend on the order of the reports. -/
theorem conclude_reordered (summary : Summary) {first second : Session}
    (h : first.Reordered second) (sink : σ) :
    (conclude summary first sink).1 = (conclude summary second sink).1 ∧
      (conclude summary first sink).2.1.Reordered (conclude summary second sink).2.1 ∧
      (conclude summary first sink).2.2 = (conclude summary second sink).2.2 := by
  have hafter := h.undergoAll (onEnd sink).effects
  unfold conclude
  dsimp only
  cases (onEnd sink).result with
  | error e => exact ⟨rfl, hafter, rfl⟩
  | ok => exact ⟨rfl, hafter.undergo (.note _), rfl⟩

/-- **A request that comes at the last moment**, when the session has looked for one and still holds
its channel, has the effect of one that the sink makes first of all when it is told of the end. -/
theorem deliverFrames_parting (summary : Summary) {session last : Session}
    (hopen : session.Open .streaming) (hnext : session.next = (.ok none, last)) {sink hasty : σ}
    (hhasty : onEnd hasty = { onEnd sink with effects := .cancel :: (onEnd sink).effects }) :
    ∃ held : Session, held.Open .streaming ∧ held.isCancelled = false ∧
      deliverFrames summary session sink = conclude summary (held.release .closed) sink ∧
      let parted := conclude summary (held.cancel.release .closed) sink
      let after := deliverFrames summary session hasty
      parted.1 = after.1 ∧ parted.2.1.Reordered after.2.1 ∧ parted.2.2 = after.2.2 := by
  have hpull := hnext
  rw [Session.next_of_streaming hopen.phase_eq] at hpull
  obtain ⟨held, hheld, hcalm, rfl, hreordered⟩ := Session.pull_eq_none hopen hpull
  refine ⟨held, hheld, hcalm, ?_, ?_⟩
  · rw [deliverFrames_eq, hnext]
  · intro parted after
    have hafter : after = conclude summary (held.release .closed).cancel sink := by
      show deliverFrames summary session hasty = _
      rw [deliverFrames_eq, hnext]
      dsimp only
      unfold conclude
      rw [hhasty]
      rfl
    rw [hafter]
    exact conclude_reordered summary hreordered sink

/-! ## The law of cancellation -/

/-- How a session, and a delivery of it to sinks of some type, take requests to cancel. -/
structure HeedsRequests (session : Session) (σ : Type) [Sink σ] : Prop where
  /-- A session that is over takes no notice. -/
  terminal : session.phase.isTerminal = true →
    session.cancel.view = session.view ∧
      (∀ operations, session.cancel.observe operations = session.observe operations) ∧
      ∀ sink : σ, (run session.cancel sink).1 = (run session sink).1 ∧
        (run session.cancel sink).2.1.view = (run session sink).2.1.view ∧
        (run session.cancel sink).2.2 = (run session sink).2.2
  /-- The operation that meets a request completes, and what is asked for next is refused; or it is
  refused itself. -/
  met : session.phase.isTerminal = false → ∀ operation, operation ≠ .close →
    session.Meets operation →
      (session.perform operation).1.Completes session.intake.limit ∧
          (session.perform operation).2.Doomed ∨
        (session.perform operation).1 = operation.refusal ∧ (session.perform operation).2.Dead
  /-- The channel is left alone after that. -/
  unread : ∀ operation, session.Meets operation → ∀ later,
    let after := (session.perform operation).2
    after.feed.Idle (after.performAll later).2.feed ∧
      ∀ sink : σ, after.feed.Idle (run (after.performAll later).2 sink).2.1.feed
  /-- A delivery that meets a request, or whose sink makes one, is cut short. -/
  delivered : session.phase.isTerminal = false → ∀ sink : σ, ∃ calls,
    run session ({ sink } : Logged σ) =
        ((run session sink).1, (run session sink).2.1, { sink := (run session sink).2.2, calls }) ∧
      Heeds session { sink } (run session ({ sink } : Logged σ)) calls

/-- **Every reachable session heeds requests to cancel**, whenever they come. -/
theorem cancellation {session : Session} (h : session.Reachable) : HeedsRequests session σ where
  terminal hterminal := by
    obtain ⟨hview, hobserve⟩ := Session.observe_cancel h.lawful.held hterminal
    exact ⟨hview, hobserve, run_cancel hterminal⟩
  met hopen operation hclose hmeets := Session.perform_met h.lawful hopen hclose hmeets
  unread operation hmeets later := by
    intro after
    have hafter : after.Lawful := Session.perform_lawful h.lawful operation
    have hidle := Session.performAll_idle hafter hmeets.isCancelled later
    have hlast := Session.performAll_lawful hafter later
    have hcancelled : (after.performAll later).2.isCancelled = true :=
      Session.performAll_induction (P := fun s => s.isCancelled = true)
        (fun _ operation hc => Session.isCancelled_perform hc operation) hmeets.isCancelled later
    exact ⟨hidle, fun sink => hidle.trans (run_idle hlast hcancelled sink)⟩
  delivered hopen sink := by
    obtain ⟨calls, hheeds⟩ := run_heeds h.lawful hopen ({ sink } : Logged σ)
    refine ⟨calls, ?_, hheeds⟩
    have hbare := run_bare session ({ sink } : Logged σ)
    have hcalls := hheeds.calls_eq
    generalize run session ({ sink } : Logged σ) = logged at hbare hcalls ⊢
    obtain ⟨result, last, sink', calls'⟩ := logged
    rw [← hbare]
    dsimp only at hcalls
    rw [hcalls]
    rfl

/-- A request that comes inside the header of the first frame: the frame is given, and then nothing.
A sink that cancels with the first frame as it refuses it is told of nothing but `closed`. -/
theorem cancellation_inside_frame :
    let told : Announcement := ⟨"Pixel", ⟨.h264, 1280, 720⟩⟩
    let sent : Frame := ⟨⟨false, true, 7, 2⟩, [0xAB, 0xCD]⟩
    let script : List Item := [.data (told.encode ++ sent.encode), .data (sent.encode.take 5),
      .cancel, .data (sent.encode.drop 5), .data sent.encode]
    let opened := (Session.start { script } { expectProbe := false } 2).handshake.2
    let session := opened.next.2
    let sink : Witness := {
      name := "player", refuseFrame := some (0, .processGone "player"), cancelAt := some 0 }
    session.Reachable ∧ session.Meets .next ∧ (session.perform .next).1.frame? = some sent ∧
      (session.perform .next).2.Doomed ∧
      (run opened sink).1 = .error .closed ∧ (run opened sink).2.1.Dead := by
  intro told sent script opened session sink
  have hclosed : ({ script } : Feed).history.closes = 0 := rfl
  have hopened : opened.Reachable := .handshake (.start hclosed { expectProbe := false } 2)
  have hreachable : session.Reachable := .next hopened
  have hmeets : session.Meets .next := by
    refine .inr (.inr ?_)
    decide +kernel
  have hframe : (session.perform .next).1.frame? = some sent := by decide +kernel
  have hgoing : session.phase.isTerminal = false := by decide +kernel
  have hdoomed : (session.perform .next).2.Doomed := by
    rcases (cancellation (σ := Witness) hreachable).met hgoing .next nofun hmeets with
      ⟨-, hdoomed⟩ | ⟨hrefused, -⟩
    · exact hdoomed
    · rw [hrefused] at hframe
      cases hframe
  have hopen : opened.phase.isTerminal = false := by decide +kernel
  obtain ⟨calls, hrun, hheeds⟩ := (cancellation hopened).delivered hopen sink
  have hcalls : (run opened ({ sink } : Logged Witness)).2.2.calls =
      [{ event := .announced told },
        { event := .frame sent, refusal := some (.processGone "player") },
        { event := .failed .closed }] := by decide +kernel
  have hmade : CancelsBefore [.failed .closed] sink
      [.announced told, .frame sent, .failed .closed] := .after (.now rfl List.mem_cons_self)
  rw [hrun] at hcalls hheeds
  dsimp only at hcalls
  subst hcalls
  obtain ⟨hcut, -⟩ := hheeds.made _ hmade
  exact ⟨hreachable, hmeets, hframe, hdoomed, hcut.result, hcut.dead⟩

end Delivery

end Screencast
