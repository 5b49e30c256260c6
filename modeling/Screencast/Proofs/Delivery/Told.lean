/-
What becomes of a sink in a delivery.

A delivery does nothing to its sink but to tell it of events. So the sink that
it leaves is the one that these events make of it, and the calls in its log are
these events and its answers to them (`run_told`): whatever single events keep,
a delivery keeps. The calls always end in one of a few ways, after events that
the sink took (`Course.finale`).
-/
import Screencast.Proofs.Delivery.Cancellation
import Screencast.Proofs.Delivery.Course

namespace Screencast

namespace Sink

/-! ## Events in turn -/

section

variable {σ : Type} [Sink σ]

/-- What a sink answers to an event. A failure cannot be refused. -/
def answer (sink : σ) : Event → Except Sink.Error Unit
  | .announced told => (onAnnouncement sink told).result
  | .frame frame => (onFrame sink frame).result
  | .ended => (onEnd sink).result
  | .failed _ => .ok ()

/-- What a sink becomes that is told of events in turn. -/
def tell (sink : σ) (events : List Event) : σ :=
  events.foldl (fun sink event => (react sink event).1) sink

/-- The calls by which a sink is told of events in turn. -/
def callsOf (sink : σ) : List Event → List Call
  | [] => []
  | event :: rest => .of event (answer sink event) :: callsOf (react sink event).1 rest

/-- The call of an event that was taken. -/
def took (event : Event) : Call := { event }

theorem tell_cons (sink : σ) (event : Event) (rest : List Event) :
    tell sink (event :: rest) = tell (react sink event).1 rest := rfl

theorem tell_append (sink : σ) (first second : List Event) :
    tell sink (first ++ second) = tell (tell sink first) second := List.foldl_append

theorem tell_concat (sink : σ) (events : List Event) (event : Event) :
    tell sink (events ++ [event]) = (react (tell sink events) event).1 :=
  tell_append sink events [event]

theorem callsOf_append (sink : σ) (first second : List Event) :
    callsOf sink (first ++ second) = callsOf sink first ++ callsOf (tell sink first) second := by
  induction first generalizing sink with
  | nil => rfl
  | cons event rest ih =>
    have hrest := ih (react sink event).1
    rw [List.cons_append, callsOf, hrest]
    rfl

/-- A call holds the event that it is made for. -/
theorem map_event_callsOf (sink : σ) (events : List Event) :
    (callsOf sink events).map Call.event = events := by
  induction events generalizing sink with
  | nil => rfl
  | cons event rest ih => rw [callsOf, List.map_cons, Call.event_of, ih]

/-- The first call tells how the first event was answered. -/
theorem answer_of_callsOf {sink : σ} {events : List Event} {call : Call} {rest : List Call}
    (h : callsOf sink events = call :: rest) :
    answer sink call.event =
      match call.refusal with
      | some e => .error e
      | none => .ok () := by
  cases events with
  | nil => cases h
  | cons event later =>
    rw [callsOf, List.cons.injEq] at h
    obtain ⟨rfl, -⟩ := h
    rw [Call.event_of]
    cases answer sink event with
    | error e => rfl
    | ok => rfl

/-- Calls that are made in two parts are made for two parts of the events. -/
theorem callsOf_eq_append {sink : σ} {events : List Event} {first second : List Call}
    (h : callsOf sink events = first ++ second) :
    ∃ events' events'', events = events' ++ events'' ∧ callsOf sink events' = first ∧
      callsOf (tell sink events') events'' = second := by
  have hevents : events = first.map Call.event ++ second.map Call.event := by
    rw [← List.map_append, ← h, map_event_callsOf]
  refine ⟨first.map Call.event, second.map Call.event, hevents, ?_⟩
  rw [hevents, callsOf_append] at h
  have hlength : (callsOf sink (first.map Call.event)).length = first.length := by
    have hmap := congrArg List.length (map_event_callsOf sink (first.map Call.event))
    rwa [List.length_map, List.length_map] at hmap
  exact List.append_inj h hlength

end

/-! ## The log of a logged sink -/

/-- What a logged sink logs of one event. -/
theorem react_logged {σ : Type} [Sink σ] (logged : Logged σ) (event : Event) :
    (react logged event).1 =
      { sink := (react logged.sink event).1,
        calls := logged.calls ++ [.of event (answer logged.sink event)] } := by
  cases event <;> rfl

theorem answer_logged {σ : Type} [Sink σ] (logged : Logged σ) (event : Event) :
    answer logged event = answer logged.sink event := by
  cases event <;> rfl

/-- What a logged sink logs of events in turn. -/
theorem tell_logged {σ : Type} [Sink σ] (logged : Logged σ) (events : List Event) :
    tell logged events =
      { sink := tell logged.sink events, calls := logged.calls ++ callsOf logged.sink events } := by
  induction events generalizing logged with
  | nil => rw [callsOf, List.append_nil]; rfl
  | cons event rest ih =>
    have hrest := ih (react logged event).1
    rw [tell_cons, hrest, react_logged, callsOf]
    dsimp only
    rw [List.append_assoc]
    rfl

end Sink

namespace Delivery

open Sink

variable {σ : Type} [Sink σ]

/-! ## What a delivery does to its sink -/

/-- What the end makes of a sink, whether or not it refuses it. -/
theorem conclude_sink (summary : Summary) (session : Session) (sink : σ) :
    (conclude summary session sink).2.2 = (react sink .ended).1 := by
  unfold conclude
  dsimp only
  cases (onEnd sink).result with
  | error e => rfl
  | ok => rfl

theorem deliverFrames_keeps {P : σ → Prop} (hstep : ∀ sink event, P sink → P (react sink event).1)
    (summary : Summary) (session : Session) {sink : σ} (h : P sink) :
    P (deliverFrames summary session sink).2.2 := by
  fun_induction deliverFrames summary session sink with
  | case1 summary session sink failure session' hnext => exact hstep sink (.failed failure) h
  | case2 summary session sink session' hnext =>
    rw [conclude_sink]
    exact hstep sink .ended h
  | case3 summary session sink frame session' hnext reply e hreply =>
    have hframe := hstep sink (.frame frame) h
    exact hstep reply.sink (.failed _) hframe
  | case4 summary session sink frame session' hnext reply hreply ih =>
    have hframe := hstep sink (.frame frame) h
    exact ih hframe

/-- **What every event keeps of a sink, a delivery keeps.** -/
theorem run_keeps {P : σ → Prop} (hstep : ∀ sink event, P sink → P (react sink event).1)
    (session : Session) {sink : σ} (h : P sink) : P (run session sink).2.2 := by
  unfold run
  rcases session.handshake with ⟨failure | told, session'⟩
  · exact hstep sink (.failed failure) h
  · have htold := hstep sink (.announced told) h
    dsimp only
    cases (onAnnouncement sink told).result with
    | error e => exact hstep (onAnnouncement sink told).sink (.failed _) htold
    | ok => exact deliverFrames_keeps hstep _ _ htold

/-- **A delivery tells its sink of events, and does nothing else to it.** -/
theorem run_told {session : Session} (h : session.Lawful) (sink : σ) :
    ∃ events, (run session sink).2.2 = tell sink events ∧
      Course session (run session sink).2.1 (callsOf sink events) (run session sink).1 := by
  -- The log of the same delivery into a logged sink is the log of what it was told of.
  have hkept : ∃ events, (run session ({ sink } : Logged σ)).2.2 = tell { sink } events := by
    refine run_keeps (P := fun logged => ∃ events, logged = tell ({ sink } : Logged σ) events) ?_
      session ⟨[], rfl⟩
    rintro logged event ⟨events, rfl⟩
    exact ⟨events ++ [event], (tell_concat _ events event).symm⟩
  obtain ⟨events, hlast⟩ := hkept
  obtain ⟨calls, hcalls, hcourse⟩ := run_logged h ({ sink } : Logged σ)
  have hbare := run_bare session ({ sink } : Logged σ)
  rw [tell_logged] at hlast
  rw [hlast] at hcalls
  have hsame : calls = callsOf sink events := hcalls.symm
  refine ⟨events, ?_, ?_⟩
  · rw [← hbare, bare, hlast]
  · rw [← hbare, ← hsame]
    exact hcourse

/-! ## How the calls end -/

/-- The last calls of a delivery that leaves the session as `last`, and what it comes to. -/
inductive Finale (last : Session) : List Call → Except Failure Summary → Prop
  /-- The session failed. -/
  | failed (failure : Failure) : Finale last [{ event := .failed failure }] (.error failure)
  /-- The sink refused the announcement or a frame. -/
  | refused {event : Event} {e : Sink.Error} {failure : Failure} (hearly : event.isEarly = true)
      (hfailure : FailedFor e failure last) :
      Finale last [{ event, refusal := some e }, { event := .failed failure }] (.error failure)
  /-- The sink refused the end. -/
  | endRefused (e : Sink.Error) :
      Finale last [{ event := .ended, refusal := some e }] (.error (.sink e))
  /-- The sink took the end. -/
  | ended (summary : Summary) : Finale last [{ event := .ended }] (.ok summary)

theorem Delivered.finale {given : Nat → List (Except Failure (Option Frame))} {last : Session}
    {summary : Summary} {calls : List Call} {result : Except Failure Summary}
    (h : Delivered given last summary calls result) :
    ∃ (frames : List Frame) (closing : List Call),
      calls = frames.map taken ++ closing ∧ Finale last closing result := by
  cases h with
  | cut frames => exact ⟨frames, _, rfl, .failed _⟩
  | refused frames _ hfailure => exact ⟨frames, _, rfl, .refused rfl hfailure⟩
  | endRefused frames => exact ⟨frames, _, rfl, .endRefused _⟩
  | complete frames => exact ⟨frames, _, rfl, .ended _⟩

/-- **The calls of a delivery end in one way**, after events that the sink took and on which the
session went on. -/
theorem Course.finale {session last : Session} {calls : List Call}
    {result : Except Failure Summary} (h : Course session last calls result) :
    ∃ (shared : List Event) (closing : List Call), calls = shared.map took ++ closing ∧
      (∀ event ∈ shared, event.isEarly = true) ∧ Finale last closing result := by
  cases h with
  | unopened => exact ⟨[], _, rfl, by simp, .failed _⟩
  | refused _ hfailure => exact ⟨[], _, rfl, by simp, .refused rfl hfailure⟩
  | @opened told calls _ _ hdelivered =>
    obtain ⟨frames, closing, rfl, hfinale⟩ := hdelivered.finale
    refine ⟨.announced told :: frames.map .frame, closing, ?_, ?_, hfinale⟩
    · rw [List.map_cons, List.map_map]
      rfl
    · intro event hevent
      rcases List.mem_cons.mp hevent with rfl | hframe
      · rfl
      · obtain ⟨frame, -, rfl⟩ := List.mem_map.mp hframe
        rfl

end Delivery

end Screencast
