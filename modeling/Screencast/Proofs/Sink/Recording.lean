/-
A recording and a tally beside it.

Both count the frames that they are told of, the recording also writes them.
They are told side by side, as a pair, so the tally counts a frame only once
the recording has taken it. So both agree with the log of the recording, and
what its drain was given agrees with it, after every event (`Faithful.react`),
as long as no frame follows a frame that was refused (`Faithful.tell`).
-/
import Screencast.Proofs.Delivery.Told
import Screencast.Proofs.Drain.Buffered
import Screencast.Sink.Recording
import Screencast.Sink.Tally

namespace Screencast.Sink

open Delivery

/-! ## The frames of a log -/

/-- The frame of which a sink is told. -/
def Event.frame? : Event → Option Frame
  | frame told => some told
  | announced _ | ended | failed _ => none

/-- The frame that a sink was told of and took. -/
def Call.accepted? (call : Call) : Option Frame :=
  match call.refusal with
  | none => call.event.frame?
  | some _ => none

/-- The frames that a sink took, in order. -/
def accepted (calls : List Call) : List Frame := calls.filterMap Call.accepted?

/-- The last call that told of a frame. -/
def lastFrame? (calls : List Call) : Option Call :=
  (calls.filter fun call => call.event.frame?.isSome).getLast?

/-- No frame is told after a refusal. -/
def Orderly (calls : List Call) : Prop :=
  calls.Pairwise fun earlier later => later.event.frame?.isSome = true → earlier.refusal = none

theorem payloadTotal_append (first second : List Frame) :
    payloadTotal (first ++ second) = payloadTotal first + payloadTotal second := by
  induction first with
  | nil => exact (Nat.zero_add _).symm
  | cons frame rest ih =>
    rw [List.cons_append, payloadTotal, payloadTotal, ih, Nat.add_assoc]

theorem accepted_concat (calls : List Call) (call : Call) :
    accepted (calls ++ [call]) = accepted calls ++ call.accepted?.toList := by
  rw [accepted, List.filterMap_append]
  cases hcall : call.accepted? <;> simp [accepted, hcall]

theorem lastFrame?_concat (calls : List Call) (call : Call) :
    lastFrame? (calls ++ [call]) =
      if call.event.frame?.isSome then some call else lastFrame? calls := by
  rw [lastFrame?, List.filter_append]
  cases hcall : call.event.frame?.isSome <;> simp [lastFrame?, hcall]

/-! ## A recording alone -/

theorem recording_takes {recording : Recording} {frame : Frame}
    (h : (recording.out.writeAll frame.payload).1 = .ok ()) :
    answer recording (.frame frame) = .ok () ∧
      (react recording (.frame frame)).1 =
        { recording with
          out := (recording.out.writeAll frame.payload).2
          written := recording.written + frame.payload.length } := by
  rcases hwrite : recording.out.writeAll frame.payload with ⟨fault | _, out⟩
  · rw [hwrite] at h
    cases h
  · constructor <;> simp only [answer, react, onFrame, hwrite]

theorem recording_refuses {recording : Recording} {frame : Frame} {fault : Fault}
    (h : (recording.out.writeAll frame.payload).1 = .error fault) :
    answer recording (.frame frame) = .error (.io fault) ∧
      (react recording (.frame frame)).1 =
        { recording with out := (recording.out.writeAll frame.payload).2 } := by
  rcases hwrite : recording.out.writeAll frame.payload with ⟨fault' | _, out⟩
  · rw [hwrite] at h
    cases h
    constructor <;> simp only [answer, react, onFrame, hwrite]
  · rw [hwrite] at h
    cases h

/-- Whether or not a payload can be written, the drain is written to and nothing else. -/
theorem out_react_frame (recording : Recording) (frame : Frame) :
    (react recording (.frame frame)).1.out = (recording.out.writeAll frame.payload).2 := by
  cases hresult : (recording.out.writeAll frame.payload).1 with
  | ok => rw [(recording_takes hresult).2]
  | error fault => rw [(recording_refuses hresult).2]

/-- The end and a failure flush the drain and do nothing else. -/
theorem react_recording_late (recording : Recording) {event : Event}
    (hlate : event.isEarly = false) :
    (react recording event).1 = { recording with out := recording.out.flush.2 } := by
  cases event with
  | announced told => cases hlate
  | frame frame => cases hlate
  | ended => rfl
  | failed failure => rfl

/-- The payloads of which a sink is told. -/
def payloads (events : List Event) : List (List UInt8) :=
  (events.filterMap Event.frame?).map Frame.payload

theorem payloads_cons_announced (told : Announcement) (rest : List Event) :
    payloads (.announced told :: rest) = payloads rest := rfl

theorem payloads_cons_frame (frame : Frame) (rest : List Event) :
    payloads (.frame frame :: rest) = frame.payload :: payloads rest := rfl

/-- The announcement and frames write every payload, in order, and do nothing else to the drain. -/
theorem out_tell (recording : Recording) {events : List Event}
    (hearly : ∀ event ∈ events, event.isEarly = true) :
    (tell recording events).out = recording.out.writeEach (payloads events) := by
  induction events generalizing recording with
  | nil => rfl
  | cons event rest ih =>
    obtain ⟨hevent, hrest⟩ := List.forall_mem_cons.mp hearly
    rw [tell_cons, ih _ hrest]
    cases event with
    | announced told => rw [payloads_cons_announced]; rfl
    | frame frame => rw [payloads_cons_frame, out_react_frame]; rfl
    | ended => cases hevent
    | failed failure => cases hevent

/-- A recording keeps the buffer that it has. -/
theorem capacity_tell (recording : Recording) (events : List Event) :
    (tell recording events).out.capacity = recording.out.capacity := by
  induction events generalizing recording with
  | nil => rfl
  | cons event rest ih =>
    rw [tell_cons, ih]
    cases event with
    | announced told => rfl
    | frame frame => rw [out_react_frame, Drain.Buffered.capacity_writeAll]
    | ended => exact Drain.Buffered.capacity_flush _
    | failed failure => exact Drain.Buffered.capacity_flush _

/-! ## A tally beside another sink -/

section

variable {σ : Type} [Sink σ]

/-- What a tally becomes beside a sink that answers an event. -/
def Tally.beside (tally : Tally) (event : Event) (result : Except Sink.Error Unit) : Tally :=
  match event, result with
  | .frame frame, .ok () => tally.count frame
  | _, _ => tally

/-- A tally refuses nothing, so the pair answers as the other sink does, and the tally counts the
frames that the other one takes. -/
theorem react_beside (sinks : σ × Tally) (event : Event) :
    answer sinks event = answer sinks.1 event ∧
      (react sinks event).1 =
        ((react sinks.1 event).1, sinks.2.beside event (answer sinks.1 event)) := by
  cases event with
  | announced told =>
    cases hresult : (onAnnouncement sinks.1 told).result <;>
      simp [answer, react, onAnnouncement, Reply.andThen, Tally.beside, hresult]
  | frame frame =>
    cases hresult : (onFrame sinks.1 frame).result <;>
      simp [answer, react, onFrame, Reply.andThen, Tally.beside, hresult]
  | ended =>
    cases hresult : (onEnd sinks.1).result <;>
      simp [answer, react, onEnd, Reply.both, Tally.beside, hresult]
  | failed failure => simp [answer, react, onFailure, Tally.beside]

end

/-! ## A tally beside a recording -/

/-- The part of a payload that a drain was given beyond the frames that were taken: there is one
only of a frame that was refused and was the last that was told. -/
def Surplus (calls : List Call) (part : List UInt8) : Prop :=
  part = [] ∨ ∃ frame e, lastFrame? calls = some { event := .frame frame, refusal := some e } ∧
    part <+: frame.payload ∧ part ≠ frame.payload

/-- A recording and a tally agree with the calls that the recording received. -/
structure Faithful (calls : List Call) (recording : Recording) (tally : Tally) : Prop where
  frames : tally.frames = (accepted calls).length
  configs : tally.configs = (accepted calls).countP (·.header.config)
  keyframes : tally.keyframes = (accepted calls).countP (·.header.keyframe)
  bytes : tally.bytes = payloadTotal (accepted calls)
  written : recording.written = payloadTotal (accepted calls)
  given : ∃ part, Surplus calls part ∧
    recording.out.given = (accepted calls).flatMap Frame.payload ++ part
  fits : recording.out.Fits

namespace Faithful

variable {calls : List Call} {recording : Recording} {tally : Tally}

/-- A recording that has refused nothing was given what it took and nothing else. -/
theorem given_of_no_refusal (h : Faithful calls recording tally)
    (hnone : ∀ call ∈ calls, call.refusal = none) :
    recording.out.given = (accepted calls).flatMap Frame.payload := by
  obtain ⟨part, rfl | ⟨frame, e, hlast, -⟩, hgiven⟩ := h.given
  · rw [hgiven, List.append_nil]
  · have hmem := (List.mem_filter.mp (List.mem_of_getLast? hlast)).1
    cases hnone _ hmem

/-- A call that tells of no frame changes nothing if the recording is given nothing by it. -/
theorem other (h : Faithful calls recording tally) {call : Call}
    (hcall : call.event.frame? = none) {recording' : Recording}
    (hgiven : recording'.out.given = recording.out.given)
    (hwritten : recording'.written = recording.written) (hfits : recording'.out.Fits) :
    Faithful (calls ++ [call]) recording' tally := by
  have haccepted : accepted (calls ++ [call]) = accepted calls := by
    have hnone : call.accepted? = none := by
      unfold Call.accepted?
      cases call.refusal with
      | none => exact hcall
      | some e => rfl
    rw [accepted_concat, hnone, Option.toList_none, List.append_nil]
  have hlast : lastFrame? (calls ++ [call]) = lastFrame? calls := by
    rw [lastFrame?_concat, hcall]
    rfl
  obtain ⟨part, hpart, htaken⟩ := h.given
  constructor
  case frames => rw [haccepted, h.frames]
  case configs => rw [haccepted, h.configs]
  case keyframes => rw [haccepted, h.keyframes]
  case bytes => rw [haccepted, h.bytes]
  case written => rw [haccepted, hwritten, h.written]
  case given =>
    refine ⟨part, ?_, ?_⟩
    · rw [Surplus, hlast]
      exact hpart
    · rw [haccepted, hgiven, htaken]
  case fits => exact hfits

/-- A frame that is taken is counted, and its whole payload is given to the drain. -/
theorem takes (h : Faithful calls recording tally) (hnone : ∀ call ∈ calls, call.refusal = none)
    {frame : Frame} {out : Drain.Buffered} (hfits : out.Fits)
    (hout : out.given = recording.out.given ++ frame.payload) :
    Faithful (calls ++ [took (.frame frame)])
      { recording with out, written := recording.written + frame.payload.length }
      (tally.count frame) := by
  have haccepted : accepted (calls ++ [took (.frame frame)]) = accepted calls ++ [frame] :=
    accepted_concat calls _
  have htotal : payloadTotal (accepted calls ++ [frame]) =
      payloadTotal (accepted calls) + frame.payload.length := by
    rw [payloadTotal_append]
    rfl
  constructor
  case frames =>
    rw [haccepted, List.length_append, ← h.frames]
    rfl
  case configs =>
    rw [haccepted, List.countP_append, ← h.configs, List.countP_singleton]
    show _ + frame.header.config.toNat = _
    cases frame.header.config <;> rfl
  case keyframes =>
    rw [haccepted, List.countP_append, ← h.keyframes, List.countP_singleton]
    show _ + frame.header.keyframe.toNat = _
    cases frame.header.keyframe <;> rfl
  case bytes =>
    rw [haccepted, htotal, ← h.bytes]
    rfl
  case written => rw [haccepted, htotal, ← h.written]
  case given =>
    refine ⟨[], .inl rfl, ?_⟩
    rw [haccepted, List.append_nil, List.flatMap_append, ← h.given_of_no_refusal hnone,
      List.flatMap_singleton]
    exact hout
  case fits => exact hfits

/-- A frame that is refused is not counted, and the drain is given less than its payload. -/
theorem refuses (h : Faithful calls recording tally) (hnone : ∀ call ∈ calls, call.refusal = none)
    {frame : Frame} {e : Sink.Error} {out : Drain.Buffered} (hfits : out.Fits)
    {part : List UInt8} (hpart : part <+: frame.payload) (hne : part ≠ frame.payload)
    (hout : out.given = recording.out.given ++ part) :
    Faithful (calls ++ [{ event := .frame frame, refusal := some e }]) { recording with out }
      tally := by
  have haccepted : accepted (calls ++ [{ event := .frame frame, refusal := some e }]) =
      accepted calls := by
    rw [accepted_concat]
    exact List.append_nil _
  have hlast : lastFrame? (calls ++ [{ event := .frame frame, refusal := some e }]) =
      some { event := .frame frame, refusal := some e } := lastFrame?_concat calls _
  constructor
  case frames => rw [haccepted, h.frames]
  case configs => rw [haccepted, h.configs]
  case keyframes => rw [haccepted, h.keyframes]
  case bytes => rw [haccepted, h.bytes]
  case written => rw [haccepted, h.written]
  case given =>
    refine ⟨part, .inr ⟨frame, e, hlast, hpart, hne⟩, ?_⟩
    rw [haccepted, ← h.given_of_no_refusal hnone]
    exact hout
  case fits => exact hfits

end Faithful

/-! ## Told side by side -/

/-- What an event makes of a logged sink and a tally beside it. -/
theorem react_logged_beside {σ : Type} [Sink σ] (sinks : Logged σ × Tally) (event : Event) :
    (react sinks event).1 =
      ({ sink := (react sinks.1.sink event).1,
         calls := sinks.1.calls ++ [.of event (answer sinks.1.sink event)] },
        sinks.2.beside event (answer sinks.1.sink event)) := by
  rw [(react_beside sinks event).2, react_logged, answer_logged]

/-- The other sink is told of the same events. -/
theorem tell_beside {σ : Type} [Sink σ] (sinks : σ × Tally) (events : List Event) :
    (tell sinks events).1 = tell sinks.1 events := by
  induction events generalizing sinks with
  | nil => rfl
  | cons event rest ih => rw [tell_cons, tell_cons, ih, (react_beside sinks event).2]

/-- The log of the recording is the log of the pair. -/
theorem calls_tell_beside {σ : Type} [Sink σ] (sinks : Logged σ × Tally) (events : List Event) :
    (tell sinks events).1.calls = sinks.1.calls ++ callsOf sinks events := by
  induction events generalizing sinks with
  | nil => exact (List.append_nil _).symm
  | cons event rest ih =>
    rw [tell_cons, ih, callsOf, react_logged_beside, (react_beside sinks event).1, answer_logged]
    dsimp only
    rw [List.append_assoc]
    rfl

/-- **Whatever the recording and the tally are told next, they agree with the log.** -/
theorem Faithful.react {sinks : Logged Recording × Tally}
    (h : Faithful sinks.1.calls sinks.1.sink sinks.2) {event : Event}
    (horder : event.frame?.isSome = true → ∀ call ∈ sinks.1.calls, call.refusal = none) :
    Faithful (Sink.react sinks event).1.1.calls (Sink.react sinks event).1.1.sink
      (Sink.react sinks event).1.2 := by
  rw [react_logged_beside]
  dsimp only
  cases event with
  | announced told => exact h.other rfl rfl rfl h.fits
  | ended =>
    exact h.other (by rw [Call.event_of]; rfl) (Drain.Buffered.given_flush _) rfl
      (Drain.Buffered.flush_fits h.fits)
  | failed failure =>
    exact h.other rfl (Drain.Buffered.given_flush _) rfl (Drain.Buffered.flush_fits h.fits)
  | frame frame =>
    have hnone := horder rfl
    have hfits := Drain.Buffered.writeAll_fits h.fits frame.payload
    have hadds := Drain.Buffered.writeAll_adds h.fits frame.payload
    cases hwrite : (sinks.1.sink.out.writeAll frame.payload).1 with
    | ok =>
      obtain ⟨hanswer, hreact⟩ := recording_takes hwrite
      rw [hwrite] at hadds
      rw [hanswer, hreact]
      exact h.takes hnone hfits hadds
    | error fault =>
      obtain ⟨hanswer, hreact⟩ := recording_refuses hwrite
      rw [hwrite] at hadds
      obtain ⟨part, hpart, hne, hgiven⟩ := hadds
      rw [hanswer, hreact]
      exact h.refuses hnone hfits hpart hne hgiven

/-- **They agree after any events** of which no frame follows a refusal. -/
theorem Faithful.tell {sinks : Logged Recording × Tally}
    (h : Faithful sinks.1.calls sinks.1.sink sinks.2) {events : List Event}
    (horder : Orderly (sinks.1.calls ++ callsOf sinks events)) :
    Faithful (Sink.tell sinks events).1.calls (Sink.tell sinks events).1.sink
      (Sink.tell sinks events).2 := by
  induction events generalizing sinks with
  | nil => exact h
  | cons event rest ih =>
    have hcalls : (Sink.react sinks event).1.1.calls = _ := calls_tell_beside sinks [event]
    have hnone : event.frame?.isSome = true → ∀ call ∈ sinks.1.calls, call.refusal = none := by
      intro hframe call hcall
      obtain ⟨-, -, hcross⟩ := List.pairwise_append.mp horder
      refine hcross call hcall _ List.mem_cons_self ?_
      rw [Call.event_of]
      exact hframe
    refine ih (h.react hnone) ?_
    rw [hcalls, List.append_assoc]
    exact horder

end Screencast.Sink
