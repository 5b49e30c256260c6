/-
What a sink is told in one delivery.

A sink is told of a failure and nothing else; or of the announcement, then of
frames, and then of a failure or of the end (`Course`). Whatever it answers,
the frames are those that the session gives when it is asked for them, from the
first one on, and nothing follows a refusal but the failure that the delivery
comes to (`run_course`).

The session that is delivered bears marks of the sink: notices, testimony,
requests to cancel. So it is followed side by side with a twin that no sink has
touched, for as long as it is not cancelled (`Shadows`).
-/
import Screencast.Proofs.Answers
import Screencast.Proofs.Delivery
import Screencast.Proofs.Session.Twin
import Screencast.Proofs.Sink.Logged
import Screencast.Sink.Witness

namespace Screencast

namespace Session

/-- What a session answers to so many calls in a row. -/
def given (session : Session) (calls : Nat) : List (Except Failure (Option Frame)) :=
  (answers next calls session).1

theorem given_succ (session : Session) (calls : Nat) :
    session.given (calls + 1) = session.next.1 :: session.next.2.given calls := rfl

end Session

namespace Delivery

open Sink

/-! ## Courses -/

/-- The bytes of all payloads of some frames. -/
def payloadTotal : List Frame → Nat
  | [] => 0
  | frame :: rest => frame.payload.length + payloadTotal rest

/-- A frame that was told and taken. -/
def taken (frame : Frame) : Call := { event := .frame frame }

/-- Frames as a session gives them. -/
def asGiven (frames : List Frame) : List (Except Failure (Option Frame)) :=
  frames.map fun frame => .ok (some frame)

/-- The failure of a session after a refusal is the refusal, or `closed` if it was cancelled. -/
def FailedFor (e : Sink.Error) (failure : Failure) (last : Session) : Prop :=
  failure = .sink e ∨ failure = .closed ∧ last.isCancelled = true

/-- What a sink is told after the announcement of a session that gives the answers `given`, and
what the delivery comes to that leaves the session as `last`. -/
inductive Delivered (given : Nat → List (Except Failure (Option Frame))) (last : Session)
    (summary : Summary) : List Call → Except Failure Summary → Prop
  /-- The session fails. -/
  | cut (frames : List Frame) {failure : Failure}
      (hframes : given frames.length = asGiven frames)
      (hfailure : given (frames.length + 1) = asGiven frames ++ [.error failure] ∨
        failure = .closed ∧ last.isCancelled = true) :
      Delivered given last summary (frames.map taken ++ [{ event := .failed failure }])
        (.error failure)
  /-- The sink refuses a frame. -/
  | refused (frames : List Frame) {frame : Frame} {e : Sink.Error} {failure : Failure}
      (hframes : given (frames.length + 1) = asGiven frames ++ [.ok (some frame)])
      (hfailure : FailedFor e failure last) :
      Delivered given last summary
        (frames.map taken ++
          [{ event := .frame frame, refusal := some e }, { event := .failed failure }])
        (.error failure)
  /-- The sink refuses the end. -/
  | endRefused (frames : List Frame) {e : Sink.Error}
      (hframes : given (frames.length + 1) = asGiven frames ++ [.ok none]) :
      Delivered given last summary (frames.map taken ++ [{ event := .ended, refusal := some e }])
        (.error (.sink e))
  /-- The sink takes everything. -/
  | complete (frames : List Frame)
      (hframes : given (frames.length + 1) = asGiven frames ++ [.ok none]) :
      Delivered given last summary (frames.map taken ++ [{ event := .ended }])
        (.ok { summary with
          frames := summary.frames + frames.length
          bytes := summary.bytes + payloadTotal frames })

/-- What a sink is told in the delivery of a session, and what the delivery comes to. -/
inductive Course (session last : Session) : List Call → Except Failure Summary → Prop
  /-- The handshake fails. -/
  | unopened {failure : Failure} (h : session.handshake.1 = .error failure) :
      Course session last [{ event := .failed failure }] (.error failure)
  /-- The sink refuses the announcement. -/
  | refused {told : Announcement} {e : Sink.Error} {failure : Failure}
      (h : session.handshake.1 = .ok told) (hfailure : FailedFor e failure last) :
      Course session last
        [{ event := .announced told, refusal := some e }, { event := .failed failure }]
        (.error failure)
  /-- The sink takes the announcement. -/
  | opened {told : Announcement} {calls : List Call} {result : Except Failure Summary}
      (h : session.handshake.1 = .ok told)
      (hdelivered : Delivered session.given last { announcement := told } calls result) :
      Course session last ({ event := .announced told } :: calls) result

/-- A frame that is taken comes before what is delivered later. -/
theorem Delivered.cons {given later : Nat → List (Except Failure (Option Frame))}
    {last : Session} {summary : Summary} {frame : Frame} {calls : List Call}
    {result : Except Failure Summary}
    (hgiven : ∀ calls, given (calls + 1) = .ok (some frame) :: later calls)
    (h : Delivered later last (summary.count frame) calls result) :
    Delivered given last summary (taken frame :: calls) result := by
  cases h with
  | @cut frames failure hframes hfailure =>
    refine .cut (frame :: frames) ?_ ?_
    · rw [List.length_cons, hgiven, hframes]
      rfl
    · rw [List.length_cons, hgiven]
      exact hfailure.imp_left (congrArg (List.cons _))
  | @refused frames frame' e failure hframes hfailure =>
    refine .refused (frame :: frames) ?_ hfailure
    rw [List.length_cons, hgiven, hframes]
    rfl
  | @endRefused frames e hframes =>
    refine .endRefused (frame :: frames) ?_
    rw [List.length_cons, hgiven, hframes]
    rfl
  | @complete frames hframes =>
    have hgiven' : given ((frame :: frames).length + 1) =
        asGiven (frame :: frames) ++ [.ok none] := by
      rw [List.length_cons, hgiven, hframes]
      rfl
    have hframes' : summary.frames + (frame :: frames).length =
        summary.frames + 1 + frames.length := by
      rw [List.length_cons]
      omega
    have hcomplete := @Delivered.complete given last summary (frame :: frames) hgiven'
    rw [hframes', payloadTotal, ← Nat.add_assoc] at hcomplete
    exact hcomplete

/-! ## The session and its twin -/

/-- A session that no sink has touched is in the middle of the same stream as one that is being
delivered, unless that one has been cancelled. -/
def Shadows (own session : Session) : Prop :=
  session.isCancelled = true ∨ own.Open .streaming ∧ own.Twin session

theorem Shadows.of_twin {own session : Session} (hown : own.Open .streaming)
    (h : own.Twin session) (effects : List Effect) :
    Shadows own (session.undergoAll effects) := by
  obtain ⟨feed', hmarked, heq⟩ := session.undergoAll_marked effects
  rw [heq]
  cases hcancelled : feed'.cancelled with
  | true => exact .inl hcancelled
  | false =>
    -- What is not cancelled now was not cancelled before.
    have hbefore : session.feed.cancelled = false := by
      cases hc : session.feed.cancelled with
      | false => rfl
      | true => rw [hmarked.cancelled hc] at hcancelled; cases hcancelled
    refine .inr ⟨hown, ⟨⟨?_, ?_, ?_⟩, h.intake.limit, h.intake.finished⟩, h.reader⟩
    · exact h.intake.feed.script.trans hmarked.script.symm
    · exact h.intake.feed.perRead.trans hmarked.perRead.symm
    · exact h.intake.feed.cancelled.trans (hbefore.trans hcancelled.symm)

/-- A session that gives a frame has not been cancelled, and its twin gives the same frame. -/
theorem Shadows.next_frame {own session : Session} (h : Shadows own session)
    (hphase : session.phase = .streaming) {frame : Frame} {session' : Session}
    (hnext : session.next = (.ok (some frame), session')) :
    own.next.1 = .ok (some frame) ∧ own.next.2.Open .streaming ∧ own.next.2.Twin session' := by
  rw [Session.next_of_streaming hphase] at hnext
  rcases h with hcancelled | ⟨hown, htwin⟩
  · rw [Session.pull_of_cancelled hcancelled] at hnext
    cases hnext
  · obtain ⟨hresult, hstays⟩ := htwin.pull hown.reader
    rw [hnext] at hresult hstays
    rw [← Session.next_of_streaming hown.phase_eq] at hresult hstays
    exact ⟨hresult, Session.open_of_next_frame hown (Prod.ext hresult rfl), hstays frame hresult⟩

/-- A session that ends has been cancelled, or ends as its twin does. -/
theorem Shadows.next_end {own session : Session} (h : Shadows own session)
    (hopen : session.Open .streaming) {answer : Except Failure (Option Frame)}
    {session' : Session} (hnext : session.next = (answer, session')) :
    own.next.1 = answer ∨ answer = .error .closed ∧ session'.isCancelled = true := by
  rw [Session.next_of_streaming hopen.phase_eq] at hnext
  rcases h with hcancelled | ⟨hown, htwin⟩
  · rw [Session.pull_of_cancelled hcancelled] at hnext
    cases hnext
    exact .inr ⟨rfl, by rw [Session.isCancelled_fail hopen.reader, hcancelled]⟩
  · obtain ⟨hresult, -⟩ := htwin.pull hown.reader
    rw [hnext] at hresult
    rw [Session.next_of_streaming hown.phase_eq]
    exact .inl hresult

/-! ## What is told -/

variable {σ : Type} [Sink σ]

/-- A sink that refused an event is told of the failure that the session comes to. -/
theorem giveUp_calls (session : Session) (hreader : session.reader.isSome = true)
    (e : Sink.Error) (logged : Logged σ) :
    ∃ failure, (giveUp e session logged).1 = .error failure ∧
      (giveUp e session logged).2.2.calls = logged.calls ++ [{ event := .failed failure }] ∧
      FailedFor e failure (giveUp e session logged).2.1 := by
  refine ⟨(session.fail (.sink e)).1, rfl, rfl, ?_⟩
  rw [Session.fail_fst]
  by_cases hcancelled : session.isCancelled = true
  · have hfailed := Session.isCancelled_fail hreader (.sink e)
    rw [if_pos hcancelled]
    exact .inr ⟨rfl, Session.isCancelled_undergoAll (hfailed.trans hcancelled) _⟩
  · rw [if_neg hcancelled]
    exact .inl rfl

/-- A sink is told of the end and of nothing after it. -/
theorem conclude_delivered (summary : Summary) (session : Session) (logged : Logged σ)
    {given : Nat → List (Except Failure (Option Frame))} (hgiven : given 1 = [.ok none]) :
    ∃ calls, (conclude summary session logged).2.2.calls = logged.calls ++ calls ∧
      Delivered given (conclude summary session logged).2.1 summary calls
        (conclude summary session logged).1 := by
  have hsink := calls_onEnd logged
  unfold conclude
  dsimp only
  cases hresult : (onEnd logged).result with
  | error e =>
    rw [hresult] at hsink
    exact ⟨_, hsink, .endRefused [] hgiven⟩
  | ok =>
    rw [hresult] at hsink
    exact ⟨_, hsink, .complete [] hgiven⟩

/-- A sink is told the frames that the twin of the session gives. -/
theorem deliverFrames_delivered (summary : Summary) (session : Session) (logged : Logged σ) :
    session.Open .streaming → ∀ own, Shadows own session →
      ∃ calls, (deliverFrames summary session logged).2.2.calls = logged.calls ++ calls ∧
        Delivered own.given (deliverFrames summary session logged).2.1 summary calls
          (deliverFrames summary session logged).1 := by
  fun_induction deliverFrames summary session logged with
  | case1 summary session logged failure session' hnext =>
    intro hopen own hshadows
    refine ⟨_, rfl, .cut [] rfl ?_⟩
    rcases hshadows.next_end hopen hnext with hown | ⟨hclosed, hcancelled⟩
    · exact .inl (congrArg ([·]) hown)
    · cases hclosed
      exact .inr ⟨rfl, Session.isCancelled_undergoAll hcancelled _⟩
  | case2 summary session logged session' hnext =>
    intro hopen own hshadows
    -- A cancelled session fails, so one that ends ends with its twin.
    have hown : own.given 1 = [.ok none] := by
      rcases hshadows.next_end hopen hnext with hown | ⟨hclosed, -⟩
      · exact congrArg ([·]) hown
      · cases hclosed
    exact conclude_delivered summary session' logged hown
  | case3 summary session logged frame session' hnext reply e hreply =>
    intro hopen own hshadows
    obtain ⟨hframe, -, -⟩ := hshadows.next_frame hopen.phase_eq hnext
    have hstreaming := Session.open_of_next_frame hopen hnext
    have hsink := calls_onFrame logged frame
    rw [show (onFrame logged frame).result = .error e from hreply] at hsink
    obtain ⟨failure, hresult, hcalls, hfailure⟩ := giveUp_calls
      (session'.undergoAll reply.effects) (hstreaming.undergoAll reply.effects).reader e reply.sink
    refine ⟨[{ event := .frame frame, refusal := some e }, { event := .failed failure }], ?_, ?_⟩
    · rw [hcalls, hsink, List.append_assoc]
      rfl
    · rw [hresult]
      exact .refused [] (congrArg ([·]) hframe) hfailure
  | case4 summary session logged frame session' hnext reply hreply ih =>
    intro hopen own hshadows
    obtain ⟨hframe, hown, htwin⟩ := hshadows.next_frame hopen.phase_eq hnext
    have hstreaming := Session.open_of_next_frame hopen hnext
    have hsink := calls_onFrame logged frame
    rw [show (onFrame logged frame).result = .ok () from hreply] at hsink
    -- Whatever the sink does to the session, the twin that it does not touch goes on beside it.
    obtain ⟨calls, hcalls, hdelivered⟩ := ih (hstreaming.undergoAll reply.effects)
      own.next.2 (.of_twin hown htwin reply.effects)
    refine ⟨taken frame :: calls, ?_, hdelivered.cons fun later => ?_⟩
    · rw [hcalls, hsink, List.append_assoc]
      rfl
    · rw [Session.given_succ, hframe]

theorem run_logged {session : Session} (h : session.Lawful) (logged : Logged σ) :
    ∃ calls, (run session logged).2.2.calls = logged.calls ++ calls ∧
      Course session (run session logged).2.1 calls (run session logged).1 := by
  rcases Session.handshake_cases h with
    ⟨told, last, heq, hopen, hnext⟩ | ⟨failure, last, heq, -⟩
  · -- Only the session before the handshake is in the statement, and it gives what this one gives.
    have hgiven : session.given = last.given := funext (answers_fst_of_next hnext)
    have hhandshake : session.handshake.1 = .ok told := by rw [heq]
    have hsink := calls_onAnnouncement logged told
    have hstreaming := hopen.undergoAll (onAnnouncement logged told).effects
    unfold run
    rw [heq]
    dsimp only
    cases hresult : (onAnnouncement logged told).result with
    | error e =>
      rw [hresult] at hsink
      obtain ⟨failure, hfailed, hcalls, hfailure⟩ := giveUp_calls _
        hstreaming.reader e (onAnnouncement logged told).sink
      refine ⟨[{ event := .announced told, refusal := some e }, { event := .failed failure }],
        ?_, ?_⟩
      · rw [hcalls, hsink, List.append_assoc]
        rfl
      · rw [hfailed]
        exact .refused hhandshake hfailure
    | ok =>
      rw [hresult] at hsink
      obtain ⟨calls, hcalls, hdelivered⟩ := deliverFrames_delivered { announcement := told }
        (last.undergoAll (onAnnouncement logged told).effects) (onAnnouncement logged told).sink
        hstreaming last (.of_twin hopen (.refl last) _)
      rw [← hgiven] at hdelivered
      refine ⟨{ event := .announced told } :: calls, ?_, .opened hhandshake hdelivered⟩
      rw [hcalls, hsink, List.append_assoc]
      rfl
  · have hhandshake : session.handshake.1 = .error failure := by rw [heq]
    unfold run
    rw [heq]
    exact ⟨_, rfl, .unopened hhandshake⟩

/-- **The course of a delivery.** In any reachable state of the session, and whatever the sink
answers, the sink is told of a failure alone, or of the announcement and of the frames that the
session gives, in order, up to a refusal, a failure or the end; of a failure it is told last, and
it is the one that the delivery comes to. Only when everything was taken does the delivery succeed,
with what was delivered counted. On every way the session ends up over and its channel closed
once. -/
theorem run_course {session : Session} (h : session.Reachable) (sink : σ) :
    ∃ calls, run session ({ sink } : Logged σ) =
        ((run session sink).1, (run session sink).2.1, { sink := (run session sink).2.2, calls }) ∧
      Course session (run session sink).2.1 calls (run session sink).1 ∧
      (run session sink).2.1.phase.isTerminal = true ∧
      (run session sink).2.1.feed.history.closes = 1 := by
  have hover := run_over h.lawful sink
  obtain ⟨calls, hcalls, hcourse⟩ := run_logged h.lawful ({ sink } : Logged σ)
  have hbare := run_bare session ({ sink } : Logged σ)
  generalize run session ({ sink } : Logged σ) = logged at hcalls hcourse hbare ⊢
  obtain ⟨result, last, sink', calls'⟩ := logged
  dsimp only at hcalls hcourse hbare
  -- The session and the result are the same with and without the log.
  rw [← hbare] at hover ⊢
  exact ⟨calls, by rw [hcalls]; rfl, hcourse, hover.terminal, hover.closes⟩

/-- A session of which one frame was already read, and a sink that refuses the next one. -/
theorem run_course_refusal :
    let told : Announcement := ⟨"Pixel", ⟨.h264, 1280, 720⟩⟩
    let sent : Frame := ⟨⟨false, true, 7, 2⟩, [0xAB, 0xCD]⟩
    let feed : Feed := {
      script := [.data (told.encode ++ sent.encode), .fault (.ofKind .interrupted),
        .data (sent.encode ++ sent.encode)]
      perRead := some ⟨7, by decide⟩ }
    let session := (Session.start feed { expectProbe := false } 2).next.2
    let sink : Witness := { name := "player", refuseFrame := some (0, .processGone "player") }
    Course session (run session sink).2.1
        [{ event := .announced told },
          { event := .frame sent, refusal := some (.processGone "player") },
          { event := .failed (.sink (.processGone "player")) }]
        (run session sink).1 ∧
      (run session sink).2.1.phase.isTerminal = true ∧
      (run session sink).2.1.feed.history.closes = 1 := by
  intro told sent feed session sink
  have hcalls : (run session ({ sink } : Logged Witness)).2.2.calls =
      [{ event := .announced told },
        { event := .frame sent, refusal := some (.processGone "player") },
        { event := .failed (.sink (.processGone "player")) }] := by decide +kernel
  have hclosed : feed.history.closes = 0 := rfl
  have hreachable : session.Reachable := .next (.start hclosed { expectProbe := false } 2)
  obtain ⟨calls, hrun, hcourse, hterminal, hcloses⟩ := run_course hreachable sink
  rw [hrun] at hcalls
  dsimp only at hcalls
  subst hcalls
  exact ⟨hcourse, hterminal, hcloses⟩

end Delivery

end Screencast
