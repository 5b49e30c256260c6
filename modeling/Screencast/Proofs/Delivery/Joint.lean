/-
What sinks that are joined in pairs are told in one delivery.

The sinks at the leaves of a `Joint` take the same events until one of them
refuses one or the stream is over (`Shared`): then a refusal of the
announcement or of a frame keeps that event, and no other, from the leaves to
its right, and all leaves are told of the failure; the end is told to all of
them, whoever refuses it (`run_shared`).
-/
import Screencast.Proofs.Sink.Joint
import Screencast.Sink.Witness

namespace Screencast.Delivery

open Sink

/-- What as many `leaves` are told, one log for each of them, in the delivery of a session that is
left as `last`: beside the calls of the whole and what the delivery comes to. -/
inductive Shared (leaves : Nat) (last : Session) :
    List Call → List (List Call) → Except Failure Summary → Prop
  /-- The session fails. -/
  | failed (before : List Event) (hearly : ∀ event ∈ before, event.isEarly = true)
      (failure : Failure) :
      Shared leaves last (before.map took ++ [took (.failed failure)])
        (List.replicate leaves (before.map took ++ [took (.failed failure)])) (.error failure)
  /-- One leaf refuses the announcement or a frame, which the leaves to its left took and the ones
  to its right are not told of. -/
  | refused (before : List Event) (hearly : ∀ event ∈ before, event.isEarly = true)
      {event : Event} (hevent : event.isEarly = true) {left right : Nat}
      (hleaves : left + 1 + right = leaves) {e : Sink.Error} {failure : Failure}
      (hfailure : FailedFor e failure last) :
      Shared leaves last
        (before.map took ++ [{ event, refusal := some e }, took (.failed failure)])
        (List.replicate left (before.map took ++ [took event, took (.failed failure)]) ++
          (before.map took ++ [{ event, refusal := some e }, took (.failed failure)]) ::
          List.replicate right (before.map took ++ [took (.failed failure)]))
        (.error failure)
  /-- The stream ends, and the leftmost leaf that refuses the end, if any does, speaks for all. -/
  | ended (before : List Event) (hearly : ∀ event ∈ before, event.isEarly = true)
      {refusals : List (Option Sink.Error)} (hleaves : refusals.length = leaves)
      {result : Except Failure Summary}
      (hresult : match refusals.findSome? id with
        | some e => result = .error (.sink e)
        | none => result.isOk = true) :
      Shared leaves last
        (before.map took ++ [{ event := .ended, refusal := refusals.findSome? id }])
        (refusals.map fun refusal => before.map took ++ [{ event := .ended, refusal }]) result

/-- The logs of the leaves after the last calls of a delivery, all of which took everything before
them. -/
theorem Finale.shared {last : Session} {closing : List Call} {result : Except Failure Summary}
    (h : Finale last closing result) (joint : Joint) (sinks : joint.logged.Sinks)
    {before events : List Event} (hearly : ∀ event ∈ before, event.isEarly = true)
    (hlogs : joint.logs sinks = List.replicate joint.size (before.map took))
    (hcalls : callsOf sinks events = closing) :
    Shared joint.size last (before.map took ++ closing) (joint.logs (tell sinks events)) result := by
  have hevents := map_event_callsOf sinks events
  rw [hcalls] at hevents
  subst hevents
  cases h with
  | failed failure =>
    have hfailed := joint.logs_react_failed sinks failure
    rw [hlogs, List.map_replicate] at hfailed
    show Shared _ _ _ (joint.logs (react sinks (.failed failure)).1) _
    rw [hfailed]
    exact .failed before hearly failure
  | @refused event e failure hevent hfailure =>
    have hanswer : answer sinks event = .error e := answer_of_callsOf hcalls
    obtain ⟨left, right, hleaves, hrefused⟩ :=
      joint.logs_react_refused sinks hevent hanswer hlogs
    -- The failure is then told to all of them.
    have hfailed := joint.logs_react_failed (react sinks event).1 failure
    rw [hrefused, List.map_append, List.map_cons, List.map_replicate, List.map_replicate,
      List.append_assoc, List.append_assoc] at hfailed
    show Shared _ _ _ (joint.logs (react (react sinks event).1 (.failed failure)).1) _
    rw [hfailed]
    exact .refused before hearly hevent hleaves hfailure
  | endRefused e =>
    obtain ⟨refusals, hleaves, hverdict, hended⟩ := joint.logs_react_ended sinks hlogs
    have hfirst : refusals.findSome? id = some e :=
      Joint.verdict_eq_error.mp (hverdict.symm.trans (answer_of_callsOf hcalls))
    show Shared _ _ _ (joint.logs (react sinks .ended).1) _
    rw [hended, ← hfirst]
    exact .ended before hearly hleaves (by rw [hfirst])
  | ended summary =>
    obtain ⟨refusals, hleaves, hverdict, hended⟩ := joint.logs_react_ended sinks hlogs
    have hfirst : refusals.findSome? id = none :=
      Joint.verdict_eq_ok.mp (hverdict.symm.trans (answer_of_callsOf hcalls))
    show Shared _ _ _ (joint.logs (react sinks .ended).1) _
    rw [hended, show ({ event := .ended } : Call) =
      { event := .ended, refusal := refusals.findSome? id } by rw [hfirst]]
    exact .ended before hearly hleaves (by rw [hfirst]; rfl)

/-- **What joined sinks are told.** Sinks of any types, joined in pairs to any depth, are delivered
a session in any reachable state. The logs that are put at the leaves change nothing of what
becomes of the delivery. -/
theorem run_shared {session : Session} (h : session.Reachable) (joint : Joint)
    (sinks : joint.Sinks) :
    ∃ joined : joint.logged.Sinks,
      run session (joint.attach sinks) =
        ((run session sinks).1, (run session sinks).2.1, joined) ∧
      joint.bare joined = (run session sinks).2.2 ∧
      ∃ calls, Course session (run session sinks).2.1 calls (run session sinks).1 ∧
        Shared joint.size (run session sinks).2.1 calls (joint.logs joined)
          (run session sinks).1 := by
  have hbare := run_map joint.bare_answersAs session (joint.attach sinks)
  rw [joint.bare_attach] at hbare
  obtain ⟨events, htold, hcourse⟩ := run_told h.lawful (joint.attach sinks)
  rw [hbare]
  dsimp only [onto]
  refine ⟨(run session (joint.attach sinks)).2.2, rfl, rfl, _, hcourse, ?_⟩
  -- The leaves take the events that the whole takes, and then the delivery closes in one way.
  obtain ⟨before, closing, hcalls, hearly, hfinale⟩ := hcourse.finale
  obtain ⟨taken, later, rfl, htaken, hclosing⟩ := callsOf_eq_append hcalls
  have hsame : taken = before := by
    have hmap := map_event_callsOf (joint.attach sinks) taken
    rw [htaken, List.map_map, show Call.event ∘ took = id from rfl, List.map_id] at hmap
    exact hmap.symm
  subst hsame
  have hlogs := joint.logs_tell_taken (joint.attach sinks) hearly htaken
  rw [joint.logs_attach, List.map_replicate, List.nil_append] at hlogs
  rw [hcalls, htold, tell_append]
  exact hfinale.shared joint _ hearly hlogs hclosing

/-- Three sinks, of which the one in the middle refuses the second frame. -/
theorem run_shared_refusal :
    let told : Announcement := ⟨"Pixel", ⟨.h264, 1280, 720⟩⟩
    let sent : Frame := ⟨⟨false, true, 7, 2⟩, [0xAB, 0xCD]⟩
    let feed : Feed := { script := [.data (told.encode ++ sent.encode ++ sent.encode)] }
    let session := Session.start feed { expectProbe := false } 2
    let gone : Sink.Error := .processGone "player"
    let sinks : Counter × Witness × Witness :=
      ({}, { name := "player", refuseFrame := some (1, gone) }, { name := "file" })
    ∃ calls, Course session (run session sinks).2.1 calls (run session sinks).1 ∧
      Shared 3 (run session sinks).2.1 calls
        [[took (.announced told), took (.frame sent), took (.frame sent),
            took (.failed (.sink gone))],
          [took (.announced told), took (.frame sent), ⟨.frame sent, some gone⟩,
            took (.failed (.sink gone))],
          [took (.announced told), took (.frame sent), took (.failed (.sink gone))]]
        (run session sinks).1 := by
  intro told sent feed session gone sinks
  let joint : Joint := .pair (.leaf Counter) (.pair (.leaf Witness) (.leaf Witness))
  have hlogs : joint.logs (run session (joint.attach sinks)).2.2 =
      [[took (.announced told), took (.frame sent), took (.frame sent),
          took (.failed (.sink gone))],
        [took (.announced told), took (.frame sent), ⟨.frame sent, some gone⟩,
          took (.failed (.sink gone))],
        [took (.announced told), took (.frame sent), took (.failed (.sink gone))]] := by
    decide +kernel
  have hclosed : feed.history.closes = 0 := rfl
  obtain ⟨joined, hrun, -, calls, hcourse, hshared⟩ :=
    run_shared (.start hclosed { expectProbe := false } 2) joint sinks
  rw [hrun] at hlogs
  dsimp only at hlogs
  rw [hlogs] at hshared
  exact ⟨calls, hcourse, hshared⟩

/-- **A tree of sinks is delivered to as its sinks are that are joined in pairs.** -/
theorem run_tree {σ : Type} [Sink σ] (session : Session) (tree : Sink.Tree σ) :
    run session tree = onto (Joint.graft tree) (run session (Joint.sinksOf tree)) := by
  have hmap := run_map (Joint.graft_answersAs tree) session (Joint.sinksOf tree)
  rwa [Joint.graft_sinksOf] at hmap

end Screencast.Delivery
