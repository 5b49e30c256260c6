/-
Sinks that are joined in pairs.

A pair of sinks is a sink, so pairs can be joined again. A `Joint` is a tree of
such pairs with sinks of any types at its leaves. To see what reaches a leaf,
every leaf is given a log (`logged`); the sinks answer as they do without
(`bare_answersAs`). What one event adds to the logs is said once for each kind
of event: an event that is taken, and a failure, is added to all of them
(`logs_react_taken`, `logs_react_failed`); an event that is refused is added to
the logs up to the one that refuses it (`logs_react_refused`); and the end is
added to all of them, whoever refuses it (`logs_react_ended`).
-/
import Screencast.Proofs.Delivery.Told
import Screencast.Sink.Tree

namespace Screencast.Sink

/-! ## Pairs -/

section

variable {σ τ : Type} [Sink σ] [Sink τ]

/-- An event that a pair takes reaches both halves, and both take it. -/
theorem react_pair_taken (pair : σ × τ) {event : Event} (hearly : event.isEarly = true)
    (h : answer pair event = .ok ()) :
    answer pair.1 event = .ok () ∧ answer pair.2 event = .ok () ∧
      (react pair event).1 = ((react pair.1 event).1, (react pair.2 event).1) := by
  have hreply {first : Reply σ} {second : Reply τ}
      (hok : (first.andThen pair.2 second).result = .ok ()) :
      first.result = .ok () ∧ second.result = .ok () ∧
        (first.andThen pair.2 second).sink = (first.sink, second.sink) := by
    unfold Reply.andThen at hok ⊢
    cases hfirst : first.result with
    | error e =>
      rw [hfirst] at hok
      cases hok
    | ok =>
      rw [hfirst] at hok
      exact ⟨rfl, hok, rfl⟩
  cases event with
  | announced told => exact hreply h
  | frame frame => exact hreply h
  | ended | failed => cases hearly

/-- An event that a pair refuses was refused by the left half, and did not reach the right one; or
it was taken by the left half and refused by the right one. -/
theorem react_pair_refused (pair : σ × τ) {event : Event} (hearly : event.isEarly = true)
    {e : Sink.Error} (h : answer pair event = .error e) :
    (answer pair.1 event = .error e ∧
        (react pair event).1 = ((react pair.1 event).1, pair.2)) ∨
      (answer pair.1 event = .ok () ∧ answer pair.2 event = .error e ∧
        (react pair event).1 = ((react pair.1 event).1, (react pair.2 event).1)) := by
  have hreply {first : Reply σ} {second : Reply τ}
      (herror : (first.andThen pair.2 second).result = .error e) :
      (first.result = .error e ∧
          (first.andThen pair.2 second).sink = (first.sink, pair.2)) ∨
        (first.result = .ok () ∧ second.result = .error e ∧
          (first.andThen pair.2 second).sink = (first.sink, second.sink)) := by
    unfold Reply.andThen at herror ⊢
    cases hfirst : first.result with
    | error e' =>
      rw [hfirst] at herror
      cases herror
      exact .inl ⟨rfl, rfl⟩
    | ok =>
      rw [hfirst] at herror
      exact .inr ⟨rfl, herror, rfl⟩
  cases event with
  | announced told => exact hreply h
  | frame frame => exact hreply h
  | ended | failed => cases hearly

/-- Of two refusals of the end the left one counts. -/
theorem answer_pair_ended (pair : σ × τ) :
    answer pair .ended =
      match answer pair.1 .ended with
      | .error e => .error e
      | .ok () => answer pair.2 .ended := rfl

end

/-! ## Trees of pairs -/

/-- A way to join sinks in pairs, with the types of the sinks that are joined. -/
inductive Joint : Type 1
  | leaf (σ : Type) [sink : Sink σ]
  | pair (left right : Joint)

namespace Joint

/-- The sinks that are joined. -/
def Sinks : Joint → Type
  | leaf σ => σ
  | pair left right => left.Sinks × right.Sinks

/-- Joined sinks answer as the pairs that they are made of. -/
instance instSink : (joint : Joint) → Sink joint.Sinks
  | @leaf _ sink => sink
  | pair left right =>
    have := left.instSink
    have := right.instSink
    inferInstanceAs (Sink (left.Sinks × right.Sinks))

/-- The number of leaves. -/
def size : Joint → Nat
  | leaf _ => 1
  | pair left right => left.size + right.size

/-! ## Trees of sinks of one type -/

section

variable {σ : Type} [Sink σ]

/-- The way in which the sinks of a tree are joined. -/
def ofTree : Tree σ → Joint
  | .leaf _ => leaf σ
  | .pair left right => pair (ofTree left) (ofTree right)

/-- The sinks of a tree, joined in pairs. -/
def sinksOf : (tree : Tree σ) → (ofTree tree).Sinks
  | .leaf sink => sink
  | .pair left right => (sinksOf left, sinksOf right)

/-- The tree that sinks make which are joined as those of a tree are. -/
def graft : (tree : Tree σ) → (ofTree tree).Sinks → Tree σ
  | .leaf _, sink => .leaf sink
  | .pair left right, sinks => .pair (graft left sinks.1) (graft right sinks.2)

theorem graft_sinksOf (tree : Tree σ) : graft tree (sinksOf tree) = tree := by
  induction tree with
  | leaf sink => rfl
  | pair left right ihleft ihright =>
    show Tree.pair (graft left (sinksOf left)) (graft right (sinksOf right)) = _
    rw [ihleft, ihright]

/-- **A tree answers as its sinks do that are joined in pairs.** -/
theorem graft_answersAs (tree : Tree σ) : AnswersAs (graft tree) := by
  induction tree with
  | leaf sink => exact ⟨fun _ _ => rfl, fun _ _ => rfl, fun _ => rfl, fun _ _ => rfl⟩
  | pair left right ihleft ihright =>
    have hpair : AnswersAs fun trees : Tree σ × Tree σ => Tree.pair trees.1 trees.2 :=
      ⟨fun _ _ => rfl, fun _ _ => rfl, fun _ => rfl, fun _ _ => rfl⟩
    exact hpair.comp (ihleft.pair ihright)

end

/-! ## Logs -/

/-- The same tree with a log at every leaf. -/
def logged : Joint → Joint
  | leaf σ => leaf (Logged σ)
  | pair left right => pair left.logged right.logged

/-- Gives every leaf an empty log. -/
def attach : (joint : Joint) → joint.Sinks → joint.logged.Sinks
  | leaf σ, sink => ({ sink } : Logged σ)
  | pair left right, sinks => (left.attach sinks.1, right.attach sinks.2)

/-- The sinks without their logs. -/
def bare : (joint : Joint) → joint.logged.Sinks → joint.Sinks
  | leaf σ, sink => (sink : Logged σ).sink
  | pair left right, sinks => (left.bare sinks.1, right.bare sinks.2)

/-- The logs of the leaves, from left to right. -/
def logs : (joint : Joint) → joint.logged.Sinks → List (List Call)
  | leaf σ, sink => [(sink : Logged σ).calls]
  | pair left right, sinks => left.logs sinks.1 ++ right.logs sinks.2

theorem bare_attach (joint : Joint) (sinks : joint.Sinks) :
    joint.bare (joint.attach sinks) = sinks := by
  induction joint with
  | leaf σ => rfl
  | pair left right ihleft ihright => exact Prod.ext (ihleft sinks.1) (ihright sinks.2)

/-- **The logs change nothing of what the sinks answer.** -/
theorem bare_answersAs (joint : Joint) : AnswersAs joint.bare := by
  induction joint with
  | @leaf σ _ => exact AnswersAs.logged σ
  | pair left right ihleft ihright => exact ihleft.pair ihright

theorem length_logs (joint : Joint) (sinks : joint.logged.Sinks) :
    (joint.logs sinks).length = joint.size := by
  induction joint with
  | leaf σ => rfl
  | pair left right ihleft ihright =>
    show (left.logs sinks.1 ++ right.logs sinks.2).length = left.size + right.size
    rw [List.length_append, ihleft sinks.1, ihright sinks.2]

theorem logs_attach (joint : Joint) (sinks : joint.Sinks) :
    joint.logs (joint.attach sinks) = List.replicate joint.size [] := by
  induction joint with
  | leaf σ => rfl
  | pair left right ihleft ihright =>
    show left.logs (left.attach sinks.1) ++ right.logs (right.attach sinks.2) = _
    rw [ihleft sinks.1, ihright sinks.2, List.replicate_append_replicate]
    rfl

/-- Logs that are all the same are all the same on the left and on the right. -/
theorem logs_pair_eq_replicate {left right : Joint} {sinks : (pair left right).logged.Sinks}
    {log : List Call}
    (h : (pair left right).logs sinks = List.replicate (pair left right).size log) :
    left.logs sinks.1 = List.replicate left.size log ∧
      right.logs sinks.2 = List.replicate right.size log := by
  have hsplit : left.logs sinks.1 ++ right.logs sinks.2 =
      List.replicate left.size log ++ List.replicate right.size log := by
    rw [List.replicate_append_replicate]
    exact h
  have hlength : (left.logs sinks.1).length = (List.replicate left.size log).length := by
    rw [length_logs, List.length_replicate]
  exact List.append_inj hsplit hlength

/-! ## What one event adds to the logs -/

/-- An event that is taken reaches every leaf, and every leaf takes it. -/
theorem logs_react_taken (joint : Joint) (sinks : joint.logged.Sinks) {event : Event}
    (hearly : event.isEarly = true) (h : answer sinks event = .ok ()) :
    joint.logs (react sinks event).1 = (joint.logs sinks).map (· ++ [took event]) := by
  induction joint with
  | @leaf σ _ =>
    have hreact := react_logged (σ := σ) sinks event
    have hanswer := answer_logged (σ := σ) sinks event
    show [((react (σ := Logged σ) sinks event).1).calls] = _
    rw [hreact, ← hanswer, show answer (σ := Logged σ) sinks event = .ok () from h]
    rfl
  | pair left right ihleft ihright =>
    obtain ⟨hleft, hright, hreact⟩ :=
      react_pair_taken (σ := left.logged.Sinks) (τ := right.logged.Sinks) sinks hearly h
    have hlogs : (pair left right).logs (react sinks event).1 =
        left.logs (react sinks.1 event).1 ++ right.logs (react sinks.2 event).1 :=
      congrArg (pair left right).logs hreact
    rw [hlogs, ihleft sinks.1 hleft, ihright sinks.2 hright, ← List.map_append]
    rfl

/-- A failure reaches every leaf. -/
theorem logs_react_failed (joint : Joint) (sinks : joint.logged.Sinks) (failure : Failure) :
    joint.logs (react sinks (.failed failure)).1 =
      (joint.logs sinks).map (· ++ [took (.failed failure)]) := by
  induction joint with
  | leaf σ => rfl
  | pair left right ihleft ihright =>
    show left.logs (react sinks.1 (.failed failure)).1 ++
      right.logs (react sinks.2 (.failed failure)).1 = _
    rw [ihleft sinks.1, ihright sinks.2, ← List.map_append]
    rfl

/-- An event that is refused reaches the leaves up to the one that refuses it. -/
theorem logs_react_refused (joint : Joint) (sinks : joint.logged.Sinks) {event : Event}
    (hearly : event.isEarly = true) {e : Sink.Error} (h : answer sinks event = .error e)
    {log : List Call} (hlogs : joint.logs sinks = List.replicate joint.size log) :
    ∃ before after, before + 1 + after = joint.size ∧
      joint.logs (react sinks event).1 =
        List.replicate before (log ++ [took event]) ++
          (log ++ [{ event, refusal := some e }]) :: List.replicate after log := by
  induction joint with
  | @leaf σ _ =>
    have hreact := react_logged (σ := σ) sinks event
    have hanswer := answer_logged (σ := σ) sinks event
    obtain rfl : (sinks : Logged σ).calls = log := List.singleton_inj.mp hlogs
    refine ⟨0, 0, rfl, ?_⟩
    show [((react (σ := Logged σ) sinks event).1).calls] = _
    rw [hreact, ← hanswer, show answer (σ := Logged σ) sinks event = .error e from h]
    rfl
  | pair left right ihleft ihright =>
    obtain ⟨hleft, hright⟩ := logs_pair_eq_replicate hlogs
    rcases react_pair_refused (σ := left.logged.Sinks) (τ := right.logged.Sinks) sinks hearly h with
      ⟨hrefused, hreact⟩ | ⟨htaken, hrefused, hreact⟩
    · -- The left half refuses the event, so the logs on the right stay as they are.
      obtain ⟨before, after, hsize, hadded⟩ := ihleft sinks.1 hrefused hleft
      have hall : (pair left right).logs (react sinks event).1 =
          left.logs (react sinks.1 event).1 ++ right.logs sinks.2 :=
        congrArg (pair left right).logs hreact
      refine ⟨before, after + right.size, ?_, ?_⟩
      · rw [size]
        omega
      · rw [hall, hadded, hright, List.append_assoc, List.cons_append,
          List.replicate_append_replicate]
    · -- The left half takes it, so it is added to all the logs on the left.
      obtain ⟨before, after, hsize, hadded⟩ := ihright sinks.2 hrefused hright
      have htold := logs_react_taken left sinks.1 hearly htaken
      have hall : (pair left right).logs (react sinks event).1 =
          left.logs (react sinks.1 event).1 ++ right.logs (react sinks.2 event).1 :=
        congrArg (pair left right).logs hreact
      refine ⟨left.size + before, after, ?_, ?_⟩
      · rw [size]
        omega
      · rw [hall, htold, hleft, List.map_replicate, hadded, ← List.append_assoc,
          List.replicate_append_replicate]

/-- The answer of a tree whose leaves refuse the end for the given reasons: the leftmost refusal
counts. -/
def verdict (refusals : List (Option Sink.Error)) : Except Sink.Error Unit :=
  match refusals.findSome? id with
  | some e => .error e
  | none => .ok ()

theorem verdict_eq_ok {refusals : List (Option Sink.Error)} :
    verdict refusals = .ok () ↔ refusals.findSome? id = none := by
  unfold verdict
  cases refusals.findSome? id with
  | some e => simp
  | none => simp

theorem verdict_eq_error {refusals : List (Option Sink.Error)} {e : Sink.Error} :
    verdict refusals = .error e ↔ refusals.findSome? id = some e := by
  unfold verdict
  cases refusals.findSome? id with
  | some e' => simp
  | none => simp

theorem verdict_append (first second : List (Option Sink.Error)) :
    verdict (first ++ second) =
      match verdict first with
      | .error e => .error e
      | .ok () => verdict second := by
  unfold verdict
  rw [List.findSome?_append]
  cases first.findSome? id with
  | some e => rfl
  | none => rfl

/-- The end reaches every leaf. -/
theorem logs_react_ended (joint : Joint) (sinks : joint.logged.Sinks) {log : List Call}
    (hlogs : joint.logs sinks = List.replicate joint.size log) :
    ∃ refusals : List (Option Sink.Error), refusals.length = joint.size ∧
      answer sinks .ended = verdict refusals ∧
      joint.logs (react sinks .ended).1 =
        refusals.map fun refusal => log ++ [{ event := .ended, refusal }] := by
  induction joint with
  | @leaf σ _ =>
    have hreact := react_logged (σ := σ) sinks .ended
    have hanswer := answer_logged (σ := σ) sinks .ended
    obtain rfl : (sinks : Logged σ).calls = log := List.singleton_inj.mp hlogs
    have hlog : (leaf σ).logs (react sinks .ended).1 =
        [(sinks : Logged σ).calls ++ [.of .ended (answer (σ := Logged σ) sinks .ended)]] := by
      show [((react (σ := Logged σ) sinks .ended).1).calls] = _
      rw [hreact, ← hanswer]
    cases hresult : answer (σ := Logged σ) sinks .ended with
    | error e =>
      rw [hresult] at hlog
      exact ⟨[some e], rfl, hresult, hlog⟩
    | ok =>
      rw [hresult] at hlog
      exact ⟨[none], rfl, hresult, hlog⟩
  | pair left right ihleft ihright =>
    obtain ⟨hleft, hright⟩ := logs_pair_eq_replicate hlogs
    obtain ⟨first, hfirst, hverdict, haddedLeft⟩ := ihleft sinks.1 hleft
    obtain ⟨second, hsecond, hverdict', haddedRight⟩ := ihright sinks.2 hright
    have hanswer := answer_pair_ended (σ := left.logged.Sinks) (τ := right.logged.Sinks) sinks
    refine ⟨first ++ second, ?_, ?_, ?_⟩
    · rw [List.length_append, hfirst, hsecond]
      rfl
    · rw [verdict_append, ← hverdict, ← hverdict']
      exact hanswer
    · show left.logs (react sinks.1 .ended).1 ++ right.logs (react sinks.2 .ended).1 = _
      rw [haddedLeft, haddedRight, List.map_append]

/-! ## What events in turn add to the logs -/

/-- Events that are taken reach every leaf. -/
theorem logs_tell_taken (joint : Joint) (sinks : joint.logged.Sinks) {events : List Event}
    (hearly : ∀ event ∈ events, event.isEarly = true)
    (h : callsOf sinks events = events.map took) :
    joint.logs (tell sinks events) = (joint.logs sinks).map (· ++ events.map took) := by
  induction events generalizing sinks with
  | nil =>
    have hsame : (fun log : List Call => log ++ ([] : List Event).map took) = id := by
      funext log
      exact List.append_nil log
    rw [hsame, List.map_id]
    rfl
  | cons event rest ih =>
    obtain ⟨hevent, hrest⟩ := List.forall_mem_cons.mp hearly
    have htaken : answer sinks event = .ok () := answer_of_callsOf h
    rw [callsOf, List.map_cons, List.cons.injEq] at h
    obtain ⟨-, hcalls⟩ := h
    have hfirst := logs_react_taken joint sinks hevent htaken
    have hlater := ih (react sinks event).1 hrest hcalls
    rw [tell_cons, hlater, hfirst, List.map_map]
    refine List.map_congr_left fun log _ => ?_
    rw [Function.comp_apply, List.append_assoc]
    rfl

end Joint

end Screencast.Sink
