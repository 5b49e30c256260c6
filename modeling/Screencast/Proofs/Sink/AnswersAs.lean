/-
Sinks that answer alike.

Two types of sinks may answer every event alike, through a map that takes the
one to the other (`AnswersAs`). A delivery sees of its sink only the answers, so
it goes the same way into both, and the map takes the sink that it leaves in the
one to the sink that it leaves in the other (`run_map`).
-/
import Screencast.Delivery
import Screencast.Sink.Any

namespace Screencast

namespace Sink

/-! ## Maps between sinks -/

/-- A map between sinks that answer alike. -/
structure AnswersAs {σ τ : Type} [Sink σ] [Sink τ] (f : σ → τ) : Prop where
  onAnnouncement : ∀ sink told,
    Sink.onAnnouncement (f sink) told = (Sink.onAnnouncement sink told).map f
  onFrame : ∀ sink frame, Sink.onFrame (f sink) frame = (Sink.onFrame sink frame).map f
  onEnd : ∀ sink, Sink.onEnd (f sink) = (Sink.onEnd sink).map f
  onFailure : ∀ sink failure,
    Sink.onFailure (f sink) failure = (Sink.onFailure sink failure).map f id

theorem AnswersAs.refl (σ : Type) [Sink σ] : AnswersAs (fun sink : σ => sink) :=
  ⟨fun _ _ => rfl, fun _ _ => rfl, fun _ => rfl, fun _ _ => rfl⟩

theorem AnswersAs.comp {σ τ υ : Type} [Sink σ] [Sink τ] [Sink υ] {f : σ → τ} {g : τ → υ}
    (hg : AnswersAs g) (hf : AnswersAs f) : AnswersAs (g ∘ f) where
  onAnnouncement sink told := by
    rw [Function.comp_apply, hg.onAnnouncement, hf.onAnnouncement]
    rfl
  onFrame sink frame := by
    rw [Function.comp_apply, hg.onFrame, hf.onFrame]
    rfl
  onEnd sink := by
    rw [Function.comp_apply, hg.onEnd, hf.onEnd]
    rfl
  onFailure sink failure := by
    rw [Function.comp_apply, hg.onFailure, hf.onFailure]
    rfl

theorem Reply.map_andThen {σ σ' τ τ' : Type} (f : σ → τ) (g : σ' → τ') (first : Reply σ)
    (right : σ') (second : Reply σ') :
    (first.map f).andThen (g right) (second.map g) =
      (first.andThen right second).map (Prod.map f g) := by
  rw [Reply.andThen, Reply.andThen, Reply.map, Reply.map]
  dsimp only
  cases first.result with
  | error e => rfl
  | ok => rfl

/-- Pairs answer alike whose halves do. -/
theorem AnswersAs.pair {σ σ' τ τ' : Type} [Sink σ] [Sink σ'] [Sink τ] [Sink τ'] {f : σ → τ}
    {g : σ' → τ'} (hf : AnswersAs f) (hg : AnswersAs g) : AnswersAs (Prod.map f g) where
  onAnnouncement sinks told := by
    show Reply.andThen (Sink.onAnnouncement (f sinks.1) told) (g sinks.2)
        (Sink.onAnnouncement (g sinks.2) told) = _
    rw [hf.onAnnouncement, hg.onAnnouncement, Reply.map_andThen]
    rfl
  onFrame sinks frame := by
    show Reply.andThen (Sink.onFrame (f sinks.1) frame) (g sinks.2)
        (Sink.onFrame (g sinks.2) frame) = _
    rw [hf.onFrame, hg.onFrame, Reply.map_andThen]
    rfl
  onEnd sinks := by
    show Reply.both (Sink.onEnd (f sinks.1)) (Sink.onEnd (g sinks.2)) = _
    rw [hf.onEnd, hg.onEnd]
    rfl
  onFailure sinks failure := by
    show (((Sink.onFailure (f sinks.1) failure).1, (Sink.onFailure (g sinks.2) failure).1),
        (Sink.onFailure (f sinks.1) failure).2 ++ (Sink.onFailure (g sinks.2) failure).2) = _
    rw [hf.onFailure, hg.onFailure]
    rfl

end Sink

namespace Delivery

open Sink

/-! ## Deliveries -/

variable {σ τ : Type} [Sink σ] [Sink τ] {f : σ → τ}

/-- What is delivered next, by the answer of the session. -/
theorem deliverFrames_eq (summary : Summary) (session : Session) (sink : σ) :
    deliverFrames summary session sink =
      match session.next with
      | (.error failure, session) => mourn failure session sink
      | (.ok none, session) => conclude summary session sink
      | (.ok (some frame), session) =>
        let reply := Sink.onFrame sink frame
        match reply.result with
        | .error e => giveUp e (session.undergoAll reply.effects) reply.sink
        | .ok () =>
          deliverFrames (summary.count frame) (session.undergoAll reply.effects) reply.sink := by
  rw [deliverFrames]
  split
  · next heq => exact heq ▸ rfl
  · next heq => exact heq ▸ rfl
  · next heq => exact heq ▸ rfl

/-- What a delivery comes to once its sink is taken for another one. -/
def onto (f : σ → τ) (run : Except Failure Summary × Session × σ) :
    Except Failure Summary × Session × τ := (run.1, run.2.1, f run.2.2)

theorem mourn_map (hf : AnswersAs f) (failure : Failure) (session : Session) (sink : σ) :
    mourn failure session (f sink) = onto f (mourn failure session sink) := by
  rw [mourn, mourn, hf.onFailure]
  rfl

theorem giveUp_map (hf : AnswersAs f) (e : Sink.Error) (session : Session) (sink : σ) :
    giveUp e session (f sink) = onto f (giveUp e session sink) :=
  mourn_map hf (session.fail (.sink e)).1 (session.fail (.sink e)).2 sink

theorem conclude_map (hf : AnswersAs f) (summary : Summary) (session : Session) (sink : σ) :
    conclude summary session (f sink) = onto f (conclude summary session sink) := by
  rw [conclude, conclude, hf.onEnd, Reply.map]
  dsimp only
  cases (onEnd sink).result with
  | error e => rfl
  | ok => rfl

theorem deliverFrames_map (hf : AnswersAs f) (summary : Summary) (session : Session) (sink : σ) :
    deliverFrames summary session (f sink) = onto f (deliverFrames summary session sink) := by
  fun_induction deliverFrames summary session sink with
  | case1 summary session sink failure session' hnext =>
    rw [deliverFrames_eq, hnext]
    exact mourn_map hf failure session' sink
  | case2 summary session sink session' hnext =>
    rw [deliverFrames_eq, hnext]
    exact conclude_map hf summary session' sink
  | case3 summary session sink frame session' hnext reply e hreply =>
    have hrefused : (onFrame sink frame).result = .error e := hreply
    rw [deliverFrames_eq, hnext]
    dsimp only
    rw [hf.onFrame, Reply.map]
    dsimp only
    rw [hrefused]
    exact giveUp_map hf e _ reply.sink
  | case4 summary session sink frame session' hnext reply hreply ih =>
    have htaken : (onFrame sink frame).result = .ok () := hreply
    rw [deliverFrames_eq, hnext]
    dsimp only
    rw [hf.onFrame, Reply.map]
    dsimp only
    rw [htaken]
    exact ih

/-- **Deliveries into sinks that answer alike go alike.** -/
theorem run_map (hf : AnswersAs f) (session : Session) (sink : σ) :
    run session (f sink) = onto f (run session sink) := by
  unfold run
  rcases session.handshake with ⟨failure | told, session'⟩
  · exact mourn_map hf failure session' sink
  · dsimp only
    rw [hf.onAnnouncement, Reply.map]
    dsimp only
    cases (onAnnouncement sink told).result with
    | error e => exact giveUp_map hf e _ (onAnnouncement sink told).sink
    | ok => exact deliverFrames_map hf _ _ (onAnnouncement sink told).sink

end Delivery

end Screencast
