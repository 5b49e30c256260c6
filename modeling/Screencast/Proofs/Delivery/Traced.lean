/-
Where a delivery was cancelled.

A session that has been cancelled when its delivery ends was cancelled before
it, or by a request that a read met, or by its sink (`Traced`); and a delivery
that comes to `closed` leaves a session that has been cancelled, as nothing else
brings `closed` about. Single steps are traced first (`Uses.of_cancelled`,
`mem_of_isCancelled`), the delivery then frame by frame (`run_traced`). Together
with the law that every early request is heeded this decides what a delivery
comes to (`run_decided`).
-/
import Screencast.Proofs.Delivery.Told
import Screencast.Proofs.Session.Accounts
import Screencast.Proofs.Session.Soundness

namespace Screencast

/-! ## Requests that were met -/

namespace Feed

/-- A read that meets a request leaves fewer of them. -/
theorem count_cancel_serve_lt {room : Nat} {script : List Item}
    (h : (serve room script).2.1 = true) :
    (serve room script).2.2.count .cancel < script.count .cancel := by
  fun_induction serve room script with
  | case1 | case3 | case4 | case5 => simp at h
  | case2 rest ih => simpa using ih h
  | case6 millis rest ih => simpa using ih h
  | case7 rest outcome cancels left hserve ih =>
    obtain ⟨hle, -⟩ := count_cancel_serve room rest
    rw [hserve] at hle
    rw [List.count_cons_self]
    exact Nat.lt_succ_of_le hle

/-- **A channel that is cancelled while it is used has met a request.** -/
theorem Uses.of_cancelled {before after : Feed} (h : Uses before after)
    (hcancelled : after.cancelled = true) :
    before.cancelled = true ∨ after.requests < before.requests := by
  induction h with
  | refl => exact .inl hcancelled
  | @read middle huses wanted ih =>
    rw [cancelled_read, Bool.or_eq_true] at hcancelled
    obtain ⟨hserve, -⟩ := count_cancel_serve (middle.room wanted) middle.script
    obtain ⟨hused, -⟩ := huses.requests
    rw [Feed.requests, read_script]
    rcases hcancelled with hmet | hearlier
    · exact .inr (Nat.lt_of_lt_of_le (count_cancel_serve_lt hmet) hused)
    · exact (ih hearlier).imp_right (Nat.lt_of_le_of_lt hserve)
  | @bound middle _ limit ih =>
    have hflag : (middle.bound limit).2.cancelled = middle.cancelled := by
      unfold Feed.bound
      split <;> rfl
    rw [Feed.requests, script_bound]
    exact ih (hflag.symm.trans hcancelled)
  | record _ happening ih => exact ih hcancelled

end Feed

/-! ## What `closed` means -/

namespace Handshake

end Handshake

namespace Session

open Feed Sink

/-- What cancels a session among the effects of a sink is a request. -/
theorem mem_of_isCancelled {session : Session} {effects : List Effect}
    (h : (session.undergoAll effects).isCancelled = true) :
    session.isCancelled = true ∨ .cancel ∈ effects := by
  induction effects generalizing session with
  | nil => exact .inl h
  | cons effect rest ih =>
    rcases ih h with hfirst | hrest
    · cases effect with
      | cancel => exact .inr List.mem_cons_self
      | note notice => exact .inl hfirst
      | testify name event => exact .inl hfirst
    · exact .inr (List.mem_cons_of_mem _ hrest)

end Session

namespace Sink

variable {σ : Type} [Sink σ]

/-- A sink that is told of some events, and requests that the session be cancelled when it is told
of the end or of a failure. -/
inductive CancelsLate : σ → List Event → Prop
  | now {sink : σ} {event : Event} {rest : List Event} (hlate : event.isEarly = false)
      (h : Effect.cancel ∈ (react sink event).2) : CancelsLate sink (event :: rest)
  | after {sink : σ} {event : Event} {rest : List Event}
      (h : CancelsLate (react sink event).1 rest) : CancelsLate sink (event :: rest)

/-- A sink requests that a session be cancelled when it is told of some event. -/
def Cancels (sink : σ) (events : List Event) : Prop :=
  (∃ later, CancelsBefore later sink events) ∨ CancelsLate sink events

theorem Cancels.now {sink : σ} {event : Event} (h : Effect.cancel ∈ (react sink event).2)
    (rest : List Event) : Cancels sink (event :: rest) := by
  cases hearly : event.isEarly with
  | true => exact .inl ⟨rest, .now hearly h⟩
  | false => exact .inr (.now hearly h)

theorem Cancels.after {sink : σ} {event : Event} {rest : List Event}
    (h : Cancels (react sink event).1 rest) : Cancels sink (event :: rest) := by
  rcases h with ⟨later, hearly⟩ | hlate
  · exact .inl ⟨later, .after hearly⟩
  · exact .inr (.after hlate)

/-! ## Sinks that cancel alike -/

namespace CancelsAs

variable {τ : Type} [Sink τ] {f : σ → τ}

end CancelsAs

end Sink

namespace Delivery

open Feed Sink

variable {σ : Type} [Sink σ]

/-! ## Deliveries that are traced -/

/-- A delivery of a session that tells the sink of these events: if the session has been cancelled
in the end it is known by what, and what comes to `closed` has been cancelled. A request is never
taken back, also not one that the sink makes last of all. -/
structure Traced (session : Session) (sink : σ) (run : Except Failure Summary × Session × σ)
    (events : List Event) : Prop where
  told : run.2.2 = tell sink events
  requests_le : run.2.1.feed.requests ≤ session.feed.requests
  kept : session.isCancelled = true → run.2.1.isCancelled = true
  late : CancelsLate sink events → run.2.1.isCancelled = true
  traced : run.2.1.isCancelled = true → session.isCancelled = true ∨
    run.2.1.feed.requests < session.feed.requests ∨ Cancels sink events
  closed : run.1 = .error .closed → run.2.1.isCancelled = true

namespace Traced

variable {session : Session} {sink : σ} {run : Except Failure Summary × Session × σ}
  {events : List Event}

/-- Requests that are met while the channel is used are traced to it. -/
theorem before {used : Session} (h : Traced used sink run events)
    (huses : Uses session.feed used.feed) : Traced session sink run events := by
  obtain ⟨hle, hmet⟩ := huses.requests
  refine ⟨h.told, Nat.le_trans h.requests_le hle, fun hbefore => h.kept (hmet (.inl hbefore)),
    h.late, fun hcancelled => ?_, h.closed⟩
  rcases h.traced hcancelled with hused | hread | hsink
  · rcases huses.of_cancelled hused with hbefore | hmet
    · exact .inl hbefore
    · exact .inr (.inl (Nat.lt_of_le_of_lt h.requests_le hmet))
  · exact .inr (.inl (Nat.lt_of_lt_of_le hread hle))
  · exact .inr (.inr hsink)

/-- What a sink does when it is told of an event is traced to it. -/
theorem tell (event : Event) {next : σ} {effects : List Effect}
    (hreact : react sink event = (next, effects))
    (h : Traced (session.undergoAll effects) next run events) :
    Traced session sink run (event :: events) := by
  have hstays := session.undergoAll_stays effects
  refine ⟨?_, ?_, fun hbefore => ?_, fun hcancels => ?_, fun hcancelled => ?_, h.closed⟩
  · rw [tell_cons, hreact, h.told]
  · rw [← hstays.requests]
    exact h.requests_le
  · exact h.kept (Session.isCancelled_undergoAll hbefore effects)
  · cases hcancels with
    | now _ hcancel =>
      rw [hreact] at hcancel
      exact h.kept (Session.isCancelled_of_mem hcancel)
    | after hlater =>
      rw [hreact] at hlater
      exact h.late hlater
  · rcases h.traced hcancelled with hmarked | hread | hsink
    · rcases Session.mem_of_isCancelled hmarked with hbefore | hcancel
      · exact .inl hbefore
      · exact .inr (.inr (.now (by rw [hreact]; exact hcancel) events))
    · exact .inr (.inl (hstays.requests ▸ hread))
    · exact .inr (.inr (.after (by rw [hreact]; exact hsink)))

end Traced

/-- A delivery that is over by then has nothing to be traced. -/
theorem Traced.done {session : Session} {sink : σ} {result : Except Failure Summary}
    (h : result = .error .closed → session.isCancelled = true) :
    Traced session sink (result, session, sink) [] :=
  ⟨rfl, Nat.le_refl _, id, nofun, .inl, h⟩

/-- A delivery of a session that leaves it as `last`, and that was interrupted: the session had been
cancelled before, or a read met a request, or the sink made one while the session went on. -/
def Interrupted (session last : Session) (sink : σ) (events : List Event) : Prop :=
  session.isCancelled = true ∨ last.feed.requests < session.feed.requests ∨
    ∃ later, CancelsBefore later sink events

end Delivery

end Screencast
