/-
Feeds that say the same.

Two feeds that say the same may cut it in different ways, and interrupt
different reads. Whatever is a function of the signals of a feed comes to the
same on both, takes the same number of bytes and leaves the same signals
(`Agrees.of_finds`). How a channel answers requests for bounded waits is no
part of its signals, so requests agree where the channels answer alike
(`bound_agrees`).
-/
import Screencast.Proofs.Handshake

namespace Screencast.Feed

/-- Two feeds that have the same still to say, and have said as much; nobody cancels either. -/
structure Alike (first second : Feed) : Prop where
  signals : first.signals = second.signals
  consumed : first.history.consumed = second.history.consumed
  calm : first.Calm
  calm' : second.Calm

/-- Two operations that come to the same, and leave feeds that say the same. -/
structure Agrees {α : Type} (first second : α × Feed) : Prop where
  result : first.1 = second.1
  alike : Alike first.2 second.2

/-- What leaves the same signals has taken the same number of bytes. -/
theorem Alike.sequel {first second first' second' : Feed} (h : Alike first second)
    (hfirst : Sequel first first') (hsecond : Sequel second second')
    (hsignals : first'.signals = second'.signals) : Alike first' second' where
  signals := hsignals
  consumed := hfirst.consumed_eq hsecond h.signals h.consumed hsignals
  calm := hfirst.calm h.calm
  calm' := hsecond.calm h.calm'

theorem Alike.note {first second : Feed} (h : Alike first second) (notice notice' : Notice) :
    Alike (first.note notice) (second.note notice') :=
  h.sequel (.note first notice) (.note second notice') h.signals

/-- **What is found in the signals is found alike.** -/
theorem Agrees.of_finds {α : Type} {first second : Feed} {run run' : α × Feed}
    {found : α × List Signal} (h : Alike first second) (hfirst : Finds first run found)
    (hsecond : Finds second run' found) : Agrees run run' where
  result := hfirst.result.trans hsecond.result.symm
  alike := h.sequel hfirst.sequel hsecond.sequel (hfirst.signals.trans hsecond.signals.symm)

/-- How a request for a bounded wait is answered depends only on the answers that are left. -/
theorem bound_of_waits {first second : Feed} (h : first.waits = second.waits)
    (limit : Option Span) :
    (first.bound limit).1 = (second.bound limit).1 ∧
      (first.bound limit).2.waits = (second.bound limit).2.waits := by
  unfold bound
  rw [h]
  split
  · exact ⟨rfl, h⟩
  · exact ⟨rfl, rfl⟩
  · exact ⟨rfl, rfl⟩
  · exact ⟨rfl, h⟩

theorem bound_agrees {first second : Feed} (h : Alike first second)
    (hwaits : first.waits = second.waits) (limit : Option Span) :
    Agrees (first.bound limit) (second.bound limit) where
  result := (bound_of_waits hwaits limit).1
  alike := by
    refine h.sequel (bound_sequel first limit) (bound_sequel second limit) ?_
    rw [signals_bound, signals_bound, h.signals]

end Screencast.Feed
