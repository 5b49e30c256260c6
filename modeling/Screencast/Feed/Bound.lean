/-
Channels that are asked to bound their waits, or to close.

A read may have to wait for as long as the device pleases. A channel can be
asked to give up a wait after some time, and asked again to wait for ever; it
need not be able to, and it may fail to. Both requests, closing and reports
leave what the channel still has to say as it was.
-/
import Screencast.Feed

namespace Screencast.Feed

/-- What a channel answers that knows no bounded waits. -/
def boundless : Fault := .ofKind .unsupported

/-- Asks for the wait of the following reads to be bounded, or to be unbounded again. -/
def bound (feed : Feed) (limit : Option Span) : Except Fault Unit × Feed :=
  match feed.waits with
  | .unsupported => (.error boundless, feed.record (.wait limit false))
  | .answers (some fault :: later) =>
    (.error fault, { feed with waits := .answers later }.record (.wait limit false))
  | .answers (none :: later) =>
    (.ok (), { feed with waits := .answers later }.record (.wait limit true))
  | .answers [] => (.ok (), feed.record (.wait limit true))

/-- Closes a channel. A failure to do so is only reported. -/
def close (feed : Feed) : Feed :=
  let closed := feed.record .closed
  match feed.closeFault with
  | some fault => closed.note (.closeFailed fault)
  | none => closed

@[simp] theorem weight_bound (feed : Feed) (limit : Option Span) :
    (feed.bound limit).2.weight = feed.weight := by
  unfold bound
  split <;> rfl

@[simp] theorem weight_close (feed : Feed) : feed.close.weight = feed.weight := by
  unfold close
  dsimp only
  split <;> rfl

end Screencast.Feed
