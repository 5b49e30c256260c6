/-
Sessions: one handshake and then frames, over a channel of their own.

A session makes its handshake when it is first asked for anything, and then
gives the frames of its stream in order. The clean end, a failure or a request
to close takes it to a terminal phase and has it let go of its channel, with the
reader that takes the frames out of it. It lets go of whatever it still holds
(`release`), whichever phase it is in: that this happens once in the life of a
session is not tested for.

A session can be cancelled at any moment. It then fails with `closed` at its
next step, and whatever else goes wrong meanwhile is reported as that, too. A
frame that is complete when the request arrives is still delivered.
-/
import Screencast.Handshake
import Screencast.Intake

namespace Screencast

/-- A session. -/
structure Session where
  /-- The channel, with all that has happened to it. What has been let go of is still seen here. -/
  feed : Feed
  /-- What takes the frames out of the channel, as long as the session holds both. -/
  reader : Option Reader
  settings : Handshake.Settings
  phase : Session.Phase := .connected
  /-- What the device announced, once the handshake has been made. -/
  announcement : Option Announcement := none
  /-- What became of the probe byte, once the handshake has been made. -/
  probe : Option Probe := none
  deriving DecidableEq, Repr

namespace Session

/-- A session over an open channel, of which nothing has been read. -/
def start (feed : Feed) (settings : Handshake.Settings) (limit : Nat) : Session :=
  let feed := match feed.closerFault with
    | some fault => feed.note (.closerUnavailable fault)
    | none => feed
  { feed, reader := some { limit }, settings }

/-! ## Views -/

/-- The same session after something happened to its channel. -/
def withFeed (session : Session) (feed : Feed) : Session := { session with feed }

/-- The same session after its reader was asked for a frame. -/
def withIntake (session : Session) (intake : Intake) : Session :=
  { session with feed := intake.feed, reader := some intake.toReader }

/-- Reports something. -/
def note (session : Session) (notice : Notice) : Session :=
  session.withFeed (session.feed.note notice)

/-- The session has been cancelled. -/
def isCancelled (session : Session) : Bool := session.feed.cancelled

/-- The frames delivered so far; none are counted once the channel is let go. -/
def framesRead (session : Session) : Nat := session.reader.elim 0 (·.delivered)

/-! ## The ways to end -/

/-- Enters a phase, and lets go of the channel if the session still holds it. -/
def release (session : Session) (phase : Phase) : Session :=
  match session.reader with
  | some _ =>
    { session with phase, reader := none, feed := session.feed.close.note (.released phase) }
  | none => { session with phase }

/-- Closes a session. -/
def close (session : Session) : Session :=
  session.release (if session.phase.isTerminal then session.phase else .closed)

/-- Fails. After a request to cancel, the failure is `closed`. -/
def fail (session : Session) (failure : Failure) : Failure × Session :=
  -- Whatever goes wrong after a request to cancel is put down to the request.
  let reported := if session.isCancelled then .closed else failure
  (reported, (session.note (.sessionFailed reported session.phase)).release .failed)

/-- Requests that a session end. -/
def cancel (session : Session) : Session := session.withFeed session.feed.cancel

/-! ## Steps -/

/-- Fails with a result of any type. -/
def failWith {α : Type} (session : Session) (failure : Failure) : Except Failure α × Session :=
  let (failure, session) := session.fail failure
  (.error failure, session)

/-- A session that has learned what its handshake found out, and goes on to the frames. -/
def learn (session : Session) (outcome : Handshake.Outcome) : Session :=
  { session with
    phase := .streaming
    announcement := some outcome.announcement
    probe := some outcome.probe }

/-- Makes the handshake of a session that is only connected. -/
def openStream (session : Session) : Except Failure Announcement × Session :=
  if session.isCancelled then session.failWith .closed
  else
    let session := { session with phase := .handshaking }
    match session.reader with
    | none => session.failWith .closed
    | some _ =>
      match Handshake.perform session.settings session.feed with
      | (.ok outcome, feed) => (.ok outcome.announcement, (session.withFeed feed).learn outcome)
      | (.error failure, feed) => (session.withFeed feed).failWith failure

/-- What the device announces. The handshake is made if it has not been made yet. -/
def handshake (session : Session) : Except Failure Announcement × Session :=
  match session.phase with
  | .connected => session.openStream
  | .handshaking | .streaming =>
    match session.announcement with
    | some announcement => (.ok announcement, session)
    | none => (.error .closed, session)
  | .closed | .failed => (.error .closed, session)

/-- The next frame of a session that is streaming, or `none` at the clean end. -/
def pull (session : Session) : Except Failure (Option Frame) × Session :=
  if session.isCancelled then session.failWith .closed
  else
    match session.reader with
    | none => (.ok none, session)
    | some reader =>
      match (reader.over session.feed).next with
      | (.ok (some frame), intake) => (.ok (some frame), session.withIntake intake)
      | (.ok none, intake) =>
        let session := session.withIntake intake
        -- The request may have come while the end was being read.
        if session.isCancelled then session.failWith .closed
        else (.ok none, (session.note (.streamEnded intake.delivered)).release .closed)
      | (.error e, intake) => (session.withIntake intake).failWith (.ofWire e)

/-- The next frame, or `none` at the clean end and after any end. The handshake is made first if
it has not been made yet. -/
def next (session : Session) : Except Failure (Option Frame) × Session :=
  match session.phase with
  | .connected =>
    match session.openStream with
    | (.error failure, session) => (.error failure, session)
    | (.ok _, session) => session.pull
  | .handshaking | .streaming => session.pull
  | .closed | .failed => (.ok none, session)

/-! ## Progress -/

/-- The most reads that the channel of a session can answer. -/
def weight (session : Session) : Nat := session.feed.weight

@[simp] theorem weight_withFeed (session : Session) (feed : Feed) :
    (session.withFeed feed).weight = feed.weight := rfl

@[simp] theorem weight_note (session : Session) (notice : Notice) :
    (session.note notice).weight = session.weight := rfl

@[simp] theorem weight_cancel (session : Session) : session.cancel.weight = session.weight := by
  rw [cancel, weight_withFeed, Feed.weight_cancel, weight]

theorem weight_openStream_le {session session' : Session} {announcement : Announcement}
    (h : session.openStream = (.ok announcement, session')) :
    session'.weight ≤ session.weight := by
  have hle := Handshake.weight_perform_le session.settings session.feed
  unfold openStream failWith at h
  split at h
  · simp at h
  · dsimp only at h
    split at h
    · simp at h
    · split at h
      · next feed hfeed =>
        simp only [Prod.mk.injEq] at h
        rw [hfeed] at hle
        rw [← h.2]
        exact hle
      · simp at h

theorem weight_pull_lt {session session' : Session} {frame : Frame}
    (h : session.pull = (.ok (some frame), session')) : session'.weight < session.weight := by
  unfold pull failWith at h
  split at h
  · simp at h
  · split at h
    · simp at h
    · next reader _ =>
      split at h
      · next intake hnext =>
        simp only [Prod.mk.injEq] at h
        obtain ⟨hframe, rfl⟩ := h
        exact Intake.weight_next_lt hnext
      · dsimp only at h
        split at h <;> simp at h
      · simp at h

/-- A frame that is delivered uses up some of what the channel has to say. -/
theorem weight_next_lt {session session' : Session} {frame : Frame}
    (h : session.next = (.ok (some frame), session')) : session'.weight < session.weight := by
  unfold next at h
  split at h
  · split at h
    · simp at h
    · next hopen => exact Nat.lt_of_lt_of_le (weight_pull_lt h) (weight_openStream_le hopen)
  · exact weight_pull_lt h
  · exact weight_pull_lt h
  · simp at h
  · simp at h

/-- Every answer up to the end of the session, which is not among them. -/
def all (session : Session) : List (Except Failure (Option Frame)) × Session :=
  match _h : session.next with
  | (.ok (some frame), session') =>
    let (rest, last) := all session'
    (.ok (some frame) :: rest, last)
  | (.ok none, session') => ([], session')
  | (.error failure, session') => ([.error failure], session')
termination_by session.weight
decreasing_by exact weight_next_lt _h

end Session

end Screencast
