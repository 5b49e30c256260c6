/-
Delivery: a session run to its end into a sink.

The sink is told of the announcement, of every frame in order, and then either
of the end or of the failure, exactly once. A sink that refuses the
announcement or a frame thereby fails the session, and is told of that failure
as of any other; one that refuses the end has had its last event.
-/
import Screencast.Session

namespace Screencast

namespace Session

/-- What a sink does happens to the session that feeds it. -/
def undergo (session : Session) : Sink.Effect → Session
  | .note notice => session.note notice
  | .cancel => session.cancel
  | .testify name event => session.withFeed (session.feed.record (.testimony name event))

/-- Undergoes what a sink does, in order. -/
def undergoAll (session : Session) (effects : List Sink.Effect) : Session :=
  effects.foldl undergo session

theorem weight_undergo (session : Session) (effect : Sink.Effect) :
    (session.undergo effect).weight = session.weight := by
  cases effect
  · rfl
  · exact weight_cancel session
  · rfl

@[simp] theorem weight_undergoAll (session : Session) (effects : List Sink.Effect) :
    (session.undergoAll effects).weight = session.weight := by
  unfold undergoAll
  induction effects generalizing session with
  | nil => rfl
  | cons effect rest ih => rw [List.foldl_cons, ih, weight_undergo]

end Session

namespace Delivery

/-- What was delivered by a session that ended well. -/
structure Summary where
  announcement : Announcement
  frames : Nat := 0
  /-- The bytes of all payloads. -/
  bytes : Nat := 0
  deriving DecidableEq, Repr

/-- Counts a frame. -/
def Summary.count (summary : Summary) (frame : Frame) : Summary :=
  { summary with
    frames := summary.frames + 1
    bytes := summary.bytes + frame.payload.length }

variable {σ : Type} [Sink σ]

/-- Tells the sink of the failure that ended the session. -/
def mourn (failure : Failure) (session : Session) (sink : σ) :
    Except Failure Summary × Session × σ :=
  let (sink, effects) := Sink.onFailure sink failure
  (.error failure, session.undergoAll effects, sink)

/-- Fails the session because the sink refused an event, and tells the sink. -/
def giveUp (error : Sink.Error) (session : Session) (sink : σ) :
    Except Failure Summary × Session × σ :=
  let (failure, session) := session.fail (.sink error)
  mourn failure session sink

/-- Tells the sink of the end. -/
def conclude (summary : Summary) (session : Session) (sink : σ) :
    Except Failure Summary × Session × σ :=
  let reply := Sink.onEnd sink
  let session := session.undergoAll reply.effects
  match reply.result with
  -- The sink has had its last event, so it is not told of its own refusal.
  | .error e => (.error (.sink e), session, reply.sink)
  | .ok () =>
    let done : Notice := .deliveryDone summary.announcement.device summary.frames summary.bytes
    (.ok summary, session.note done, reply.sink)

/-- Delivers the frames that remain. -/
def deliverFrames (summary : Summary) (session : Session) (sink : σ) :
    Except Failure Summary × Session × σ :=
  match _h : session.next with
  | (.error failure, session') => mourn failure session' sink
  | (.ok none, session') => conclude summary session' sink
  | (.ok (some frame), session') =>
    let reply := Sink.onFrame sink frame
    match reply.result with
    | .error e => giveUp e (session'.undergoAll reply.effects) reply.sink
    | .ok () =>
      deliverFrames (summary.count frame) (session'.undergoAll reply.effects) reply.sink
termination_by session.weight
decreasing_by
  rw [Session.weight_undergoAll]
  exact Session.weight_next_lt _h

/-- Runs a session to its end. -/
def run (session : Session) (sink : σ) : Except Failure Summary × Session × σ :=
  match session.handshake with
  | (.error failure, session) => mourn failure session sink
  | (.ok announcement, session) =>
    let reply := Sink.onAnnouncement sink announcement
    let session := session.undergoAll reply.effects
    match reply.result with
    | .error e => giveUp e session reply.sink
    | .ok () => deliverFrames { announcement } session reply.sink

/-- Runs a session on its own: to its end, after which it is let go of. -/
def runDetached (session : Session) (sink : σ) : Except Failure Summary × Session × σ :=
  let (result, session, sink) := run session sink
  (result, (session.note (.workerDone result.isOk)).close, sink)

end Delivery

end Screencast
