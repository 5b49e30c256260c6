/-
Sinks of one type, joined in pairs to any depth.

A tree answers as the pairs it is made of: an event passes the leaves from
left to right.
-/
import Screencast.Sink

namespace Screencast

/-- Sinks of one type, joined in pairs. -/
inductive Sink.Tree (σ : Type)
  | leaf (sink : σ)
  | pair (left right : Sink.Tree σ)

namespace Sink.Tree

variable {σ : Type}

/-- The sinks of a tree from left to right. -/
def leaves : Tree σ → List σ
  | leaf sink => [sink]
  | pair left right => left.leaves ++ right.leaves

/-- The tree of two trees that answered as a pair. -/
def ofPair (reply : Reply (Tree σ × Tree σ)) : Reply (Tree σ) :=
  { sink := pair reply.sink.1 reply.sink.2, result := reply.result, effects := reply.effects }

/-- The tree of a sink that answered alone. -/
def ofLeaf (reply : Reply σ) : Reply (Tree σ) :=
  { sink := leaf reply.sink, result := reply.result, effects := reply.effects }

variable [Sink σ]

def onAnnouncement : Tree σ → Announcement → Reply (Tree σ)
  | leaf sink, announcement => ofLeaf (Sink.onAnnouncement sink announcement)
  | pair left right, announcement =>
    ofPair ((left.onAnnouncement announcement).andThen right (right.onAnnouncement announcement))

def onFrame : Tree σ → Frame → Reply (Tree σ)
  | leaf sink, frame => ofLeaf (Sink.onFrame sink frame)
  | pair left right, frame => ofPair ((left.onFrame frame).andThen right (right.onFrame frame))

def onEnd : Tree σ → Reply (Tree σ)
  | leaf sink => ofLeaf (Sink.onEnd sink)
  | pair left right => ofPair (left.onEnd.both right.onEnd)

def onFailure : Tree σ → Failure → Tree σ × List Effect
  | leaf sink, failure =>
    let (sink, effects) := Sink.onFailure sink failure
    (leaf sink, effects)
  | pair left right, failure =>
    let (left, first) := left.onFailure failure
    let (right, second) := right.onFailure failure
    (pair left right, first ++ second)

instance : Sink (Tree σ) where
  onAnnouncement := onAnnouncement
  onFrame := onFrame
  onEnd := onEnd
  onFailure := onFailure

end Sink.Tree

end Screencast
