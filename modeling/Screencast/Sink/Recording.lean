/-
Recordings: the bare stream, payload after payload.

A recording writes every payload to its drain and nothing else. It is flushed
when the stream ends and also when the session fails, since what came before
a failure is worth keeping; only then is a fault of the flush merely reported.
A recording in a file is buffered.
-/
import Screencast.Drain.Buffered
import Screencast.Sink

namespace Screencast.Sink

/-- A sink that writes payloads to a drain. -/
structure Recording where
  out : Drain.Buffered
  /-- The bytes of the payloads written so far. -/
  written : Nat := 0
  /-- Where the file stands that is recorded into. -/
  place : Option (List String) := none
  deriving DecidableEq, Repr

namespace Recording

/-- How many bytes are held back from a file. -/
def fileBuffer : Nat := 8192

/-- A recording in a new file, and the report of it. -/
def create (path : String) (file : Drain) (place : Option (List String) := none) :
    Recording × List Effect :=
  ({ out := { drain := file, capacity := fileBuffer }, place }, [.note (.recordingTo path)])

/-- What the recording has written into a file, if it is recorded there. -/
def wrote? (recording : Recording) (place : List String) : Option (List UInt8) :=
  if recording.place = some place then some recording.out.drain.taken else none

/-- What the drain has taken once the recording is let go of. -/
def kept (recording : Recording) : List UInt8 := recording.out.pass.2.drain.taken

instance : Sink Recording where
  onAnnouncement recording _ := { sink := recording }
  onFrame recording frame :=
    match recording.out.writeAll frame.payload with
    | (.ok (), out) =>
      { sink := { recording with out, written := recording.written + frame.payload.length } }
    | (.error fault, out) => { sink := { recording with out }, result := .error (.io fault) }
  onEnd recording :=
    let (result, out) := recording.out.flush
    { sink := { recording with out }, result := result.mapError .io }
  onFailure recording _ :=
    let (result, out) := recording.out.flush
    let effects := match result with
      | .ok () => []
      | .error fault => [.note (.flushFailed fault)]
    ({ recording with out }, effects)

end Recording

end Screencast.Sink
