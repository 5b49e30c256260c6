/-
Child processes that are fed the bare stream.

A child takes payloads on its standard input. What it does with them is its
own affair; for the sink only three things count: how much of its input it
reads before it stops, how it ends, and that a pipe holds some bytes which
nobody has read yet. When the stream ends or the session fails, the input is
closed and the end of the child awaited, once; after that the child takes
nothing more. What it writes into files is a function of what it was fed.
-/
import Screencast.Sink

namespace Screencast.Sink

/-- What a child process writes: a text of its own, and then a part of its input. -/
structure Child.Writing where
  text : List UInt8 := []
  /-- How much of the input comes before that part. -/
  skipped : Nat := 0
  /-- How long that part is; `none` is all the rest. -/
  length : Option Nat := some 0
  /-- What has been written into the same file before is lost. -/
  anew : Bool := false
  deriving DecidableEq, Repr

/-- What a child process does. -/
structure Child.Conduct where
  /-- How many bytes of its input it reads; `none` is all of it. -/
  appetite : Option Nat := none
  /-- How it ends. -/
  status : WaitStatus := .exited 0
  /-- What it writes to its standard output. -/
  printed : Child.Writing := {}
  /-- What it writes into files, and where they stand. -/
  files : List (List String × Child.Writing) := []
  deriving DecidableEq, Repr

/-- A sink that feeds a child process. -/
structure Child where
  program : String
  conduct : Child.Conduct
  /-- The bytes written to the child so far. -/
  fed : List UInt8 := []
  /-- The input has been closed and the end awaited. -/
  finished : Bool := false
  deriving DecidableEq, Repr

namespace Child

/-- The bytes that are written, given the whole input. -/
def Writing.bytes (writing : Writing) (input : List UInt8) : List UInt8 :=
  let rest := input.drop writing.skipped
  writing.text ++ (match writing.length with
    | none => rest
    | some length => rest.take length)

/-- The bytes that a pipe holds. -/
def pipeCapacity : Nat := 65536

/-- A new child process, and the report of it. -/
def spawn (program : String) (conduct : Conduct) : Child × List Effect :=
  ({ program, conduct }, [.note (.childStarted program)])

/-- The child can be fed so many bytes altogether. -/
def hasRoom (child : Child) (bytes : Nat) : Bool :=
  match child.conduct.appetite with
  | none => true
  | some appetite => bytes ≤ appetite + pipeCapacity

/-- Closes the input and awaits the end, unless that has been done. -/
def finish (child : Child) : Reply Child :=
  if child.finished then { sink := child }
  else
    let status := child.conduct.status
    { sink := { child with finished := true }
      result := if status.isSuccess then .ok () else .error (.processFailed child.program status)
      effects := [.note (.childExited child.program status)] }

instance : Sink Child where
  onAnnouncement child _ := { sink := child }
  onFrame child frame :=
    let fed := child.fed ++ frame.payload
    -- Nothing is taken once the input is closed; an empty payload always fits.
    if child.finished then { sink := child, result := .error (.processGone child.program) }
    else if frame.payload.isEmpty || child.hasRoom fed.length then
      { sink := { child with fed } }
    else {
      sink := child
      result := .error (.processGone child.program)
      effects := [.note (.childDeaf child.program)] }
  onEnd child := child.finish
  onFailure child _ :=
    let reply := child.finish
    let unclean := match reply.result with
      | .ok () => []
      | .error e => [.note (.childUnclean e)]
    (reply.sink, reply.effects ++ unclean)

/-- What a child has written into a file, if it has written it at all. -/
def wrote? (child : Child) (place : List String) : Option (List UInt8) :=
  child.conduct.files.foldl (fun sofar (file, writing) =>
    if file ≠ place then sofar
    else
      let kept := if writing.anew then [] else sofar.getD []
      some (kept ++ writing.bytes child.fed)) none

/-- Lets go of a child, whose end is then awaited. -/
def drop (child : Child) : List Effect := child.finish.effects

end Child

end Screencast.Sink
