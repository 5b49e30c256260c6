/-
The program.

A command works on what a device sends. Here that is gathered from the machine
until the device has ended its stream, the user has interrupted it, or the
command has enough; the command is then performed, and what it comes to is
shown. Only endpoints that are TCP can be reached from here, and no remuxer
can be started.
-/
import Screencast.Command.Perform
import Screencast.CommandLine
import Screencast.Fault.Errno
import Screencast.Link
import Std.Async.DNS
import Std.Async.Select
import Std.Async.Signal
import Std.Async.TCP
import Std.Async.Timer

namespace Screencast.Machine

open Std.Async
open Std.Net

/-! ## Faults -/

/-- The number of an error, which some parts of the machine give as a negative one. -/
def errno (code : UInt32) : Nat := min code.toNat (-code).toNat

/-- The fault behind an error of the machine. -/
def faultOf : IO.Error → Fault
  | .alreadyExists _ code _ | .otherError code _ | .resourceBusy code _
  | .resourceVanished code _ | .unsupportedOperation code _ | .hardwareFault code _
  | .unsatisfiedConstraints code _ | .illegalOperation code _ | .protocolError code _
  | .timeExpired code _ | .interrupted _ code _ | .noFileOrDirectory _ code _
  | .invalidArgument _ code _ | .permissionDenied _ code _ | .resourceExhausted _ code _
  | .inappropriateType _ code _ | .noSuchThing _ code _ => Fault.ofErrno (errno code)
  | .unexpectedEof => Fault.ofKind .unexpectedEof
  | .userError message => ⟨.other, message⟩

/-- Does something, and keeps its fault if it has one. -/
def attempt {α : Type} (act : IO α) : IO (Except Fault α) := do
  try return .ok (← act)
  catch error => return .error (faultOf error)

/-! ## Channels -/

/-- A number of milliseconds to wait. -/
def pause (span : Span) : Std.Time.Millisecond.Offset := .ofNat span.millisUp

/-- An address with a port. -/
def socketAddress (port : UInt16) : IPAddr → SocketAddress
  | .v4 addr => .v4 { addr, port }
  | .v6 addr => .v6 { addr, port }

/-- Connects to an address unless that takes too long. -/
def connectTo (address : SocketAddress) (limit : Span) : Async (Option TCP.Socket.Client) := do
  let client ← TCP.Socket.Client.mk
  Async.race
    (do client.connect address; return some client)
    (do Std.Async.sleep (pause limit); return none)

/-- Connects to the first address that lets itself be reached. -/
def connectToFirst (port : UInt16) (limit : Span) (last : Fault) :
    List IPAddr → IO (Except Fault TCP.Socket.Client)
  | [] => return .error last
  | address :: rest => do
    match ← attempt (connectTo (socketAddress port address) limit).block with
    | .ok (some client) => return .ok client
    | .ok none => connectToFirst port limit ⟨.timedOut, "connection timed out"⟩ rest
    | .error fault => connectToFirst port limit fault rest

/-- Connects to an endpoint. -/
def connect (endpoint : Endpoint) (limit : Span) : IO (Except LinkError TCP.Socket.Client) := do
  match endpoint with
  | .unix _ => return .error (.unsupported endpoint.text)
  | .tcp host port =>
    match ← attempt (DNS.getAddrInfo host (toString port)).block with
    | .error fault => return .error (endpoint.unreachable fault)
    | .ok addresses =>
      let none := ⟨.addressNotAvailable, "host resolved to no addresses"⟩
      let client ← connectToFirst port limit none addresses.toList
      return client.mapError endpoint.unreachable

/-- What comes next from a device. -/
inductive Arrival
  | bytes (bytes : ByteArray)
  | ended
  | late
  | interrupted

/-- Waits for what comes next. -/
def await (client : TCP.Socket.Client) (stop : Signal.Waiter) (limit : Option Span) :
    Async Arrival := do
  let heard := Selectable.case (client.recvSelector 65536) fun
    | some bytes => return Arrival.bytes bytes
    | none => return Arrival.ended
  let stopped := Selectable.case stop.selector fun _ => return Arrival.interrupted
  match limit with
  | none => Selectable.one #[heard, stopped]
  | some span =>
    let timer ← Selector.sleep (pause span)
    Selectable.one #[heard, stopped, Selectable.case timer fun _ => return Arrival.late]

/-- Gathers what a device sends, on top of what it has sent so far, the latest first, until that is
enough or nothing more will come. The first wait may be bounded. -/
partial def gather (client : TCP.Socket.Client) (stop : Signal.Waiter)
    (enough : List Feed.Item → Bool) (limit : Option Span) (sofar : List Feed.Item) :
    IO (List Feed.Item) := do
  if enough sofar.reverse then return sofar
  match ← attempt (await client stop limit).block with
  | .error fault => return .fault fault :: sofar
  | .ok .ended => return sofar
  | .ok .interrupted => return .cancel :: sofar
  | .ok .late => gather client stop enough none (.fault Link.late :: sofar)
  | .ok (.bytes bytes) => gather client stop enough none (.data bytes.data.toList :: sofar)

/-! ## Commands -/

/-- Connects to what a command reads from. Nothing is reached for a command that cannot be set
up. -/
def reach (command : Command) : IO (Except LinkError (TCP.Socket.Client × Setup)) := do
  match command.target? with
  | none => return .error (.unsupported "")
  | some target =>
    match target.setup with
    | .error _ => return .error (.unsupported target.endpoint.text)
    | .ok setup =>
      let client ← connect target.endpoint setup.connectLimit
      return client.map fun client => (client, setup)

/-- Creates the file that a command writes, if it writes one itself. -/
def createOutput : Command → IO (Except Fault (Option IO.FS.Handle))
  | .record _ output => attempt (some <$> IO.FS.Handle.mk output .write)
  | _ => return .ok none

/-- Shows what a command came to. -/
def deliver (invocation : Invocation) (file : Option IO.FS.Handle)
    (performance : Command.Performance) : IO Unit := do
  if let (some handle, some (.file bytes)) := (file, performance.product) then
    handle.write ⟨bytes.toArray⟩
  let output ← IO.getStdout
  output.write ⟨performance.printed.toArray⟩
  output.flush
  for line in Notice.lines performance.notices invocation.noticeForm invocation.noticeLevel do
    IO.eprintln line
  if let .error complaint := performance.result then IO.eprintln s!"error: {complaint.message}"

/-- Performs a command over a connection. -/
def performOver (invocation : Invocation) (bare : Command.Surroundings)
    (client : TCP.Socket.Client) (setup : Setup) : IO Command.Performance := do
  let started ← IO.monoMsNow
  let handle ← createOutput invocation.command
  let file := handle.map fun _ => ({} : Drain)
  let stop ← Signal.Waiter.mk .sigint false
  let enough (script : List Feed.Item) := invocation.hasEnough { bare with file } { script }
  let limit := if setup.handshake.expectProbe then some setup.handshake.probeLimit else none
  let script := (← gather client stop enough limit []).reverse
  let elapsed := Span.ofMillis ((← IO.monoMsNow) - started)
  let channel := .ok { script }
  let performance := invocation.perform {} { bare with channel, file, elapsed }
  deliver invocation handle.toOption.join performance
  return performance

/-- Does what the program is called to do. -/
def perform (invocation : Invocation) : IO Command.Performance := do
  let bare : Command.Surroundings := {
    channel := .error (.unsupported "")
    start := fun _ => .error (Fault.ofKind .unsupported)
    terminal := ← (← IO.getStdout).isTty }
  match ← reach invocation.command with
  | .ok (client, setup) => performOver invocation bare client setup
  | .error error =>
    let performance := invocation.perform {} { bare with channel := .error error }
    deliver invocation none performance
    return performance

end Screencast.Machine

/-- Runs the program. The remuxer can be named by the environment. -/
def main (args : List String) : IO UInt32 := do
  let remuxer := (← IO.getEnv "MIRRORWIRE_FFMPEG").getD "ffmpeg"
  match Screencast.CommandLine.parse remuxer args with
  | .error problem => return problem.code.toUInt32
  | .ok invocation => return (← Screencast.Machine.perform invocation).code.toUInt32
