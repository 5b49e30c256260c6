/-
Endpoints: where a device can be reached.

A device's stream is forwarded to a TCP port or to a Unix domain socket. The
text of an endpoint is `unix:PATH`, `tcp:HOST:PORT`, `HOST:PORT` or a bare
`PORT` of this machine; white space around it does not count. A host that
holds colons is written in brackets, which are not part of it.
-/
import Screencast.LinkError
import Screencast.Text.Affix
import Screencast.Text.Blank
import Screencast.Text.Numeral

namespace Screencast

/-- Where a device can be reached. -/
inductive Endpoint
  | tcp (host : String) (port : UInt16)
  | unix (path : String)
  deriving DecidableEq, Repr

namespace Endpoint

/-- The host that is meant by a bare port. -/
def loopback : String := "127.0.0.1"

/-- The port that devices are usually forwarded to. -/
def usualPort : UInt16 := 27183

/-- A port of this machine. -/
def onLoopback (port : UInt16) : Endpoint := tcp loopback port

/-- The usual port of this machine. -/
def usual : Endpoint := .onLoopback usualPort

/-- The kind of transport at an endpoint. -/
def transport : Endpoint → String
  | tcp _ _ => "tcp"
  | unix _ => "unix-domain-socket"

/-- An endpoint as it is shown. -/
def text : Endpoint → String
  | tcp host port => if host.contains ':' then s!"tcp:[{host}]:{port}" else s!"tcp:{host}:{port}"
  | unix path => s!"unix:{path}"

/-! ## Reading -/

/-- A port number. -/
def port? (digits : List Char) : Option UInt16 :=
  (Numeral.parse? Numeral.max16 digits).map UInt16.ofNat

/-- A host without the brackets around it. -/
def unbracket (host : List Char) : List Char := Affix.dropEnd ']' (Affix.dropStart '[' host)

/-- The TCP endpoint that an address names, or why it names none. -/
def parseAddress (address : List Char) : Except String Endpoint :=
  -- A bare port has no host before it.
  match port? address with
  | some port => .ok (.onLoopback port)
  | none =>
    match Affix.splitLast? ':' address with
    | none => .error "expected HOST:PORT"
    | some (host, digits) =>
      match port? digits with
      | none => .error "port is not a number in 0-65535"
      | some port =>
        let host := unbracket host
        if host.isEmpty then .error "missing host" else .ok (.tcp (String.ofList host) port)

/-- The endpoint that a text without white space around it names, or why it names none. -/
def parseTrimmed (trimmed : List Char) : Except String Endpoint :=
  if trimmed.isEmpty then .error "empty endpoint"
  else
    match Affix.after? "unix:".toList trimmed with
    | some [] => .error "missing socket path"
    | some path => .ok (.unix (String.ofList path))
    | none => parseAddress ((Affix.after? "tcp:".toList trimmed).getD trimmed)

/-- The endpoint that a text names. -/
def parse (input : String) : Except LinkError Endpoint :=
  (parseTrimmed (Blank.trim input.toList)).mapError (.invalidEndpoint input)

end Endpoint

end Screencast
