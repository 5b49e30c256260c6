/-
Sessions over an endpoint.

A session can be opened once the endpoint has been reached; that it was
reached is reported, and a session that cannot be opened fails with what kept
it from there.
-/
import Screencast.Endpoint
import Screencast.Session
import Screencast.Session.Paced

namespace Screencast

/-- What is reported when an endpoint has been reached. -/
def Endpoint.reached (endpoint : Endpoint) : Notice :=
  match endpoint with
  | .unix _ => .unixConnected endpoint.text
  | .tcp _ _ => .tcpConnected endpoint.text

/-- What is reported when an endpoint has been reached for a paced session. -/
def Endpoint.reachedPaced (endpoint : Endpoint) : Notice :=
  match endpoint with
  | .unix _ => .unixConnectedPaced endpoint.text
  | .tcp _ _ => .tcpConnectedPaced endpoint.text

/-- An endpoint cannot be reached. -/
def Endpoint.unreachable (endpoint : Endpoint) (fault : Fault) : LinkError :=
  .connect endpoint.text fault

namespace Session

/-- Opens a session over an endpoint, given what trying to reach it came to. -/
def connect (endpoint : Endpoint) (channel : Except LinkError Feed) (settings : Handshake.Settings)
    (limit : Nat) : Except Failure Session :=
  match channel with
  | .error error => .error (.link error)
  | .ok feed =>
    .ok (start ((feed.note endpoint.reached).note (.linked endpoint.text)) settings limit)

/-- Opens a paced session over an endpoint, and makes its handshake. -/
def Paced.connect (endpoint : Endpoint) (channel : Except LinkError Feed)
    (settings : Handshake.Settings) (limit : Nat) :
    Except Failure Session.Paced × Option Feed.Paced :=
  match channel with
  | .error error => (.error (.link error), none)
  | .ok feed =>
    let linked := (feed.note endpoint.reachedPaced).note (.linked endpoint.text)
    let (result, channel) := start { feed := linked } settings limit
    (result, some channel)

end Session

end Screencast
