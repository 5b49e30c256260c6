/-
The handshake over a feed that is read as time passes.

The channel need not be asked to bound its waits here: the read of the probe
byte is itself abandoned when its time is over. It is made only once, whatever
it finds. The device name and the picture block are waited for without end.
-/
import Screencast.Feed.Paced
import Screencast.Handshake

namespace Screencast.Handshake

/-- Waits for the probe byte. -/
def awaitProbePaced (limit : Span) (paced : Feed.Paced) : Probe × Feed.Paced :=
  match paced.readBy (some (paced.now + limit.millisUp)) 1 with
  | (some .nothing, paced) => (.notReceived, paced)
  | (some (.bytes bytes), paced) =>
    let value := bytes.headD 0
    (.received value, paced.note (.probeReceived value))
  | (some (.fault fault), paced) => (.notReceived, paced.note (.probeFailed fault))
  | (none, paced) => (.notReceived, paced.note (.probeLate limit))

/-- The first step: the probe byte, where one is expected. -/
def probeStepPaced (settings : Settings) (paced : Feed.Paced) : Probe × Feed.Paced :=
  if settings.expectProbe then awaitProbePaced settings.wait paced else (.skipped, paced)

/-- Reads the device name. -/
def readNamePaced (paced : Feed.Paced) : Except Failure String × Feed.Paced :=
  match paced.gather DeviceName.width with
  | (.error e, paced) => (.error (.ofHandshake .deviceName e), paced)
  | (.ok field, paced) => ((DeviceName.decode field).mapError .ofWire, paced)

/-- Reads the picture block. -/
def readPicturePaced (paced : Feed.Paced) : Except Failure Picture × Feed.Paced :=
  match paced.gather Picture.wireSize with
  | (.error e, paced) => (.error (.ofHandshake .codecMeta e), paced)
  | (.ok block, paced) => ((Picture.decode block).mapError .ofWire, paced)

/-- Makes the handshake. -/
def performPaced (settings : Settings) (paced : Feed.Paced) :
    Except Failure Outcome × Feed.Paced :=
  let (probe, paced) := probeStepPaced settings paced
  match readNamePaced paced with
  | (.error failure, paced) => (.error failure, paced)
  | (.ok device, paced) =>
    match readPicturePaced paced with
    | (.error failure, paced) => (.error failure, paced)
    | (.ok picture, paced) =>
      let announcement : Announcement := ⟨device, picture⟩
      (.ok ⟨announcement, probe⟩, paced.note (.handshakeDone announcement))

end Screencast.Handshake
