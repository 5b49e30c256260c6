/-
The handshake: what is read before the first frame.

Where the transport carries a probe byte, it comes first. It is waited for
only so long, and whether it comes or not the handshake goes on: with the
wait unbounded again, it reads the device name and the picture block in turn.
If the stream ends inside one of these, the handshake fails at that step, and
it is not made again.
-/
import Screencast.Feed.Bound
import Screencast.Feed.Gather
import Screencast.Probe

namespace Screencast

namespace Handshake

/-- How a handshake is made. -/
structure Settings where
  /-- The transport carries a probe byte. -/
  expectProbe : Bool := true
  /-- How long the probe byte is waited for. -/
  probeLimit : Span := .ofSeconds 2
  deriving DecidableEq, Repr

/-- The shortest wait that a channel can be asked for. -/
def shortestWait : Span := .ofMillis 1

/-- How long the probe byte is really waited for. -/
def Settings.wait (settings : Settings) : Span := settings.probeLimit.max shortestWait

/-- What a handshake learns. -/
structure Outcome where
  announcement : Announcement
  probe : Probe
  deriving DecidableEq, Repr

/-! ## The probe byte -/

/-- Asks for a bounded wait, and says whether it was granted. Without it the handshake goes on. -/
def boundWait (limit : Span) (feed : Feed) : Bool × Feed :=
  match feed.bound (some limit) with
  | (.ok (), feed) => (true, feed)
  | (.error fault, feed) =>
    let notice : Notice :=
      if fault.kind = .unsupported then .probeUnbounded else .probeLimitRefused fault
    (false, feed.note notice)

/-- Reads the probe byte. An interrupted read is made again; any other that gives nothing ends the
attempt. -/
def readProbe (limit : Span) (feed : Feed) : Probe × Feed :=
  match _hread : feed.read 1 with
  | (.nothing, feed') => (.notReceived, feed'.note .probeEnded)
  | (.bytes bytes, feed') =>
    let value := bytes.headD 0
    (.received value, feed'.note (.probeReceived value))
  | (.fault fault, feed') =>
    if fault.isInterrupted then readProbe limit feed'
    else if fault.isTimeout then (.notReceived, feed'.note (.probeLate limit))
    else (.notReceived, feed'.note (.probeFailed fault))
termination_by feed.weight
decreasing_by
  have hlt := @Feed.weight_read_lt feed 1 (by decide) (by rw [_hread]; simp)
  rwa [_hread] at hlt

/-- Waits for the probe byte. The wait is unbounded again before anything else is read. -/
def awaitProbe (limit : Span) (feed : Feed) : Except Failure Probe × Feed :=
  let (bounded, feed) := boundWait limit feed
  let (probe, feed) := readProbe limit feed
  if bounded then
    -- A bound that cannot be lifted would cut every later read short.
    match feed.bound none with
    | (.ok (), feed) => (.ok probe, feed)
    | (.error fault, feed) => (.error (.io fault), feed)
  else
    (.ok probe, feed)

/-- The first step: the probe byte, where one is expected. -/
def probeStep (settings : Settings) (feed : Feed) : Except Failure Probe × Feed :=
  if settings.expectProbe then awaitProbe settings.wait feed else (.ok .skipped, feed)

/-! ## The announcement -/

/-- Reads the device name. -/
def readName (feed : Feed) : Except Failure String × Feed :=
  match feed.gather DeviceName.width with
  | (.error e, feed) => (.error (.ofHandshake .deviceName e), feed)
  | (.ok field, feed) =>
    match DeviceName.decode field with
    | .error e => (.error (.ofWire e), feed)
    | .ok name => (.ok name, feed.note (.deviceNamed name))

/-- Reads the picture block of a device of the given name. -/
def readPicture (device : String) (feed : Feed) : Except Failure Announcement × Feed :=
  match feed.gather Picture.wireSize with
  | (.error e, feed) => (.error (.ofHandshake .codecMeta e), feed)
  | (.ok block, feed) =>
    match Picture.decode block with
    | .error e => (.error (.ofWire e), feed)
    | .ok picture => (.ok ⟨device, picture⟩, feed.note (.handshakeDone ⟨device, picture⟩))

/-- Reads the announcement. -/
def readAnnouncement (feed : Feed) : Except Failure Announcement × Feed :=
  match readName feed with
  | (.error e, feed) => (.error e, feed)
  | (.ok device, feed) => readPicture device feed

/-- Makes the handshake. -/
def perform (settings : Settings) (feed : Feed) : Except Failure Outcome × Feed :=
  match probeStep settings feed with
  | (.error e, feed) => (.error e, feed)
  | (.ok probe, feed) =>
    match readAnnouncement feed with
    | (.error e, feed) => (.error e, feed)
    | (.ok announcement, feed) => (.ok ⟨announcement, probe⟩, feed)

/-! ## Progress -/

theorem weight_boundWait (limit : Span) (feed : Feed) :
    (boundWait limit feed).2.weight = feed.weight := by
  have := feed.weight_bound (some limit)
  unfold boundWait
  split <;> simp_all

theorem weight_readProbe_le (limit : Span) (feed : Feed) :
    (readProbe limit feed).2.weight ≤ feed.weight := by
  fun_induction readProbe limit feed with
  | case1 feed feed' h =>
    have := feed.weight_read_le 1
    simpa [h] using this
  | case2 feed bytes feed' h =>
    have := feed.weight_read_le 1
    simpa [h] using this
  | case3 feed fault feed' h _ ih =>
    have := feed.weight_read_le 1
    rw [h] at this
    exact Nat.le_trans ih this
  | case4 feed fault feed' h =>
    have := feed.weight_read_le 1
    simpa [h] using this
  | case5 feed fault feed' h =>
    have := feed.weight_read_le 1
    simpa [h] using this

theorem weight_awaitProbe_le (limit : Span) (feed : Feed) :
    (awaitProbe limit feed).2.weight ≤ feed.weight := by
  have hbound := weight_boundWait limit feed
  have hread := weight_readProbe_le limit (boundWait limit feed).2
  have hclear := (readProbe limit (boundWait limit feed).2).2.weight_bound none
  unfold awaitProbe
  dsimp only
  split
  · split <;> simp_all
  · simp_all

theorem weight_probeStep_le (settings : Settings) (feed : Feed) :
    (probeStep settings feed).2.weight ≤ feed.weight := by
  unfold probeStep
  split
  · exact weight_awaitProbe_le ..
  · exact Nat.le_refl _

theorem weight_readName_le (feed : Feed) : (readName feed).2.weight ≤ feed.weight := by
  have := feed.weight_gather_le DeviceName.width
  unfold readName
  split
  · simp_all
  · split <;> simp_all

theorem weight_readPicture_le (device : String) (feed : Feed) :
    (readPicture device feed).2.weight ≤ feed.weight := by
  have := feed.weight_gather_le Picture.wireSize
  unfold readPicture
  split
  · simp_all
  · split <;> simp_all

theorem weight_readAnnouncement_le (feed : Feed) :
    (readAnnouncement feed).2.weight ≤ feed.weight := by
  have hname := weight_readName_le feed
  unfold readAnnouncement
  split
  · simp_all
  · next device rest h =>
    rw [h] at hname
    exact Nat.le_trans (weight_readPicture_le device rest) hname

/-- A handshake only uses up what the feed has to say. -/
theorem weight_perform_le (settings : Settings) (feed : Feed) :
    (perform settings feed).2.weight ≤ feed.weight := by
  have hprobe := weight_probeStep_le settings feed
  unfold perform
  split
  · simp_all
  · next probe rest h =>
    rw [h] at hprobe
    have hann := weight_readAnnouncement_le rest
    split <;> simp_all <;> omega

end Handshake

end Screencast
