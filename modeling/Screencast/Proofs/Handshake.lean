/-
The handshake, as a function of what a feed says.

`Signal.probe` and `Signal.announcement` read the probe byte and the
announcement off signals. A handshake over a channel that lifts the bounds it
grants finds just that (`perform_finds`), and over one that does not it fails
(`perform_of_unlifted`). On an announcement that was sent it finds the picture,
and the name as the name field holds it (`announcement_encode_append`).
-/
import Screencast.Handshake
import Screencast.Proofs.Feed.Gather

namespace Screencast

namespace Feed

/-- Lifting a bound succeeds where setting it did. -/
def Waits.lifts : Waits → Bool
  | .answers (none :: some _ :: _) => false
  | .answers _ | .unsupported => true

theorem Waits.eq_of_lifts_eq_false {waits : Waits} (h : waits.lifts = false) :
    ∃ fault later, waits = .answers (none :: some fault :: later) := by
  unfold lifts at h
  split at h
  · next fault later => exact ⟨fault, later, rfl⟩
  · cases h
  · cases h

namespace Signal

/-! ## The handshake on signals -/

/-- Reads the probe byte off signals. -/
def probe : List Signal → Probe × List Signal
  | [] => (.notReceived, [])
  | .byte value :: rest => (.received value, rest)
  | .gap :: rest | .fault _ :: rest => (.notReceived, rest)

/-- Reads the device name off signals. -/
def name (signals : List Signal) : Except Failure String × List Signal :=
  match gather DeviceName.width signals with
  | (.error e, rest) => (.error (.ofHandshake .deviceName e), rest)
  | (.ok field, rest) => ((DeviceName.decode field).mapError .ofWire, rest)

/-- Reads the picture block off signals. -/
def picture (signals : List Signal) : Except Failure Picture × List Signal :=
  match gather Picture.wireSize signals with
  | (.error e, rest) => (.error (.ofHandshake .codecMeta e), rest)
  | (.ok block, rest) => ((Picture.decode block).mapError .ofWire, rest)

/-- Reads the announcement off signals. -/
def announcement (signals : List Signal) : Except Failure Announcement × List Signal :=
  match name signals with
  | (.error failure, rest) => (.error failure, rest)
  | (.ok device, rest) =>
    match picture rest with
    | (.error failure, rest) => (.error failure, rest)
    | (.ok picture, rest) => (.ok ⟨device, picture⟩, rest)

/-- The first step on signals: the probe byte, where one is expected. -/
def probeStep (expectProbe : Bool) (signals : List Signal) : Probe × List Signal :=
  if expectProbe then probe signals else (.skipped, signals)

/-- Makes the handshake on signals, with or without a probe byte. -/
def handshake (expectProbe : Bool) (signals : List Signal) :
    Except Failure Handshake.Outcome × List Signal :=
  let (probe, rest) := probeStep expectProbe signals
  match announcement rest with
  | (.error failure, rest) => (.error failure, rest)
  | (.ok announcement, rest) => (.ok ⟨announcement, probe⟩, rest)

/-- What one read with room for a byte means for the probe byte, unless it is interrupted. -/
theorem probe_served {before after : List Signal} {outcome : Outcome}
    (h : Served 1 before outcome after) :
    probe before =
      match outcome with
      | .nothing => (.notReceived, after)
      | .bytes bytes => (.received (bytes.headD 0), after)
      | .fault cause => if cause.isInterrupted then probe after else (.notReceived, after) := by
  cases h with
  | @bytes bytes _ hne hle =>
    cases bytes with
    | nil => exact absurd rfl hne
    | cons value more =>
      obtain rfl : more = [] := List.length_eq_zero_iff.mp (by simpa using hle)
      rfl
  | gap => rfl
  | done => rfl
  | fault hfault => simp [probe, hfault]
  | interrupted hfault => simp [hfault]

end Signal

/-! ## Bounded waits -/

theorem bound_sequel (feed : Feed) (limit : Option Span) : Sequel feed (feed.bound limit).2 := by
  have hwait (waits : Waits) (accepted : Bool) :
      Sequel feed ({ feed with waits }.record (.wait limit accepted)) :=
    ⟨(Sequel.record feed rfl rfl).total, (Sequel.record feed rfl rfl).closes, id, id⟩
  unfold bound
  split
  · exact .record feed rfl rfl
  · exact hwait _ _
  · exact hwait _ _
  · exact .record feed rfl rfl

theorem read_waits (feed : Feed) (wanted : Nat) : (feed.read wanted).2.waits = feed.waits := by
  rw [read_snd]
  split
  · exact waits_cancel _
  · rfl

/-- A channel that lifts its bounds does so after it has granted one. -/
theorem bound_none_of_lifts {feed : Feed} (h : feed.waits.lifts) {limit : Span}
    (hgranted : (feed.bound (some limit)).1 = .ok ()) {later : Feed}
    (hwaits : later.waits = (feed.bound (some limit)).2.waits) : (later.bound none).1 = .ok () := by
  unfold bound at hgranted hwaits
  split at hgranted
  · cases hgranted
  · cases hgranted
  · next rest heq =>
    rw [heq] at h hwaits
    cases rest with
    | nil => simp [bound, hwaits, record]
    | cons answer rest =>
      cases answer with
      | none => simp [bound, hwaits, record]
      | some fault => cases h
  · next heq =>
    rw [heq] at hwaits
    simp [bound, hwaits, record, heq]

end Feed

namespace Handshake

open Feed

/-! ## The probe byte -/

theorem boundWait_spec (limit : Span) (feed : Feed) :
    Sequel feed (boundWait limit feed).2 ∧ (boundWait limit feed).2.signals = feed.signals ∧
      (boundWait limit feed).2.waits = (feed.bound (some limit)).2.waits ∧
      ((boundWait limit feed).1 = true → (feed.bound (some limit)).1 = .ok ()) := by
  have hsequel := feed.bound_sequel (some limit)
  have hsignals := feed.signals_bound (some limit)
  unfold boundWait
  generalize feed.bound (some limit) = run at hsequel hsignals ⊢
  obtain ⟨granted, feed'⟩ := run
  cases granted with
  | ok => exact ⟨hsequel, hsignals, rfl, fun _ => rfl⟩
  | error fault => exact ⟨hsequel.trans (.note _ _), hsignals, rfl, nofun⟩

theorem readProbe_finds (limit : Span) (feed : Feed) :
    Finds feed (readProbe limit feed) (Signal.probe feed.signals) := by
  fun_induction readProbe limit feed with
  | case1 feed feed' hread =>
    obtain ⟨hserved, hsequel⟩ := served_of_read Nat.one_pos hread
    rw [Signal.probe_served hserved]
    exact ⟨rfl, rfl, hsequel.trans (.note _ _)⟩
  | case2 feed bytes feed' hread =>
    obtain ⟨hserved, hsequel⟩ := served_of_read Nat.one_pos hread
    rw [Signal.probe_served hserved]
    exact ⟨rfl, rfl, hsequel.trans (.note _ _)⟩
  | case3 feed fault feed' hread hfault ih =>
    obtain ⟨hserved, hsequel⟩ := served_of_read Nat.one_pos hread
    rw [Signal.probe_served hserved]
    simp only [hfault, if_true]
    exact ih.after hsequel
  | case4 feed fault feed' hread hfault =>
    obtain ⟨hserved, hsequel⟩ := served_of_read Nat.one_pos hread
    rw [Signal.probe_served hserved]
    simp only [hfault]
    exact ⟨rfl, rfl, hsequel.trans (.note _ _)⟩
  | case5 feed fault feed' hread hfault =>
    obtain ⟨hserved, hsequel⟩ := served_of_read Nat.one_pos hread
    rw [Signal.probe_served hserved]
    simp only [hfault]
    exact ⟨rfl, rfl, hsequel.trans (.note _ _)⟩

theorem readProbe_waits (limit : Span) (feed : Feed) :
    (readProbe limit feed).2.waits = feed.waits := by
  fun_induction readProbe limit feed with
  | case1 feed feed' hread | case2 feed bytes feed' hread | case4 feed fault feed' hread
  | case5 feed fault feed' hread =>
    have hwaits := feed.read_waits 1
    rwa [hread] at hwaits
  | case3 feed fault feed' hread hfault ih =>
    have hwaits := feed.read_waits 1
    rw [hread] at hwaits
    exact ih.trans hwaits

theorem awaitProbe_sequel (limit : Span) (feed : Feed) : Sequel feed (awaitProbe limit feed).2 := by
  obtain ⟨hbound, -⟩ := boundWait_spec limit feed
  have hread := hbound.trans (readProbe_finds limit (boundWait limit feed).2).sequel
  have hlift := hread.trans (bound_sequel _ none)
  unfold awaitProbe
  dsimp only
  split
  · split
    · next heq => rwa [heq] at hlift
    · next heq => rwa [heq] at hlift
  · exact hread

theorem awaitProbe_finds (limit : Span) {feed : Feed} (h : feed.waits.lifts) :
    Finds feed (awaitProbe limit feed)
      ((.ok (Signal.probe feed.signals).1, (Signal.probe feed.signals).2)) := by
  obtain ⟨-, hsignals, hwaits, hgranted⟩ := boundWait_spec limit feed
  have hprobe := readProbe_finds limit (boundWait limit feed).2
  have hlater := (readProbe_waits limit (boundWait limit feed).2).trans hwaits
  have hsequel := awaitProbe_sequel limit feed
  rw [hsignals] at hprobe
  rw [hprobe.eq_found]
  unfold awaitProbe at hsequel ⊢
  dsimp only at hsequel ⊢
  split
  · next hbounded =>
    -- The bound was granted, and the read in between does not change how the channel answers.
    have hlifted := bound_none_of_lifts h (hgranted hbounded) hlater
    have hsame := signals_bound (readProbe limit (boundWait limit feed).2).2 none
    rw [if_pos hbounded] at hsequel
    generalize (readProbe limit (boundWait limit feed).2).2.bound none = lift at *
    obtain ⟨answer, last⟩ := lift
    dsimp only at hlifted
    subst hlifted
    exact ⟨rfl, hsame, hsequel⟩
  · next hbounded =>
    rw [if_neg hbounded] at hsequel
    exact ⟨rfl, rfl, hsequel⟩

/-! ## The announcement -/

theorem readName_finds (feed : Feed) : Finds feed (readName feed) (Signal.name feed.signals) := by
  have hfield := feed.gather_finds DeviceName.width
  unfold readName Signal.name
  rw [hfield.eq_found]
  generalize feed.gather DeviceName.width = run at hfield ⊢
  obtain ⟨field, feed'⟩ := run
  cases field with
  | error e => exact ⟨rfl, rfl, hfield.sequel⟩
  | ok field =>
    dsimp only
    cases DeviceName.decode field with
    | error e => exact ⟨rfl, rfl, hfield.sequel⟩
    | ok name => exact ⟨rfl, rfl, hfield.sequel.trans (.note _ _)⟩

theorem readPicture_finds (device : String) (feed : Feed) :
    Finds feed (readPicture device feed)
      ((Signal.picture feed.signals).1.map (⟨device, ·⟩), (Signal.picture feed.signals).2) := by
  have hblock := feed.gather_finds Picture.wireSize
  unfold readPicture Signal.picture
  rw [hblock.eq_found]
  generalize feed.gather Picture.wireSize = run at hblock ⊢
  obtain ⟨block, feed'⟩ := run
  cases block with
  | error e => exact ⟨rfl, rfl, hblock.sequel⟩
  | ok block =>
    dsimp only
    cases Picture.decode block with
    | error e => exact ⟨rfl, rfl, hblock.sequel⟩
    | ok picture => exact ⟨rfl, rfl, hblock.sequel.trans (.note _ _)⟩

theorem readAnnouncement_finds (feed : Feed) :
    Finds feed (readAnnouncement feed) (Signal.announcement feed.signals) := by
  have hname := readName_finds feed
  unfold readAnnouncement Signal.announcement
  rw [hname.eq_found]
  generalize readName feed = run at hname ⊢
  obtain ⟨device, feed'⟩ := run
  cases device with
  | error failure => exact ⟨rfl, rfl, hname.sequel⟩
  | ok device =>
    have hpicture := (readPicture_finds device feed').after hname.sequel
    dsimp only
    rcases hsignals : Signal.picture feed'.signals with ⟨failure | picture, rest⟩
    · rwa [hsignals] at hpicture
    · rwa [hsignals] at hpicture

/-! ## The handshake -/

theorem probeStep_finds (settings : Settings) {feed : Feed}
    (h : settings.expectProbe = true → feed.waits.lifts = true) :
    Finds feed (probeStep settings feed)
      (.ok (Signal.probeStep settings.expectProbe feed.signals).1,
        (Signal.probeStep settings.expectProbe feed.signals).2) := by
  unfold probeStep Signal.probeStep
  split
  · next hexpect => exact awaitProbe_finds _ (h hexpect)
  · exact ⟨rfl, rfl, .refl feed⟩

theorem probeStep_sequel (settings : Settings) (feed : Feed) :
    Sequel feed (probeStep settings feed).2 := by
  unfold probeStep
  split
  · exact awaitProbe_sequel _ feed
  · exact .refl feed

/-- A handshake leaves a sequel of its feed, also where it fails to lift a bound. -/
theorem perform_sequel (settings : Settings) (feed : Feed) :
    Sequel feed (perform settings feed).2 := by
  have hprobe := probeStep_sequel settings feed
  unfold perform
  split
  · next heq => rwa [heq] at hprobe
  -- The announcement is read only where no bound is left set.
  · next probe feed' heq =>
    rw [heq] at hprobe
    have hannouncement := hprobe.trans (readAnnouncement_finds feed').sequel
    split
    · next heq => rwa [heq] at hannouncement
    · next heq => rwa [heq] at hannouncement

/-- **The handshake over a feed is the handshake on its signals**, where the channel lifts the bound
that it grants. -/
theorem perform_finds {settings : Settings} {feed : Feed}
    (h : settings.expectProbe = true → feed.waits.lifts = true) :
    Finds feed (perform settings feed)
      (Signal.handshake settings.expectProbe feed.signals) := by
  have hprobe := probeStep_finds settings h
  unfold perform Signal.handshake
  generalize Signal.probeStep settings.expectProbe feed.signals = found at hprobe ⊢
  generalize probeStep settings feed = run at hprobe ⊢
  obtain ⟨probe, feed'⟩ := run
  obtain ⟨hresult, hsignals, hsequel⟩ := hprobe
  dsimp only at hresult hsignals hsequel
  subst hresult
  have hannouncement := readAnnouncement_finds feed'
  dsimp only
  rw [← hsignals, hannouncement.eq_found]
  generalize readAnnouncement feed' = run at hannouncement ⊢
  obtain ⟨announcement, feed''⟩ := run
  cases announcement with
  | error failure => exact ⟨rfl, rfl, hsequel.trans hannouncement.sequel⟩
  | ok announcement => exact ⟨rfl, rfl, hsequel.trans hannouncement.sequel⟩

/-- A channel that does not lift the bound that it grants fails the probe step. -/
theorem probeStep_of_unlifted {settings : Settings} (hprobe : settings.expectProbe = true)
    {feed : Feed} {fault : Fault} {later : List (Option Fault)}
    (h : feed.waits = .answers (none :: some fault :: later)) :
    (probeStep settings feed).1 = .error (.io fault) := by
  have hbound : feed.bound (some settings.wait) =
      (.ok (), { feed with waits := .answers (some fault :: later) }.record
        (.wait (some settings.wait) true)) := by
    rw [Feed.bound, h]
  have hbounded : boundWait settings.wait feed = (true, (feed.bound (some settings.wait)).2) := by
    rw [boundWait, hbound]
  have hwaits := readProbe_waits settings.wait (feed.bound (some settings.wait)).2
  have hlift : ((readProbe settings.wait (feed.bound (some settings.wait)).2).2.bound none).1 =
      .error fault := by
    rw [Feed.bound, hwaits, hbound]
    rfl
  rw [probeStep, if_pos hprobe, awaitProbe, hbounded]
  dsimp only
  generalize (readProbe settings.wait (feed.bound (some settings.wait)).2).2.bound none = run
    at hlift ⊢
  obtain ⟨result, feed'⟩ := run
  dsimp only at hlift
  subst hlift
  rfl

/-- After its probe step a handshake is the announcement. -/
theorem perform_of_probeStep_ok {settings : Settings} {feed probed : Feed} {probe : Probe}
    (h : probeStep settings feed = (.ok probe, probed)) :
    perform settings feed =
      ((readAnnouncement probed).1.map fun told => ⟨told, probe⟩, (readAnnouncement probed).2) := by
  unfold perform
  rw [h]
  dsimp only
  rcases readAnnouncement probed with ⟨failure | told, last⟩ <;> rfl

/-- A handshake ends where its probe step fails. -/
theorem perform_of_probeStep_error {settings : Settings} {feed last : Feed} {failure : Failure}
    (h : probeStep settings feed = (.error failure, last)) :
    perform settings feed = (.error failure, last) := by
  unfold perform
  rw [h]

/-- A channel that does not lift the bound that it grants fails the handshake. -/
theorem perform_of_unlifted {settings : Settings} (hprobe : settings.expectProbe = true)
    {feed : Feed} {fault : Fault} {later : List (Option Fault)}
    (h : feed.waits = .answers (none :: some fault :: later)) :
    (perform settings feed).1 = .error (.io fault) := by
  have hstep := probeStep_of_unlifted hprobe h
  rcases hrun : probeStep settings feed with ⟨result, last⟩
  rw [hrun] at hstep
  dsimp only at hstep
  subst hstep
  rw [perform_of_probeStep_error hrun]

end Handshake

/-! ## An announcement that was sent -/

theorem Picture.decode_encode (picture : Picture) : decode picture.encode = .ok picture := by
  have hcodec : picture.encode.take 4 = Bytes.ofNat 4 picture.codec.id.toNat := by
    rw [encode, List.append_assoc, List.take_left' (Bytes.length_ofNat ..)]
  have hrest : picture.encode.drop 4 =
      Bytes.ofNat 4 picture.width.toNat ++ Bytes.ofNat 4 picture.height.toNat := by
    rw [encode, List.append_assoc, List.drop_left' (Bytes.length_ofNat ..)]
  have hwidth : (picture.encode.drop 4).take 4 = Bytes.ofNat 4 picture.width.toNat := by
    rw [hrest, List.take_left' (Bytes.length_ofNat ..)]
  have hheight : picture.encode.drop 8 = Bytes.ofNat 4 picture.height.toNat := by
    rw [show picture.encode.drop 8 = (picture.encode.drop 4).drop 4 by rw [List.drop_drop], hrest,
      List.drop_left' (Bytes.length_ofNat ..)]
  have hfield : Bytes.field wireSize picture.encode = .ok picture.encode := by
    rw [Bytes.field_of_le (by simp), List.take_of_length_le (by simp)]
  have hback (value : UInt32) : UInt32.ofNat (Bytes.toNat (Bytes.ofNat 4 value.toNat)) = value := by
    rw [Bytes.toNat_ofNat_of_lt value.toNat_lt, UInt32.ofNat_toNat]
  rw [decode, hfield]
  simp only [bind, Except.bind, pure, Except.pure]
  rw [hcodec, hwidth, hheight, hback, hback, hback]

/-- Every picture block describes a picture. -/
theorem Picture.exists_decode {block : List UInt8} (h : wireSize ≤ block.length) :
    ∃ picture, decode block = .ok picture := by
  rw [decode, Bytes.field_of_le h]
  exact ⟨_, rfl⟩

/-- Every name field has a name. -/
theorem DeviceName.exists_decode {field : List UInt8} (h : width ≤ field.length) :
    ∃ device, decode field = .ok device := by
  rw [decode, Bytes.field_of_le h]
  exact ⟨_, rfl⟩

theorem DeviceName.exists_decode_encode (name : String) :
    ∃ device, decode (encode name) = .ok device :=
  exists_decode (Nat.le_of_eq (length_encode name).symm)

namespace Feed.Signal

/-- A whole name field is read, and what follows it is left. -/
theorem name_append {field : List UInt8} (hlength : field.length = DeviceName.width)
    {device : String} (h : DeviceName.decode field = .ok device) (rest : List Signal) :
    name (field.map .byte ++ rest) = (.ok device, rest) := by
  have hfield := gather_map_byte field rest
  rw [hlength] at hfield
  rw [name, hfield]
  dsimp only
  rw [h]
  rfl

/-- A whole picture block is read, and what follows it is left. -/
theorem picture_append {block : List UInt8} (hlength : block.length = Picture.wireSize)
    {sent : Picture} (h : Picture.decode block = .ok sent) (rest : List Signal) :
    picture (block.map .byte ++ rest) = (.ok sent, rest) := by
  have hblock := gather_map_byte block rest
  rw [hlength] at hblock
  rw [picture, hblock]
  dsimp only
  rw [h]
  rfl

/-- A whole announcement is read, and what follows it is left. -/
theorem announcement_append {field block : List UInt8} (hfield : field.length = DeviceName.width)
    (hblock : block.length = Picture.wireSize) {device : String} {sent : Picture}
    (hdevice : DeviceName.decode field = .ok device) (hsent : Picture.decode block = .ok sent)
    (rest : List Signal) :
    announcement ((field ++ block).map .byte ++ rest) = (.ok ⟨device, sent⟩, rest) := by
  rw [List.map_append, List.append_assoc, announcement, name_append hfield hdevice]
  dsimp only
  rw [picture_append hblock hsent]

/-- The picture of an announcement arrives as it was sent, its name as the field holds it. -/
theorem announcement_encode_append {sent : Announcement} {device : String}
    (h : DeviceName.decode (DeviceName.encode sent.device) = .ok device) (rest : List Signal) :
    announcement (sent.encode.map .byte ++ rest) = (.ok ⟨device, sent.picture⟩, rest) :=
  announcement_append (DeviceName.length_encode _) (Picture.length_encode _) h
    (Picture.decode_encode _) rest

end Feed.Signal

end Screencast
