/-
What a handshake reads, to the byte.

Where a probe byte is expected, one read is made for it, and made again while it
is interrupted (`ReadOnce`). What this read finds decides what becomes of the
byte (`Sampled`), and the rest of the handshake is one without a probe byte
(`perform_probed`). Such a handshake reads the announcement: `announcement_append`
is about a whole one, `announcement_of_short_name`, `announcement_of_short_picture`
and `announcement_of_fault` about one that is cut. Every feed says some bytes
up to an end or to a fault, so these four are all that there is
(`perform_unprobed`).
-/
import Mathlib.Control.Monad.Basic
import Screencast.Proofs.Feed.Gathered
import Screencast.Proofs.Feed.Idle
import Screencast.Proofs.Handshake.Twin

namespace Screencast

namespace Feed

/-! ## Channels that are not read -/

/-- A channel that was not read. It may have been asked for bounded waits, and things may have been
reported. -/
structure Unread (before after : Feed) : Prop where
  twin : Twin before after
  reads : after.history.reads = before.history.reads
  consumed : after.history.consumed = before.history.consumed

namespace Unread

theorem refl (feed : Feed) : Unread feed feed := ⟨.refl feed, rfl, rfl⟩

theorem trans {first second third : Feed} (h : Unread first second) (h' : Unread second third) :
    Unread first third where
  twin := h.twin.trans h'.twin
  reads := h'.reads.trans h.reads
  consumed := h'.consumed.trans h.consumed

theorem note (feed : Feed) (notice : Notice) : Unread feed (feed.note notice) where
  twin := ⟨rfl, rfl, rfl⟩
  reads := (Idle.note feed notice).reads
  consumed := (Idle.note feed notice).consumed

theorem bound (feed : Feed) (limit : Option Span) : Unread feed (feed.bound limit).2 where
  twin := bound_twin feed limit
  reads := by
    unfold Feed.bound
    split <;> rfl
  consumed := by
    unfold Feed.bound
    split <;> simp [record, Happening.taken]

theorem signals {before after : Feed} (h : Unread before after) :
    after.signals = before.signals := h.twin.signals.symm

end Unread

namespace Signal

/-! ## Single reads -/

section

variable {before after : List Signal}

theorem Served.tail_eq {room : Nat} (h : Served room before .nothing after) :
    after = before.tail := by
  cases h <;> rfl

/-- Where there is room for one byte, one byte comes. -/
theorem Served.single {bytes : List UInt8} (h : Served 1 before (.bytes bytes) after) :
    ∃ value, bytes = [value] := by
  cases h with
  | bytes hne hle =>
    have hpos := List.length_pos_iff.mpr hne
    exact List.length_eq_one_iff.mp (by omega)

end

/-! ## Announcements that are cut -/

/-- The stream ends inside the name. -/
theorem announcement_of_short_name {bytes : List UInt8} (h : bytes.length < 64)
    {after : List Signal} (hends : Ends after) :
    announcement (bytes.map .byte ++ after) =
      (.error (.handshake .deviceName 64 bytes.length), after.tail) := by
  have hgather := gather_short (show bytes.length < DeviceName.width from h) hends
  rw [announcement, name, hgather]
  rfl

/-- The stream ends inside the picture block. -/
theorem announcement_of_short_picture {field part : List UInt8} (hfield : field.length = 64)
    (h : part.length < 12) {after : List Signal} (hends : Ends after) :
    announcement ((field ++ part).map .byte ++ after) =
      (.error (.handshake .codecMeta 12 part.length), after.tail) := by
  have hwidth : field.length = DeviceName.width := hfield
  obtain ⟨device, hdevice⟩ := DeviceName.exists_decode (Nat.le_of_eq hwidth.symm)
  have hgather := gather_short (show part.length < Picture.wireSize from h) hends
  rw [List.map_append, List.append_assoc, announcement, name_append hwidth hdevice]
  dsimp only
  rw [picture, hgather]
  rfl

/-- A fault comes inside the announcement. -/
theorem announcement_of_fault {bytes : List UInt8} (h : bytes.length < 76) (cause : Fault)
    (rest : List Signal) :
    announcement (bytes.map .byte ++ .fault cause :: rest) = (.error (.io cause), rest) := by
  by_cases hname : bytes.length < 64
  · have hgather := gather_fault (show bytes.length < DeviceName.width from hname) cause rest
    rw [announcement, name, hgather]
    rfl
  · -- The name is whole, so it is the picture block that the fault comes in.
    have hfield : (bytes.take 64).length = DeviceName.width := by
      rw [List.length_take]
      exact Nat.min_eq_left (Nat.not_lt.mp hname)
    have hpart : (bytes.drop 64).length < Picture.wireSize := by
      show (bytes.drop 64).length < 12
      rw [List.length_drop]
      omega
    obtain ⟨device, hdevice⟩ := DeviceName.exists_decode (Nat.le_of_eq hfield.symm)
    rw [← List.take_append_drop 64 bytes, List.map_append, List.append_assoc, announcement,
      name_append hfield hdevice]
    dsimp only
    rw [picture, gather_fault hpart]
    rfl

end Signal

end Feed

/-- What a picture block says: three numbers of four bytes each, the most significant byte
first. -/
theorem Picture.of_decode {block : List UInt8} (h : block.length = 12) {picture : Picture}
    (hdecode : decode block = .ok picture) :
    picture.codec.id.toNat = Bytes.toNat (block.take 4) ∧
      picture.width.toNat = Bytes.toNat ((block.drop 4).take 4) ∧
      picture.height.toNat = Bytes.toNat (block.drop 8) := by
  have hlength : block.length = wireSize := h
  have hfield : Bytes.field wireSize block = .ok block := by
    rw [Bytes.field_of_le (Nat.le_of_eq hlength.symm),
      List.take_of_length_le (Nat.le_of_eq hlength)]
  have hback {field : List UInt8} (hlength : field.length = 4) :
      (UInt32.ofNat (Bytes.toNat field)).toNat = Bytes.toNat field := by
    have hlt := Bytes.toNat_lt field
    rw [hlength] at hlt
    exact UInt32.toNat_ofNat_of_lt' hlt
  rw [decode, hfield] at hdecode
  cases hdecode
  refine ⟨hback ?_, hback ?_, hback ?_⟩
  · rw [List.length_take, h]
    rfl
  · rw [List.length_take, List.length_drop, h]
    rfl
  · rw [List.length_drop, h]

namespace Handshake

open Feed

/-! ## The probe byte -/

/-- One read with room for a byte that is not interrupted, after any number that are. -/
inductive ReadOnce : Feed → Feed.Outcome → Feed → Prop
  | made {feed last : Feed} {outcome : Feed.Outcome} (hread : feed.read 1 = (outcome, last))
      (hdone : ∀ fault, outcome = .fault fault → fault.isInterrupted = false) :
      ReadOnce feed outcome last
  | again {feed between last : Feed} {fault : Fault} {outcome : Feed.Outcome}
      (hread : feed.read 1 = (.fault fault, between)) (hfault : fault.isInterrupted = true)
      (h : ReadOnce between outcome last) : ReadOnce feed outcome last

/-- What the read for the probe byte took, and what became of the byte. -/
inductive Sampled (before after : Feed) : Feed.Outcome → Probe → Prop
  | byte {value : UInt8} (htook : Took before after [value]) :
      Sampled before after (.bytes [value]) (.received value)
  | nothing (hends : Signal.Ends before.signals) (hsignals : after.signals = before.signals.tail)
      (hconsumed : after.history.consumed = before.history.consumed) :
      Sampled before after .nothing .notReceived
  | fault {fault : Fault} (hfault : fault.isInterrupted = false)
      (hsignals : before.signals = .fault fault :: after.signals)
      (hconsumed : after.history.consumed = before.history.consumed) :
      Sampled before after (.fault fault) .notReceived

/-- What is not read does not matter. -/
theorem Sampled.unread {before after before' after' : Feed} {outcome : Feed.Outcome}
    {probe : Probe} (h : Sampled before after outcome probe) (hbefore : Unread before' before)
    (hafter : Unread after after') : Sampled before' after' outcome probe := by
  have hsignals := hbefore.signals
  have hsignals' := hafter.signals
  have hconsumed := hbefore.consumed
  have hconsumed' := hafter.consumed
  cases h with
  | byte htook =>
    refine .byte ⟨?_, ?_⟩
    · rw [← hsignals, hsignals', htook.signals]
    · rw [hconsumed', htook.consumed, hconsumed]
  | nothing hends hleft hnone =>
    rw [hsignals] at hends hleft
    refine .nothing hends (hsignals'.trans hleft) ?_
    rw [hconsumed', hnone, hconsumed]
  | fault hfault hleft hnone =>
    refine .fault hfault ?_ ?_
    · rw [← hsignals, hsignals', hleft]
    · rw [hconsumed', hnone, hconsumed]

/-- An interrupted read takes nothing. -/
theorem Sampled.after_interruption {feed between last : Feed} {fault : Fault}
    {outcome : Feed.Outcome} {probe : Probe} (hread : feed.read 1 = (.fault fault, between))
    (hfault : fault.isInterrupted = true) (h : Sampled between last outcome probe) :
    Sampled feed last outcome probe := by
  obtain ⟨hserved, hsequel⟩ := served_of_read Nat.one_pos hread
  have hsignals := hserved.of_interrupted hfault
  have hconsumed : between.history.consumed = feed.history.consumed :=
    hsequel.consumed_same (by rw [hsignals])
  cases h with
  | byte htook => exact .byte ⟨hsignals.trans htook.signals, hconsumed ▸ htook.consumed⟩
  | nothing hends hleft hnone =>
    rw [← hsignals] at hends hleft
    exact .nothing hends hleft (hnone.trans hconsumed)
  | fault hfault hleft hnone =>
    exact .fault hfault (hsignals.trans hleft) (hnone.trans hconsumed)

/-- What becomes of the probe byte is what one read finds. -/
theorem readProbe_sampled (limit : Span) (feed : Feed) :
    ∃ outcome found, ReadOnce feed outcome found ∧ Unread found (readProbe limit feed).2 ∧
      Sampled feed found outcome (readProbe limit feed).1 := by
  fun_induction readProbe limit feed with
  | case1 feed found hread =>
    obtain ⟨hserved, hsequel⟩ := served_of_read Nat.one_pos hread
    have hends := hserved.ends
    have hone : ReadOnce feed .nothing found := .made hread fun _ hfault => by cases hfault
    refine ⟨.nothing, found, hone, .note _ _, .nothing hends hserved.tail_eq ?_⟩
    refine hsequel.consumed_same ?_
    rw [hserved.tail_eq]
    exact (Signal.bytes_tail hends).symm
  | case2 feed bytes found hread =>
    obtain ⟨hserved, hsequel⟩ := served_of_read Nat.one_pos hread
    have htook := hsequel.took hserved.bytes_eq
    obtain ⟨value, rfl⟩ := hserved.single
    have hone : ReadOnce feed (.bytes [value]) found := .made hread fun _ hfault => by cases hfault
    exact ⟨.bytes [value], found, hone, .note _ _, .byte htook⟩
  | case3 feed fault between hread hfault ih =>
    obtain ⟨outcome, found, honce, hunread, hsampled⟩ := ih
    exact ⟨outcome, found, .again hread hfault honce, hunread,
      hsampled.after_interruption hread hfault⟩
  | case4 feed fault found hread hfault | case5 feed fault found hread hfault =>
    have hdone : fault.isInterrupted = false := by simpa using hfault
    obtain ⟨hserved, hsequel⟩ := served_of_read Nat.one_pos hread
    have hsignals := hserved.fault_eq hdone
    refine ⟨.fault fault, found, .made hread ?_, .note _ _, .fault hdone hsignals ?_⟩
    · rintro _ ⟨⟩
      exact hdone
    · exact hsequel.consumed_same (by rw [hsignals]; rfl)

theorem boundWait_unread (limit : Span) (feed : Feed) : Unread feed (boundWait limit feed).2 := by
  have hbound := Unread.bound feed (some limit)
  unfold boundWait
  generalize feed.bound (some limit) = run at hbound ⊢
  obtain ⟨granted, feed'⟩ := run
  cases granted with
  | ok => exact hbound
  | error fault => exact hbound.trans (.note _ _)

/-- Lifting the bound reads nothing. -/
theorem awaitProbe_unread (limit : Span) (feed : Feed) :
    Unread (readProbe limit (boundWait limit feed).2).2 (awaitProbe limit feed).2 := by
  have hlift := Unread.bound (readProbe limit (boundWait limit feed).2).2 none
  unfold awaitProbe
  dsimp only
  split
  · split
    · next heq => rwa [heq] at hlift
    · next heq => rwa [heq] at hlift
  · exact .refl _

/-- What a handshake comes to that expects a probe byte. -/
structure Probed (settings : Settings) (feed : Feed) (probe : Probe) (probed : Feed) : Prop where
  step : probeStep settings feed = (.ok probe, probed)
  /-- One read is made for the byte, and again as long as it is interrupted. What it finds decides
  what becomes of the byte, and what is consumed. -/
  read : ∃ asked outcome found, Unread feed asked ∧ ReadOnce asked outcome found ∧
    Unread found probed ∧ Sampled feed probed outcome probe
  /-- What follows is a handshake without a probe byte, on the rest. -/
  rest : perform settings feed =
    let unprobed := perform { settings with expectProbe := false } probed
    (unprobed.1.map fun outcome => { outcome with probe }, unprobed.2)

/-- After the probe step a handshake goes on as if no probe byte had been expected. -/
theorem perform_of_probeStep {settings : Settings} {feed probed : Feed} {probe : Probe}
    (h : probeStep settings feed = (.ok probe, probed)) :
    perform settings feed =
      let unprobed := perform { settings with expectProbe := false } probed
      (unprobed.1.map fun outcome => { outcome with probe }, unprobed.2) := by
  have hskipped :
      probeStep { settings with expectProbe := false } probed = (.ok .skipped, probed) := rfl
  rw [perform_of_probeStep_ok h, perform_of_probeStep_ok hskipped]
  rcases readAnnouncement probed with ⟨failure | told, last⟩ <;> rfl

/-- **The probe byte is one read**, whose outcome never fails the handshake, and nothing of what
follows is lost. -/
theorem perform_probed {settings : Settings} (hprobe : settings.expectProbe = true) {feed : Feed}
    (hlifts : feed.waits.lifts = true) : ∃ probe probed, Probed settings feed probe probed := by
  have hasked := boundWait_unread settings.wait feed
  have hafter := awaitProbe_unread settings.wait feed
  obtain ⟨outcome, found, honce, hread, hsampled⟩ :=
    readProbe_sampled settings.wait (boundWait settings.wait feed).2
  have hstep : (awaitProbe settings.wait feed).1 =
      .ok (readProbe settings.wait (boundWait settings.wait feed).2).1 := by
    have hprobed := (readProbe_finds settings.wait (boundWait settings.wait feed).2).result
    rw [(awaitProbe_finds settings.wait hlifts).result, hprobed, hasked.signals]
  have hprobed : probeStep settings feed =
      (.ok (readProbe settings.wait (boundWait settings.wait feed).2).1,
        (awaitProbe settings.wait feed).2) := by
    rw [probeStep, if_pos hprobe]
    exact Prod.ext hstep rfl
  exact ⟨_, _, hprobed, ⟨_, outcome, found, hasked, honce, hread.trans hafter,
    hsampled.unread hasked (hread.trans hafter)⟩, perform_of_probeStep hprobed⟩

/-! ## The announcement -/

/-- What a handshake without a probe byte comes to over a feed that says some bytes and then finds
its end, or a fault: `run` is its result, and the feed that it leaves. -/
structure Unprobed (feed : Feed) (bytes : List UInt8) (after : List Signal)
    (run : Except Failure Outcome × Feed) : Prop where
  /-- The name is in the first 64 bytes, the picture in the next 12. -/
  whole : 76 ≤ bytes.length → ∃ told : Announcement,
    run.1 = .ok { announcement := told, probe := .skipped } ∧
    DeviceName.decode (bytes.take 64) = .ok told.device ∧
    told.picture.codec.id.toNat = Bytes.toNat ((bytes.drop 64).take 4) ∧
    told.picture.width.toNat = Bytes.toNat ((bytes.drop 68).take 4) ∧
    told.picture.height.toNat = Bytes.toNat ((bytes.drop 72).take 4) ∧
    Took feed run.2 (bytes.take 76)
  /-- The stream ends inside the name. -/
  name : bytes.length < 64 → Signal.Ends after →
    run.1 = .error (.handshake .deviceName 64 bytes.length)
  /-- The stream ends inside the picture block. -/
  picture : 64 ≤ bytes.length → bytes.length < 76 → Signal.Ends after →
    run.1 = .error (.handshake .codecMeta 12 (bytes.length - 64))
  /-- A fault comes first that is no interruption. -/
  fault : bytes.length < 76 → ∀ cause rest, after = .fault cause :: rest →
    run.1 = .error (.io cause) ∧ cause.isInterrupted = false ∧ .fault cause ∈ feed.script
  consumed : run.2.history.consumed = feed.history.consumed + min 76 bytes.length

/-- A handshake without a probe byte is the announcement. -/
theorem perform_announcement {settings : Settings} (hprobe : settings.expectProbe = false)
    {feed : Feed} {result : Except Failure Announcement} {rest : List Signal}
    (h : Signal.announcement feed.signals = (result, rest)) :
    Finds feed (perform settings feed) (result.map fun told => ⟨told, .skipped⟩, rest) := by
  have hfinds := @perform_finds settings feed (by rw [hprobe]; nofun)
  have hskipped : Signal.probeStep false feed.signals = (.skipped, feed.signals) := rfl
  unfold Signal.handshake at hfinds
  rw [hprobe, hskipped] at hfinds
  dsimp only at hfinds
  rw [h] at hfinds
  cases result <;> exact hfinds

section

variable {feed : Feed} {bytes : List UInt8} {after : List Signal}
  {run : Except Failure Outcome × Feed}

/-- What comes before the end or a fault is consumed, and that is all. -/
theorem consumed_of_finds {result : Except Failure Outcome} {rest : List Signal}
    (h : Finds feed run (result, rest)) (hsignals : feed.signals = bytes.map .byte ++ after)
    (hrest : Signal.bytes after = Signal.bytes rest) (hshort : bytes.length < 76) :
    run.2.history.consumed = feed.history.consumed + min 76 bytes.length := by
  rw [Nat.min_eq_right (Nat.le_of_lt hshort)]
  refine h.sequel.consumed_add ?_
  rw [hsignals, h.signals, ← hrest, Signal.bytes_append, Signal.bytes_map_byte]

theorem Unprobed.of_whole (hwhole : 76 ≤ bytes.length) {told : Announcement}
    (hdevice : DeviceName.decode (bytes.take 64) = .ok told.device)
    (hpicture : Picture.decode ((bytes.drop 64).take 12) = .ok told.picture)
    (hresult : run.1 = .ok ⟨told, .skipped⟩) (htook : Took feed run.2 (bytes.take 76)) :
    Unprobed feed bytes after run := by
  have hblock : ((bytes.drop 64).take 12).length = 12 := by
    rw [List.length_take, List.length_drop]
    omega
  obtain ⟨hcodec, hwidth, hheight⟩ := Picture.of_decode hblock hpicture
  refine ⟨fun _ => ⟨told, hresult, hdevice, ?_, ?_, ?_, htook⟩, ?_, ?_, ?_, ?_⟩
  · rw [hcodec, List.take_take]
    rfl
  · rw [hwidth, List.drop_take, List.take_take, List.drop_drop]
    rfl
  · rw [hheight, List.drop_take, List.drop_drop]
  -- The other cases are those of fewer bytes.
  · omega
  · omega
  · omega
  · rw [htook.consumed, List.length_take]

theorem Unprobed.of_ends (hshort : bytes.length < 76) (hends : Signal.Ends after)
    (hname : bytes.length < 64 → run.1 = .error (.handshake .deviceName 64 bytes.length))
    (hpicture : 64 ≤ bytes.length →
      run.1 = .error (.handshake .codecMeta 12 (bytes.length - 64)))
    (hconsumed : run.2.history.consumed = feed.history.consumed + min 76 bytes.length) :
    Unprobed feed bytes after run where
  whole := by omega
  name hlt _ := hname hlt
  picture hle _ _ := hpicture hle
  fault _ cause rest h := by
    subst h
    rcases hends with h | ⟨_, h⟩ <;> cases h
  consumed := hconsumed

theorem Unprobed.of_fault (hshort : bytes.length < 76) {cause : Fault} {rest : List Signal}
    (hsignals : feed.signals = bytes.map .byte ++ .fault cause :: rest)
    (hresult : run.1 = .error (.io cause))
    (hconsumed : run.2.history.consumed = feed.history.consumed + min 76 bytes.length) :
    Unprobed feed bytes (.fault cause :: rest) run := by
  have hnever : ¬ Signal.Ends (.fault cause :: rest) := by
    rintro (h | ⟨_, h⟩) <;> cases h
  have hmem : .fault cause ∈ signalsOf feed.script := by
    show .fault cause ∈ feed.signals
    rw [hsignals]
    exact List.mem_append_right _ List.mem_cons_self
  refine ⟨by omega, fun _ h => absurd h hnever, fun _ _ h => absurd h hnever, ?_, hconsumed⟩
  rintro _ _ _ ⟨⟩
  obtain ⟨hscript, hdone⟩ := fault_mem_signalsOf hmem
  exact ⟨hresult, hdone, hscript⟩

end

section

variable {settings : Settings} {feed : Feed} {bytes : List UInt8} {after : List Signal}

/-- Enough bytes are a name field, a picture block and the rest. -/
theorem perform_whole (hprobe : settings.expectProbe = false)
    (hsignals : feed.signals = bytes.map .byte ++ after) (hwhole : 76 ≤ bytes.length) :
    Unprobed feed bytes after (perform settings feed) := by
  have hfield : (bytes.take 64).length = DeviceName.width := by
    rw [List.length_take]
    exact Nat.min_eq_left (by omega)
  have hblock : ((bytes.drop 64).take 12).length = Picture.wireSize := by
    rw [List.length_take, List.length_drop]
    exact Nat.min_eq_left (by omega)
  have hsplit : feed.signals =
      (bytes.take 64 ++ (bytes.drop 64).take 12).map .byte ++
        ((bytes.drop 76).map .byte ++ after) := by
    rw [hsignals, ← List.take_add, ← List.append_assoc, ← List.map_append,
      List.take_append_drop]
  -- Neither field can be refused: a name is decoded from any bytes, and so is a picture.
  obtain ⟨device, hdevice⟩ := DeviceName.exists_decode (Nat.le_of_eq hfield.symm)
  obtain ⟨picture, hpicture⟩ := Picture.exists_decode (Nat.le_of_eq hblock.symm)
  have hfinds := perform_announcement hprobe
    (hsplit ▸ Signal.announcement_append hfield hblock hdevice hpicture _)
  have htook := hfinds.sequel.took (by rw [hsplit, hfinds.signals])
  rw [← List.take_add] at htook
  exact .of_whole hwhole hdevice hpicture hfinds.result htook

/-- A stream that ends before the announcement does ends inside the name or inside the picture
block. -/
theorem perform_ends (hprobe : settings.expectProbe = false)
    (hsignals : feed.signals = bytes.map .byte ++ after) (hshort : bytes.length < 76)
    (hends : Signal.Ends after) : Unprobed feed bytes after (perform settings feed) := by
  have hrest := (Signal.bytes_tail hends).symm
  by_cases hname : bytes.length < 64
  · have hfinds := perform_announcement hprobe
      (hsignals ▸ Signal.announcement_of_short_name hname hends)
    exact .of_ends hshort hends (fun _ => hfinds.result) (by omega)
      (consumed_of_finds hfinds hsignals hrest hshort)
  · have hfield : (bytes.take 64).length = 64 := by
      rw [List.length_take]
      omega
    have hpart : (bytes.drop 64).length < 12 := by
      rw [List.length_drop]
      omega
    have hannouncement := Signal.announcement_of_short_picture hfield hpart hends
    rw [List.take_append_drop, ← hsignals, List.length_drop] at hannouncement
    have hfinds := perform_announcement hprobe hannouncement
    exact .of_ends hshort hends (fun h => absurd h hname) (fun _ => hfinds.result)
      (consumed_of_finds hfinds hsignals hrest hshort)

/-- **A handshake without a probe byte reads the announcement, and not a byte more.** -/
theorem perform_unprobed (hprobe : settings.expectProbe = false)
    (hsignals : feed.signals = bytes.map .byte ++ after)
    (hafter : Signal.Ends after ∨ ∃ cause rest, after = .fault cause :: rest) :
    Unprobed feed bytes after (perform settings feed) := by
  by_cases hshort : bytes.length < 76
  · rcases hafter with hends | ⟨cause, rest, rfl⟩
    · exact perform_ends hprobe hsignals hshort hends
    · have hfinds := perform_announcement hprobe
        (hsignals ▸ Signal.announcement_of_fault hshort cause rest)
      exact .of_fault hshort hsignals hfinds.result (consumed_of_finds hfinds hsignals rfl hshort)
  · exact perform_whole hprobe hsignals (Nat.not_lt.mp hshort)

end

/-! ## The handshake -/

/-- What a handshake without a probe byte comes to over a feed, according to the bytes that the feed
says first and what it says then. -/
def TakesAnnouncement (feed : Feed) (run : Except Failure Outcome × Feed) : Prop :=
  ∃ bytes after, feed.signals = bytes.map .byte ++ after ∧
    (Signal.Ends after ∨ ∃ cause rest, after = .fault cause :: rest) ∧
    Unprobed feed bytes after run

theorem perform_takesAnnouncement {settings : Settings} (hprobe : settings.expectProbe = false)
    (feed : Feed) : TakesAnnouncement feed (perform settings feed) := by
  obtain ⟨bytes, after, hsignals, hafter⟩ := Signal.exists_bytes feed.signals
  exact ⟨bytes, after, hsignals, hafter, perform_unprobed hprobe hsignals hafter⟩

/-- What a handshake reads off a feed. -/
structure Reads (settings : Settings) (feed : Feed) : Prop where
  /-- With a probe byte: a read for it, and then the announcement, as it is read without one. -/
  probed : settings.expectProbe = true → ∃ probe probed, Probed settings feed probe probed ∧
    TakesAnnouncement probed (perform { settings with expectProbe := false } probed)
  /-- Without one: the announcement, as far as the feed says it. -/
  unprobed : settings.expectProbe = false → TakesAnnouncement feed (perform settings feed)

/-- **What a handshake reads**, whatever its settings and however the feed is cut, interrupted,
ended or broken, as long as bounds on waits that are granted are lifted. -/
theorem perform_reads (settings : Settings) {feed : Feed} (hlifts : feed.waits.lifts = true) :
    Reads settings feed where
  probed hprobe := by
    obtain ⟨probe, probed, h⟩ := perform_probed hprobe hlifts
    exact ⟨probe, probed, h, perform_takesAnnouncement rfl probed⟩
  unprobed hprobe := perform_takesAnnouncement hprobe feed

/-- A probe byte that comes after an interruption and in one piece with the name, and a picture
block that breaks off after two bytes. -/
theorem perform_reads_cut_picture :
    let feed : Feed := {
      script := [.fault (.ofKind .interrupted), .data (0x2A :: DeviceName.encode "Pixel 7"),
        .fault (.ofKind .interrupted), .data [0x68, 0x32], .gap, .data [0x36]]
      perRead := some ⟨30, by decide⟩ }
    feed.waits.lifts = true ∧ Reads {} feed ∧
      (perform {} feed).1 = .error (.handshake .codecMeta 12 2) ∧
      (perform {} feed).2.history.consumed = 67 := by
  intro feed
  have hlifts : feed.waits.lifts = true := rfl
  exact ⟨hlifts, perform_reads {} hlifts, by decide +kernel, by decide +kernel⟩

end Handshake

end Screencast
