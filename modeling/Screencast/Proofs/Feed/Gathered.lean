/-
What gathering bytes can come to.

There are three ways: the bytes that are wanted, or fewer of them and then the
end of the stream, or fewer of them and then a fault (`gathered`). Whatever is
read off signals leaves an end of them (`gather_suffix`, `handshake_suffix`),
and a fault among them is one that the script holds (`fault_mem_signalsOf`).
-/
import Screencast.Proofs.Handshake
import Screencast.Proofs.Intake

namespace Screencast.Feed

/-- A fault among the signals of a script is one of its faults, and no interruption. -/
theorem fault_mem_signalsOf {script : List Item} {fault : Fault}
    (h : .fault fault ∈ signalsOf script) :
    .fault fault ∈ script ∧ fault.isInterrupted = false := by
  obtain ⟨item, hitem, hmem⟩ := List.mem_flatMap.mp h
  cases item with
  | data bytes =>
    obtain ⟨value, -, heq⟩ := List.mem_map.mp hmem
    cases heq
  | gap =>
    cases List.mem_singleton.mp hmem
  | fault cause =>
    rw [Item.signals] at hmem
    split at hmem
    · cases hmem
    · next hcause =>
      cases List.mem_singleton.mp hmem
      exact ⟨hitem, by simpa using hcause⟩
  | pause millis => cases hmem
  | cancel => cases hmem

namespace Signal

/-- What gathering some bytes off signals comes to, and the signals that it leaves. -/
inductive Gathered (wanted : Nat) :
    List Signal → Except WireError (List UInt8) → List Signal → Prop
  | whole {bytes : List UInt8} (hlength : bytes.length = wanted) (rest : List Signal) :
      Gathered wanted (bytes.map .byte ++ rest) (.ok bytes) rest
  /-- The stream ends before. -/
  | short {bytes : List UInt8} (hlt : bytes.length < wanted) {after : List Signal}
      (hends : Ends after) :
      Gathered wanted (bytes.map .byte ++ after) (.error (.truncated wanted bytes.length))
        after.tail
  /-- A fault comes before. -/
  | fault {bytes : List UInt8} (hlt : bytes.length < wanted) (cause : Fault)
      (rest : List Signal) :
      Gathered wanted (bytes.map .byte ++ .fault cause :: rest) (.error (.io cause)) rest

/-- Signals are bytes up to an end or to a fault. -/
theorem exists_bytes (signals : List Signal) :
    ∃ (bytes : List UInt8) (after : List Signal), signals = bytes.map .byte ++ after ∧
      (Ends after ∨ ∃ cause rest, after = .fault cause :: rest) := by
  induction signals with
  | nil => exact ⟨[], [], rfl, .inl (.inl rfl)⟩
  | cons signal rest ih =>
    cases signal with
    | gap => exact ⟨[], _, rfl, .inl (.inr ⟨rest, rfl⟩)⟩
    | fault cause => exact ⟨[], _, rfl, .inr ⟨cause, rest, rfl⟩⟩
    | byte value =>
      obtain ⟨bytes, after, rfl, hafter⟩ := ih
      exact ⟨value :: bytes, after, rfl, hafter⟩

/-- **Gathering comes to one of three things.** -/
theorem gathered (wanted : Nat) (signals : List Signal) :
    Gathered wanted signals (gather wanted signals).1 (gather wanted signals).2 := by
  obtain ⟨bytes, after, rfl, hafter⟩ := exists_bytes signals
  by_cases hlt : bytes.length < wanted
  · rcases hafter with hends | ⟨cause, rest, rfl⟩
    · rw [gather_short hlt hends]
      exact .short hlt hends
    · rw [gather_fault hlt]
      exact .fault hlt cause rest
  · -- There are enough bytes, and those that are not wanted are left.
    have hlength : (bytes.take wanted).length = wanted := by
      rw [List.length_take]
      omega
    have hsplit : bytes.map Signal.byte ++ after =
        (bytes.take wanted).map .byte ++ ((bytes.drop wanted).map .byte ++ after) := by
      rw [← List.append_assoc, ← List.map_append, List.take_append_drop]
    have hgather := gather_map_byte (bytes.take wanted) ((bytes.drop wanted).map .byte ++ after)
    rw [hlength, ← hsplit] at hgather
    rw [hgather, hsplit]
    exact .whole hlength _

/-! ## What is left -/

theorem gather_suffix (wanted : Nat) (signals : List Signal) :
    (gather wanted signals).2 <:+ signals := by
  have h := gathered wanted signals
  generalize (gather wanted signals).1 = result, (gather wanted signals).2 = rest at h
  cases h with
  | whole => exact List.suffix_append _ _
  | short => exact (List.tail_suffix _).trans (List.suffix_append _ _)
  | fault => exact (List.suffix_cons _ _).trans (List.suffix_append _ _)

theorem probeStep_suffix (expectProbe : Bool) (signals : List Signal) :
    (probeStep expectProbe signals).2 <:+ signals := by
  unfold probeStep
  split
  · cases signals with
    | nil => exact List.suffix_rfl
    | cons signal rest => cases signal <;> exact List.suffix_cons _ _
  · exact List.suffix_rfl

theorem name_suffix (signals : List Signal) : (name signals).2 <:+ signals := by
  have hfield := gather_suffix DeviceName.width signals
  unfold name
  generalize gather DeviceName.width signals = run at hfield ⊢
  obtain ⟨e | field, rest⟩ := run
  · exact hfield
  · exact hfield

theorem picture_suffix (signals : List Signal) : (picture signals).2 <:+ signals := by
  have hblock := gather_suffix Picture.wireSize signals
  unfold picture
  generalize gather Picture.wireSize signals = run at hblock ⊢
  obtain ⟨e | block, rest⟩ := run
  · exact hblock
  · exact hblock

theorem announcement_suffix (signals : List Signal) : (announcement signals).2 <:+ signals := by
  have hname := name_suffix signals
  unfold announcement
  generalize name signals = run at hname ⊢
  obtain ⟨failure | device, rest⟩ := run
  · exact hname
  · have hpicture := (picture_suffix rest).trans hname
    dsimp only
    generalize picture rest = run at hpicture ⊢
    obtain ⟨failure | picture, rest'⟩ := run
    · exact hpicture
    · exact hpicture

/-- A handshake leaves an end of the signals that it is made on. -/
theorem handshake_suffix (expectProbe : Bool) (signals : List Signal) :
    (handshake expectProbe signals).2 <:+ signals := by
  have hprobe := probeStep_suffix expectProbe signals
  have hannouncement := (announcement_suffix (probeStep expectProbe signals).2).trans hprobe
  unfold handshake
  dsimp only
  generalize announcement (probeStep expectProbe signals).2 = run at hannouncement ⊢
  obtain ⟨failure | told, rest⟩ := run
  · exact hannouncement
  · exact hannouncement

/-! ## What is not whole -/

/-- A name is missing because the stream ends inside its field, or because of a fault. -/
theorem name_eq_error {signals rest : List Signal} {failure : Failure}
    (h : name signals = (.error failure, rest)) :
    (∃ (field : List UInt8) (after : List Signal), field.length < 64 ∧ Ends after ∧
        signals = field.map .byte ++ after ∧
        failure = .handshake .deviceName 64 field.length) ∨
      ∃ fault, failure = .io fault ∧ .fault fault :: rest <:+ signals := by
  have hfield := gathered DeviceName.width signals
  unfold name at h
  generalize gather DeviceName.width signals = run at hfield h
  obtain ⟨result, behind⟩ := run
  cases hfield with
  | @short field hlt after hends =>
    cases h
    exact .inl ⟨field, after, hlt, hends, rfl, rfl⟩
  | fault hlt cause =>
    cases h
    exact .inr ⟨cause, rfl, List.suffix_append _ _⟩
  | @whole field hlength =>
    -- Every name field has a name.
    obtain ⟨device, hdevice⟩ := DeviceName.exists_decode (Nat.le_of_eq hlength.symm)
    dsimp only at h
    rw [hdevice] at h
    cases h

theorem name_eq_ok {signals rest : List Signal} {device : String}
    (h : name signals = (.ok device, rest)) :
    ∃ field : List UInt8, field.length = 64 ∧ signals = field.map .byte ++ rest := by
  unfold name at h
  rcases hgather : gather DeviceName.width signals with ⟨e | field, behind⟩
  · rw [hgather] at h
    cases h
  · obtain ⟨hlength, hsignals⟩ := gather_eq_ok hgather
    rw [hgather] at h
    obtain rfl : behind = rest := congrArg Prod.snd h
    exact ⟨field, hlength, hsignals⟩

/-- A picture is missing because the stream ends inside its block, or because of a fault. -/
theorem picture_eq_error {signals rest : List Signal} {failure : Failure}
    (h : picture signals = (.error failure, rest)) :
    (∃ (field : List UInt8) (after : List Signal), field.length < 12 ∧ Ends after ∧
        signals = field.map .byte ++ after ∧
        failure = .handshake .codecMeta 12 field.length) ∨
      ∃ fault, failure = .io fault ∧ .fault fault :: rest <:+ signals := by
  have hblock := gathered Picture.wireSize signals
  unfold picture at h
  generalize gather Picture.wireSize signals = run at hblock h
  obtain ⟨result, behind⟩ := run
  cases hblock with
  | @short field hlt after hends =>
    cases h
    exact .inl ⟨field, after, hlt, hends, rfl, rfl⟩
  | fault hlt cause =>
    cases h
    exact .inr ⟨cause, rfl, List.suffix_append _ _⟩
  | @whole block hlength =>
    -- Every block describes a picture.
    obtain ⟨picture, hpicture⟩ := Picture.exists_decode (Nat.le_of_eq hlength.symm)
    dsimp only at h
    rw [hpicture] at h
    cases h

/-- An announcement is missing because the stream ends inside the name or inside the picture block,
or because of a fault, behind which nothing is read. -/
theorem announcement_eq_error {signals rest : List Signal} {failure : Failure}
    (h : announcement signals = (.error failure, rest)) :
    (∃ (field : List UInt8) (after : List Signal), field.length < 64 ∧ Ends after ∧
        signals = field.map .byte ++ after ∧
        failure = .handshake .deviceName 64 field.length) ∨
      (∃ (name field : List UInt8) (after : List Signal), name.length = 64 ∧ field.length < 12 ∧
        Ends after ∧ signals = (name ++ field).map .byte ++ after ∧
        failure = .handshake .codecMeta 12 field.length) ∨
      ∃ fault, failure = .io fault ∧ .fault fault :: rest <:+ signals := by
  unfold announcement at h
  rcases hname : name signals with ⟨failure' | device, behind⟩
  · rw [hname] at h
    cases h
    exact (name_eq_error hname).imp_right .inr
  · obtain ⟨named, hlength, rfl⟩ := name_eq_ok hname
    rw [hname] at h
    dsimp only at h
    rcases hpicture : picture behind with ⟨failure' | picture, later⟩
    · rw [hpicture] at h
      cases h
      rcases picture_eq_error hpicture with ⟨field, after, hlt, hends, rfl, rfl⟩ | ⟨fault, rfl, hsuffix⟩
      · refine .inr (.inl ⟨named, field, after, hlength, hlt, hends, ?_, rfl⟩)
        rw [List.map_append, List.append_assoc]
      · exact .inr (.inr ⟨fault, rfl, hsuffix.trans (List.suffix_append _ _)⟩)
    · rw [hpicture] at h
      cases h

/-- A frame is missing because the stream ends inside its header or inside its payload; because it
is too large, and then nothing is read behind the header; or because of a fault. -/
theorem frame_eq_error {limit : Nat} {signals rest : List Signal} {e : WireError}
    (h : frame limit signals = (.error e, rest)) :
    (∃ (part : List UInt8) (after : List Signal), 0 < part.length ∧ part.length < 12 ∧
        Ends after ∧ signals = part.map .byte ++ after ∧ e = .truncated 12 part.length) ∨
      (∃ (header : Frame.Header) (part : List UInt8) (after : List Signal),
        header.size.toNat ≤ limit ∧ part.length < header.size.toNat ∧ Ends after ∧
        signals = (header.encode ++ part).map .byte ++ after ∧
        e = .truncated header.size.toNat part.length) ∨
      (∃ header : Frame.Header, limit < header.size.toNat ∧
        signals = header.encode.map .byte ++ rest ∧
        e = .payloadTooLarge header.size.toNat limit) ∨
      ∃ fault, e = .io fault ∧ .fault fault :: rest <:+ signals := by
  have hheader := gathered Frame.Header.wireSize signals
  unfold frame at h
  generalize gather Frame.Header.wireSize signals = run at hheader h
  obtain ⟨result, behind⟩ := run
  cases hheader with
  | @short part hlt after hends =>
    cases part with
    | nil => cases h
    | cons value more =>
      cases h
      exact .inl ⟨value :: more, after, Nat.succ_pos _, hlt, hends, rfl, rfl⟩
  | fault hlt cause =>
    cases h
    exact .inr (.inr (.inr ⟨cause, rfl, List.suffix_append _ _⟩))
  | @whole raw hlength =>
    obtain ⟨header, hdecode, hencode, -⟩ :=
      Frame.Header.decode_eq (Nat.le_of_eq hlength.symm)
    rw [← hlength, List.take_length] at hencode
    dsimp only at h
    rw [hdecode] at h
    dsimp only at h
    by_cases hlimit : limit < header.size.toNat
    · rw [if_pos hlimit] at h
      cases h
      exact .inr (.inr (.inl ⟨header, hlimit, by rw [hencode], rfl⟩))
    · rw [if_neg hlimit] at h
      have hpayload := gathered header.size.toNat behind
      generalize gather header.size.toNat behind = run at hpayload h
      obtain ⟨result, later⟩ := run
      cases hpayload with
      | @short part hlt after hends =>
        cases h
        refine .inr (.inl ⟨header, part, after, Nat.not_lt.mp hlimit, hlt, hends, ?_, rfl⟩)
        rw [hencode, List.map_append, List.append_assoc]
      | fault hlt cause =>
        cases h
        refine .inr (.inr (.inr ⟨cause, rfl, ?_⟩))
        exact (List.suffix_append _ _).trans (List.suffix_append _ _)
      | whole hlength => cases h

end Signal

end Screencast.Feed
