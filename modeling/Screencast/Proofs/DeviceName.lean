/-
The name field is written and read without loss, as far as a field can be.

A field has two parts: text that does not end in a NUL byte, and the filling
(`exists_filling`). Trimming finds the first of them. On written text it drops
just the NULs at the end of the text (`trimNul_encode`), so that a name comes
back as far as it fits and without those (`decode_encode`). Text that is valid
and has been trimmed fits again, and the filling makes up the rest of the field
(`encode_decode`).
-/
import Mathlib.Control.Monad.Basic
import Mathlib.Data.List.DropRight
import Screencast.DeviceName
import Screencast.Proofs.Text.Ends
import Screencast.Proofs.Text.Utf8

namespace Screencast.DeviceName

/-! ## Trimming -/

section Trim

variable {α : Type} [BEq α] [LawfulBEq α] (filler : α) (whole : List α)

/-- What is trimmed off is a filling. -/
theorem exists_filling :
    ∃ n, whole = whole.rdropWhile (· == filler) ++ List.replicate n filler := by
  have hfilling : whole.rtakeWhile (· == filler) =
      List.replicate (whole.rtakeWhile (· == filler)).length filler := by
    apply List.eq_replicate_of_mem
    intro x hx
    exact eq_of_beq (List.mem_rtakeWhile_imp (p := (· == filler)) hx)
  refine ⟨(whole.rtakeWhile (· == filler)).length, ?_⟩
  rw [← hfilling, List.rdropWhile_append_rtakeWhile]

/-- A filling makes no difference to what is left. -/
theorem rdropWhile_append_replicate (n : Nat) :
    (whole ++ List.replicate n filler).rdropWhile (· == filler) =
      whole.rdropWhile (· == filler) := by
  induction n with
  | zero => rw [List.replicate_zero, List.append_nil]
  | succ n ih =>
    rw [List.replicate_succ', ← List.append_assoc,
      List.rdropWhile_concat_pos (· == filler) _ _ (beq_self_eq_true filler), ih]

/-- What is left does not end in the filler. -/
theorem getLast?_rdropWhile : (whole.rdropWhile (· == filler)).getLast? ≠ some filler := by
  intro hlast
  have hfiller := getLast?_rdropWhile_not (· == filler) whole filler hlast
  simp at hfiller

end Trim

/-- Trimming drops the NUL bytes at the end, and nothing else. -/
theorem trimNul_eq (bytes : List UInt8) : trimNul bytes = bytes.rdropWhile (· == 0) := rfl

/-- On written text, trimming drops the NULs that the text ends in. -/
theorem trimNul_encode (text : List Char) :
    trimNul (Utf8.encode text) = Utf8.encode (text.rdropWhile (· == '\x00')) := by
  rw [trimNul_eq]
  -- From the last character on, as trimming goes.
  induction text using List.reverseRecOn with
  | nil => rfl
  | append_singleton text c ih =>
    have happend : Utf8.encode (text ++ [c]) = Utf8.encode text ++ String.utf8EncodeChar c := by
      rw [Utf8.encode_append, Utf8.encode_cons, Utf8.encode_nil, List.append_nil]
    by_cases hc : c = '\x00'
    · subst hc
      have hnul : String.utf8EncodeChar '\x00' = [0] := rfl
      rw [happend, hnul, List.rdropWhile_concat_pos (· == 0) _ _ rfl,
        List.rdropWhile_concat_pos (· == '\x00') _ _ rfl, ih]
    · -- The last byte of another character is no NUL byte.
      have hne := String.utf8EncodeChar_ne_nil (c := c)
      have hlast : (String.utf8EncodeChar c).getLast hne ≠ 0 := by
        intro hzero
        exact hc (Utf8.eq_nul_of_zero_mem (hzero ▸ List.getLast_mem hne))
      rw [List.rdropWhile_concat_neg (· == '\x00') _ _ (by simpa using hc), happend]
      apply List.rdropWhile_eq_self_iff.mpr
      intro hwhole
      rw [List.getLast_append_of_ne_nil hwhole hne]
      simpa using hlast

/-! ## Names that are sent -/

/-- A field holds as much of a name as fits, and a filling. -/
theorem encode_eq (name : String) :
    encode name = Utf8.encode (Utf8.fit width name.toList) ++
      List.replicate (width - (Utf8.encode (Utf8.fit width name.toList)).length) 0 := by
  have hcut := Utf8.lastBoundary_encode width name.toList
  have htake := Utf8.take_lastBoundary width name.toList
  rw [hcut] at htake
  simp only [encode, hcut, htake]

/-- A field is trimmed to the text in it. -/
theorem decode_of_text {field : List UInt8} (hlength : field.length = width) {text : List Char}
    (h : trimNul field = Utf8.encode text) : decode field = .ok (String.ofList text) := by
  rw [decode, Bytes.field_of_le (Nat.le_of_eq hlength.symm),
    List.take_of_length_le (Nat.le_of_eq hlength)]
  show Except.ok (String.ofList (Utf8.decodeLossy (trimNul field))) = _
  rw [h, Utf8.decodeLossy_encode]

/-- A name that is sent comes back as far as it fits, without the NULs at its end. -/
theorem decode_encode (name : String) :
    decode (encode name) =
      .ok (String.ofList ((Utf8.fit width name.toList).rdropWhile (· == '\x00'))) := by
  apply decode_of_text (length_encode name)
  rw [encode_eq, trimNul_eq, rdropWhile_append_replicate, ← trimNul_eq, trimNul_encode]

/-- What came back comes back again. -/
theorem decode_encode_of_decode {name shown : String} (h : decode (encode name) = .ok shown) :
    decode (encode shown) = .ok shown := by
  rw [decode_encode] at h
  obtain rfl := Except.ok.inj h
  have hprefix := List.rdropWhile_prefix (· == '\x00') (Utf8.fit width name.toList)
  have hfits : (Utf8.encode ((Utf8.fit width name.toList).rdropWhile (· == '\x00'))).length ≤
      width := by
    obtain ⟨nuls, hnuls⟩ := hprefix
    have hlength := Utf8.length_encode_fit_le width name.toList
    rw [← hnuls, Utf8.encode_append, List.length_append] at hlength
    omega
  rw [decode_encode, String.toList_ofList, Utf8.fit_eq_self hfits, List.rdropWhile_idempotent]

/-! ## Fields that are received -/

/-- A field of valid text is the field of the name in it. -/
theorem encode_decode {field : List UInt8} (hlength : field.length = width)
    (hvalid : (trimNul field).toByteArray.IsValidUTF8) :
    ∃ name, decode field = .ok name ∧ encode name = field := by
  have htext := Utf8.encode_decodeLossy_iff.mpr hvalid
  generalize Utf8.decodeLossy (trimNul field) = text at htext
  refine ⟨String.ofList text, decode_of_text hlength htext.symm, ?_⟩
  obtain ⟨n, hfield⟩ := exists_filling 0 field
  rw [← trimNul_eq, ← htext] at hfield
  have htotal : (Utf8.encode text).length + n = width := by
    rw [← hlength, hfield, List.length_append, List.length_replicate]
  have hfits : (Utf8.encode text).length ≤ width := by omega
  have hn : width - (Utf8.encode text).length = n := by omega
  rw [encode_eq, String.toList_ofList, Utf8.fit_eq_self hfits, hn, ← hfield]

/-- Whatever is in a field, it has a name, and that does not end in a NUL. -/
theorem exists_name {field : List UInt8} (hlength : field.length = width) :
    ∃ name, decode field = .ok name ∧ name.toList.getLast? ≠ some '\x00' := by
  refine ⟨String.ofList (Utf8.decodeLossy (trimNul field)), ?_, ?_⟩
  · rw [decode, Bytes.field_of_le (Nat.le_of_eq hlength.symm),
      List.take_of_length_le (Nat.le_of_eq hlength)]
    rfl
  · rw [String.toList_ofList]
    apply Utf8.getLast?_decodeLossy
    rw [trimNul_eq]
    exact getLast?_rdropWhile 0 field

/-- What follows a field makes no difference to its name. -/
theorem decode_append {field : List UInt8} (hlength : field.length = width) (more : List UInt8) :
    decode (field ++ more) = decode field := by
  have hle : width ≤ (field ++ more).length := by
    rw [List.length_append]
    omega
  rw [decode, decode, Bytes.field_of_le hle, Bytes.field_of_le (Nat.le_of_eq hlength.symm),
    List.take_append_of_le_length (Nat.le_of_eq hlength.symm)]

/-- **A name comes back as far as it fits, and a field of valid text is the one that its name is
sent in.** -/
theorem field_round_trips :
    (∀ name : String, (encode name).length = width ∧
      ∃ part, Utf8.Fits width name.toList part ∧
        let shown := String.ofList (part.rdropWhile (· == '\x00'))
        decode (encode name) = .ok shown ∧ decode (encode shown) = .ok shown) ∧
    (∀ field : List UInt8, field.length = width →
      (field.rdropWhile (· == 0)).toByteArray.IsValidUTF8 →
        ∃ name, decode field = .ok name ∧ encode name = field) ∧
    (∀ field : List UInt8, field.length = width →
      ∃ name, decode field = .ok name ∧ name.toList.getLast? ≠ some '\x00') ∧
    ∀ field more : List UInt8, field.length = width → decode (field ++ more) = decode field := by
  refine ⟨?_, fun _ => encode_decode, fun _ => exists_name, fun _ more h => decode_append h more⟩
  intro name
  exact ⟨length_encode name, _, Utf8.fits_fit width name.toList, decode_encode name,
    decode_encode_of_decode (decode_encode name)⟩

/-- The last character of a name does not fit, and the NUL before it is dropped. The field of what is
left is valid, and another that begins and ends inside a character is not. -/
theorem field_round_trips_cut :
    let name := String.ofList (List.replicate 62 'a' ++ ['\x00', 'é'])
    let field := List.replicate 62 0x61 ++ [0, 0]
    let torn : List UInt8 := 0xA9 :: List.replicate 62 0x61 ++ [0xC3]
    (encode name = field ∧ decode field = .ok (String.ofList (List.replicate 62 'a')) ∧
      ∃ part, Utf8.Fits width name.toList part ∧
        decode (encode name) = .ok (String.ofList (part.rdropWhile (· == '\x00')))) ∧
    (field.length = width ∧ (field.rdropWhile (· == 0)).toByteArray.IsValidUTF8 ∧
      ∃ shown, decode field = .ok shown ∧ encode shown = field) ∧
    (torn.length = width ∧ ¬ (torn.rdropWhile (· == 0)).toByteArray.IsValidUTF8 ∧
      ∃ shown, decode torn = .ok shown ∧ shown.toList.getLast? ≠ some '\x00') ∧
    decode (torn ++ [7]) = decode torn := by
  intro name field torn
  obtain ⟨hnames, hfields, hnamed, hmore⟩ := field_round_trips
  obtain ⟨-, part, hfits, hback, -⟩ := hnames name
  have hvalid : (field.rdropWhile (· == 0)).toByteArray.IsValidUTF8 :=
    Utf8.encode_decodeLossy_iff.mp (by decide +kernel)
  have htorn : ¬ (torn.rdropWhile (· == 0)).toByteArray.IsValidUTF8 := by
    intro h
    exact absurd (Utf8.encode_decodeLossy_iff.mpr h) (by decide +kernel)
  exact ⟨⟨by decide +kernel, by decide +kernel, part, hfits, hback⟩,
    ⟨rfl, hvalid, hfields field rfl hvalid⟩, ⟨rfl, htorn, hnamed torn rfl⟩,
    hmore torn [7] rfl⟩

end Screencast.DeviceName
