/-
The grammar of a stream of frames.

A byte string is a row of accepted frames, one after another, and a leftover
that does not begin with another one. Every byte string can be taken apart like
that (`Parse.exists`), in one way only (`Parse.unique`): the header of a frame
says where its payload ends, so no frame can be read as the beginning of
another. `ending` is what a leftover means for the reader that comes upon it.
-/
import Screencast.Proofs.Frame.Header

namespace Screencast.Frame

/-- A frame that a reader with a given limit takes. -/
structure Accepted (limit : Nat) (frame : Frame) : Prop where
  wellFormed : frame.WellFormed
  length_le : frame.payload.length ≤ limit

/-- A byte string that does not begin with an accepted frame: if it holds a header at all, that
header declares more than is accepted or more than follows it. -/
def Leftover (limit : Nat) (rest : List UInt8) : Prop :=
  Header.wireSize ≤ rest.length → Header.declared rest ≤ limit →
    rest.length - Header.wireSize < Header.declared rest

/-- How a stream of frames ends that stops with a leftover. -/
def ending (limit : Nat) (rest : List UInt8) : Except WireError (Option Frame) :=
  if rest = [] then .ok none
  else if rest.length < Header.wireSize then .error (.truncated Header.wireSize rest.length)
  else if limit < Header.declared rest then
    .error (.payloadTooLarge (Header.declared rest) limit)
  else .error (.truncated (Header.declared rest) (rest.length - Header.wireSize))

/-- A byte string taken apart into accepted frames and a leftover. -/
structure Parse (limit : Nat) (bytes : List UInt8) (frames : List Frame) (rest : List UInt8) :
    Prop where
  bytes_eq : bytes = frames.flatMap encode ++ rest
  accepted : ∀ frame ∈ frames, frame.Accepted limit
  leftover : Leftover limit rest

/-! ## Single frames -/

theorem encode_append (frame : Frame) (rest : List UInt8) :
    frame.encode ++ rest = frame.header.encode ++ (frame.payload ++ rest) := by
  rw [encode, List.append_assoc]

/-- Two well-formed frames at the head of one byte string are the same. -/
theorem encode_append_inj {first second : Frame} {rest rest' : List UInt8}
    (hfirst : first.WellFormed) (hsecond : second.WellFormed)
    (h : first.encode ++ rest = second.encode ++ rest') : first = second ∧ rest = rest' := by
  rw [encode_append, encode_append] at h
  -- Reading the common byte string yields either header, and the header fixes the payload's length.
  have hheader : first.header = second.header := by
    have hdecode := Header.decode_encode_append first.header (first.payload ++ rest)
    rw [h, Header.decode_encode_append, Header.sent_of_lt hfirst.pts_lt,
      Header.sent_of_lt hsecond.pts_lt] at hdecode
    exact (Except.ok.inj hdecode).symm
  rw [hheader, List.append_cancel_left_eq] at h
  have hlength : first.payload.length = second.payload.length := by
    rw [← hfirst.size_eq, ← hsecond.size_eq, hheader]
  obtain ⟨hpayload, hrest⟩ := List.append_inj h hlength
  refine ⟨?_, hrest⟩
  cases first
  cases second
  subst hheader hpayload
  rfl

/-- A leftover begins with no accepted frame. -/
theorem Leftover.ne_encode_append {limit : Nat} {bytes : List UInt8} (h : Leftover limit bytes)
    {frame : Frame} (hframe : frame.Accepted limit) (rest : List UInt8) :
    bytes ≠ frame.encode ++ rest := by
  rintro rfl
  have hdeclared : Header.declared (frame.encode ++ rest) = frame.payload.length := by
    rw [encode_append, Header.declared_encode_append, hframe.wellFormed.size_eq]
  have hlength : (frame.encode ++ rest).length =
      Header.wireSize + frame.payload.length + rest.length := by
    rw [List.length_append, length_encode, wireSize]
  have hle := hframe.length_le
  have := h (by omega) (by omega)
  omega

/-- What is no leftover begins with an accepted frame. -/
theorem exists_encode_append {limit : Nat} {bytes : List UInt8} (h : ¬ Leftover limit bytes) :
    ∃ (frame : Frame) (rest : List UInt8), bytes = frame.encode ++ rest ∧
      frame.Accepted limit := by
  -- The failing leftover supplies a header, an acceptable size and enough bytes behind it.
  simp only [Leftover, Classical.not_imp, Nat.not_lt] at h
  obtain ⟨hheader, hlimit, hpayload⟩ := h
  obtain ⟨header, tail, hpts, rfl⟩ := Header.exists_encode_append hheader
  rw [Header.declared_encode_append] at hlimit hpayload
  rw [List.length_append, Header.length_encode] at hpayload
  have hlength : (tail.take header.size.toNat).length = header.size.toNat := by
    rw [List.length_take]
    omega
  refine ⟨⟨header, tail.take header.size.toNat⟩, tail.drop header.size.toNat, ?_, ⟨?_, hpts⟩, ?_⟩
  · rw [encode_append, List.take_append_drop]
  · exact hlength.symm
  · rw [hlength]
    exact hlimit

/-! ## Whole streams -/

/-- **Every byte string can be taken apart into accepted frames and a leftover.** -/
theorem Parse.exists (limit : Nat) (bytes : List UInt8) :
    ∃ frames rest, Parse limit bytes frames rest := by
  by_cases h : Leftover limit bytes
  · exact ⟨[], bytes, rfl, by simp, h⟩
  · obtain ⟨frame, rest, hbytes, hframe⟩ := exists_encode_append h
    have hshorter : rest.length < bytes.length := by
      rw [hbytes, List.length_append, length_encode, wireSize, Header.wireSize]
      omega
    obtain ⟨frames, leftover, hparse⟩ := Parse.exists limit rest
    refine ⟨frame :: frames, leftover, ?_, ?_, hparse.leftover⟩
    · rw [List.flatMap_cons, List.append_assoc, ← hparse.bytes_eq]
      exact hbytes
    · exact List.forall_mem_cons.mpr ⟨hframe, hparse.accepted⟩
termination_by bytes.length

/-- **There is only one way to take a byte string apart.** -/
theorem Parse.unique {limit : Nat} {bytes : List UInt8} {frames frames' : List Frame}
    {rest rest' : List UInt8} (h : Parse limit bytes frames rest)
    (h' : Parse limit bytes frames' rest') : frames = frames' ∧ rest = rest' := by
  -- Where only one side has a frame, the leftover of the other side would begin with it.
  induction frames generalizing bytes frames' with
  | nil =>
    have hrest : bytes = rest := by simpa using h.bytes_eq
    cases frames' with
    | nil =>
      have hrest' : bytes = rest' := by simpa using h'.bytes_eq
      exact ⟨rfl, hrest.symm.trans hrest'⟩
    | cons frame more =>
      have hbytes := h'.bytes_eq
      rw [List.flatMap_cons, List.append_assoc, hrest] at hbytes
      exact absurd hbytes (h.leftover.ne_encode_append (h'.accepted _ List.mem_cons_self) _)
  | cons frame more ih =>
    have hbytes := h.bytes_eq
    rw [List.flatMap_cons, List.append_assoc] at hbytes
    cases frames' with
    | nil =>
      have hrest' : bytes = rest' := by simpa using h'.bytes_eq
      rw [hrest'] at hbytes
      exact absurd hbytes (h'.leftover.ne_encode_append (h.accepted _ List.mem_cons_self) _)
    | cons frame' more' =>
      have hbytes' := h'.bytes_eq
      rw [List.flatMap_cons, List.append_assoc, hbytes] at hbytes'
      obtain ⟨rfl, htail⟩ := encode_append_inj (h.accepted _ List.mem_cons_self).wellFormed
        (h'.accepted _ List.mem_cons_self).wellFormed hbytes'
      have hmore : Parse limit (more.flatMap encode ++ rest) more rest :=
        ⟨rfl, fun f hf => h.accepted f (List.mem_cons_of_mem _ hf), h.leftover⟩
      have hmore' : Parse limit (more.flatMap encode ++ rest) more' rest' :=
        ⟨htail, fun f hf => h'.accepted f (List.mem_cons_of_mem _ hf), h'.leftover⟩
      obtain ⟨rfl, rfl⟩ := ih hmore hmore'
      exact ⟨rfl, rfl⟩

/-- A byte string that is nothing but accepted frames leaves nothing over. -/
theorem Parse.of_flatMap {limit : Nat} {frames : List Frame}
    (h : ∀ frame ∈ frames, frame.Accepted limit) :
    Parse limit (frames.flatMap encode) frames [] :=
  ⟨(List.append_nil _).symm, h, fun hle => absurd hle (by decide)⟩

/-- Only an empty leftover is a clean end. -/
theorem ending_eq_ok_none_iff (limit : Nat) (rest : List UInt8) :
    ending limit rest = .ok none ↔ rest = [] := by
  unfold ending
  split
  · next h => simp [h]
  · next h => split <;> (try split) <;> simp [h]

theorem ending_ne_ok_some (limit : Nat) (rest : List UInt8) (frame : Frame) :
    ending limit rest ≠ .ok (some frame) := by
  unfold ending
  split
  · simp
  · split
    · simp
    · split <;> simp

end Screencast.Frame
