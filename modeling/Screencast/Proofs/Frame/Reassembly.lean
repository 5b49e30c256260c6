/-
A buffer against the grammar of frames.

What is buffered begins with an accepted frame, or with the header of one that
is too large, or it is the beginning of a frame that is still incomplete
(`begins`); `split?` tells these three apart. When the stream ends, an
incomplete beginning means to the buffer what a leftover means to the grammar
(`last_of_incomplete`).
-/
import Screencast.Frame.Reassembly
import Screencast.Proofs.Frame.Grammar

namespace Screencast

namespace Frame

/-- The beginning of a frame: if a header is there, it declares no more than is accepted, and more
than follows it. -/
def Incomplete (limit : Nat) (buffer : List UInt8) : Prop :=
  Header.wireSize ≤ buffer.length →
    Header.declared buffer ≤ limit ∧ buffer.length - Header.wireSize < Header.declared buffer

theorem Incomplete.leftover {limit : Nat} {buffer : List UInt8} (h : Incomplete limit buffer) :
    Leftover limit buffer := fun hheader _ => (h hheader).2

/-- What a buffer can begin with. -/
theorem begins (limit : Nat) (buffer : List UInt8) :
    (∃ (frame : Frame) (rest : List UInt8), buffer = frame.encode ++ rest ∧ frame.Accepted limit) ∨
      (Header.wireSize ≤ buffer.length ∧ limit < Header.declared buffer) ∨
      Incomplete limit buffer := by
  by_cases hleftover : Leftover limit buffer
  · right
    -- A leftover waits for more bytes, unless its header already declares too many.
    by_cases hlarge : Header.wireSize ≤ buffer.length ∧ limit < Header.declared buffer
    · exact .inl hlarge
    · right
      intro hheader
      have hlimit : Header.declared buffer ≤ limit := by omega
      exact ⟨hlimit, hleftover hheader hlimit⟩
  · exact .inl (exists_encode_append hleftover)

/-- Behind a header, `split?` takes off what is declared, unless that is too much or not all of it
is there. -/
theorem split?_header (limit : Nat) {header : Header} (hpts : header.pts.toNat < Header.ptsBound)
    (rest : List UInt8) :
    split? limit (header.encode ++ rest) =
      if limit < header.size.toNat then .error (.payloadTooLarge header.size.toNat limit)
      else if rest.length < header.size.toNat then .ok none
      else .ok (some (⟨header, rest.take header.size.toNat⟩, rest.drop header.size.toNat)) := by
  have hlength : (header.encode ++ rest).length = Header.wireSize + rest.length := by
    rw [List.length_append, Header.length_encode]
  have hdecode := Header.decode_encode_append header rest
  rw [Header.sent_of_lt hpts] at hdecode
  rw [split?, if_neg (by omega), hdecode]
  simp only [bind, Except.bind, hlength, Nat.add_lt_add_iff_left,
    List.drop_left' header.length_encode]

theorem split?_encode_append {limit : Nat} {frame : Frame} (h : frame.Accepted limit)
    (rest : List UInt8) :
    split? limit (frame.encode ++ rest) = .ok (some (frame, rest)) := by
  have hsize := h.wellFormed.size_eq
  have hle := h.length_le
  rw [encode_append, split?_header limit h.wellFormed.pts_lt, if_neg (by omega),
    if_neg (by rw [List.length_append]; omega), hsize, List.take_left, List.drop_left]

theorem split?_oversized {limit : Nat} {buffer : List UInt8}
    (hheader : Header.wireSize ≤ buffer.length) (hlimit : limit < Header.declared buffer) :
    split? limit buffer = .error (.payloadTooLarge (Header.declared buffer) limit) := by
  obtain ⟨header, rest, hpts, rfl⟩ := Header.exists_encode_append hheader
  rw [Header.declared_encode_append] at hlimit ⊢
  rw [split?_header limit hpts, if_pos hlimit]

theorem split?_incomplete {limit : Nat} {buffer : List UInt8} (h : Incomplete limit buffer) :
    split? limit buffer = .ok none := by
  by_cases hheader : Header.wireSize ≤ buffer.length
  · obtain ⟨hlimit, hpayload⟩ := h hheader
    obtain ⟨header, rest, hpts, rfl⟩ := Header.exists_encode_append hheader
    rw [Header.declared_encode_append] at hlimit hpayload
    rw [List.length_append, Header.length_encode] at hpayload
    rw [split?_header limit hpts, if_neg (by omega), if_pos (by omega)]
  · rw [split?, if_pos (by omega)]

end Frame

namespace Reassembly

/-- What `next` does with a buffer, by what the buffer begins with. -/
inductive Next (r : Reassembly) : Except WireError (Option Frame) × Reassembly → Prop
  | taken {frame : Frame} {rest : List UInt8} (hbuffer : r.buffer = frame.encode ++ rest)
      (hframe : frame.Accepted r.limit) : Next r (.ok (some frame), { r with buffer := rest })
  | refused (hheader : Frame.Header.wireSize ≤ r.buffer.length)
      (hlimit : r.limit < Frame.Header.declared r.buffer) :
      Next r (.error (.payloadTooLarge (Frame.Header.declared r.buffer) r.limit), r)
  | waiting (h : Frame.Incomplete r.limit r.buffer) : Next r (.ok none, r)

theorem next_next (r : Reassembly) : Next r r.next := by
  rcases Frame.begins r.limit r.buffer with ⟨frame, rest, hbuffer, hframe⟩ | ⟨hheader, hlimit⟩ | h
  · rw [next, hbuffer, Frame.split?_encode_append hframe]
    exact .taken hbuffer hframe
  · rw [next, Frame.split?_oversized hheader hlimit]
    exact .refused hheader hlimit
  · rw [next, Frame.split?_incomplete h]
    exact .waiting h

/-- What is missing from an incomplete frame is reported as the grammar says. -/
theorem shortfall_of_incomplete {r : Reassembly} (h : Frame.Incomplete r.limit r.buffer)
    (hne : r.buffer ≠ []) : .error r.shortfall = Frame.ending r.limit r.buffer := by
  rw [Frame.ending, if_neg hne, shortfall]
  by_cases hheader : r.buffer.length < Frame.Header.wireSize
  · rw [if_pos hheader, if_pos hheader]
  · have hle : Frame.Header.wireSize ≤ r.buffer.length := Nat.not_lt.mp hheader
    obtain ⟨hlimit, -⟩ := h hle
    obtain ⟨header, rest, hpts, hbuffer⟩ := Frame.Header.exists_encode_append hle
    have hdecode := Frame.Header.decode_encode_append header rest
    rw [← hbuffer, Frame.Header.sent_of_lt hpts] at hdecode
    -- The shortfall decodes the header again and finds the size that it declares.
    have hdeclared : Frame.Header.declared r.buffer = header.size.toNat := by
      rw [hbuffer, Frame.Header.declared_encode_append]
    rw [if_neg hheader, if_neg hheader, if_neg (by omega), hdecode, hdeclared]

/-- **At the end of a stream an incomplete frame is the leftover of the stream.** -/
theorem last_of_incomplete {r : Reassembly} (h : Frame.Incomplete r.limit r.buffer) :
    r.last = (Frame.ending r.limit r.buffer, { r with buffer := [] }) := by
  have hnext : r.next = (.ok none, r) := by rw [next, Frame.split?_incomplete h]
  rw [last, hnext]
  dsimp only
  by_cases hempty : r.buffer = []
  · rw [if_pos (by simp [hempty]), (Frame.ending_eq_ok_none_iff _ _).mpr hempty, ← hempty]
  · rw [if_neg (by simp [hempty]), shortfall_of_incomplete h hempty]

end Reassembly

end Screencast
