/-
Where frames come from, and what is true of all of them.

A frame is made from a payload, read from a channel, or taken off the front of a
buffer (`Obtained`). In each of these ways its header says how long its payload
is, and its time stamp is one that can be sent (`Obtained.wellFormed`): a new
frame is given such a header, and readers only ever find frames that have one
(`Intake.accepted_of_next`, `split?_eq_some`). A frame like that comes back from
the front of any byte string that begins with what it is sent as, whatever
follows it there (`split?_encode_append`).
-/
import Mathlib.Algebra.Group.Nat.Defs
import Screencast.Proofs.Frame.Conservation
import Screencast.Proofs.Intake

namespace Screencast

namespace Frame

/-- A frame that is split off is one that the limit accepts, and the buffer began with it. -/
theorem split?_eq_some {limit : Nat} {buffer rest : List UInt8} {frame : Frame}
    (h : split? limit buffer = .ok (some (frame, rest))) :
    frame.Accepted limit ∧ buffer = frame.encode ++ rest := by
  rcases begins limit buffer with ⟨found, behind, hbuffer, hfound⟩ | ⟨hheader, hlimit⟩ | hwaits
  · rw [hbuffer, split?_encode_append hfound] at h
    cases h
    exact ⟨hfound, hbuffer⟩
  · rw [split?_oversized hheader hlimit] at h
    cases h
  · rw [split?_incomplete hwaits] at h
    cases h

/-- A frame that has been come by in one of the ways that there are. -/
inductive Obtained : Frame → Prop
  /-- It was made from a payload. -/
  | made {config keyframe : Bool} {pts : UInt64} {payload : List UInt8} {frame : Frame}
      (h : make config keyframe pts payload = .ok frame) : Obtained frame
  /-- It was read from a channel. -/
  | read {intake last : Intake} {frame : Frame} (h : intake.next = (.ok (some frame), last)) :
      Obtained frame
  /-- It was split off a byte string. -/
  | split {limit : Nat} {buffer rest : List UInt8} {frame : Frame}
      (h : split? limit buffer = .ok (some (frame, rest))) : Obtained frame
  /-- It was taken off a buffer that was still filling up. -/
  | next {r after : Reassembly} {frame : Frame} (h : r.next = (.ok (some frame), after)) :
      Obtained frame
  /-- It was taken off a buffer at the end of the stream. -/
  | last {r after : Reassembly} {frame : Frame} (h : r.last = (.ok (some frame), after)) :
      Obtained frame

/-- However a frame was come by, its header fits it. -/
theorem Obtained.wellFormed {frame : Frame} (h : Obtained frame) : frame.WellFormed := by
  cases h with
  | made h => exact .of_make h
  | read h => exact (Intake.accepted_of_next h).wellFormed
  | split h => exact (split?_eq_some h).1.wellFormed
  | @next r after frame h =>
    have hnext := r.next_next
    rw [h] at hnext
    cases hnext with
    | taken hbuffer hframe => exact hframe.wellFormed
  | @last r after frame h =>
    have hlast := r.last_last
    rw [h] at hlast
    cases hlast with
    | taken hbuffer hframe => exact hframe.wellFormed

/-- **Headers are packed without loss, and every frame comes back from what it is sent as.** Any 12
bytes are what the header in them is sent as. A header comes back from its bytes with the low 62
bits of its time stamp, and the others do not touch the marks. However a frame was come by, its
header gives the length of its payload and a time stamp that can be sent; it is as long on the wire
as it says; and it is the frame that is split off wherever it comes first, if the limit allows for
its payload. -/
theorem packing_is_faithful :
    (∀ bytes : List UInt8, bytes.length = 12 →
      ∃ header, Header.decode bytes = .ok header ∧ header.encode = bytes ∧
        header.pts.toNat < 2 ^ 62) ∧
    (∀ header : Header, Header.decode header.encode =
      .ok { header with pts := UInt64.ofNat (header.pts.toNat % 2 ^ 62) }) ∧
    ∀ frame : Frame, Obtained frame →
      frame.header.size.toNat = frame.payload.length ∧ frame.header.pts.toNat < 2 ^ 62 ∧
        frame.wireSize = frame.encode.length ∧
        ∀ (limit : Nat) (rest : List UInt8), frame.payload.length ≤ limit →
          split? limit (frame.encode ++ rest) = .ok (some (frame, rest)) := by
  refine ⟨?_, ?_, ?_⟩
  · intro bytes hlength
    have hwire : Header.wireSize = bytes.length := hlength.symm
    obtain ⟨header, hdecode, hencode, hpts⟩ := Header.decode_eq (Nat.le_of_eq hwire)
    rw [hwire, List.take_length] at hencode
    exact ⟨header, hdecode, hencode, hpts⟩
  · intro header
    have hdecode := Header.decode_encode_append header []
    rwa [List.append_nil] at hdecode
  · intro frame hobtained
    have hframe := hobtained.wellFormed
    refine ⟨hframe.size_eq, hframe.pts_lt, frame.length_encode.symm, ?_⟩
    intro limit rest hlimit
    exact split?_encode_append ⟨hframe, hlimit⟩ rest

/-- Twelve bytes with both marks set; a header whose time stamp has all 64 bits; and three frames:
one made with such a time stamp, one read in two pieces, one split off in front of another byte. -/
theorem packing_is_faithful_all_ways :
    let bytes : List UInt8 := [0xC0, 0, 0, 0, 0, 0, 0, 5, 0, 0, 0, 3]
    let late : Header := ⟨false, true, 0xFFFFFFFFFFFFFFFF, 2⟩
    let made : Frame := ⟨⟨false, true, 0x3FFFFFFFFFFFFFFF, 2⟩, [0xAB, 0xCD]⟩
    let feed : Feed := {
      script := [.data [0x80, 0, 0, 0, 0], .fault (.ofKind .interrupted),
        .data [0, 0, 7, 0, 0, 0, 1, 0xEE, 9]] }
    let read : Frame := ⟨⟨true, false, 7, 1⟩, [0xEE]⟩
    let found : Frame := ⟨⟨false, false, 9, 0⟩, []⟩
    (bytes.length = 12 ∧ ∃ header, Header.decode bytes = .ok header ∧ header.encode = bytes) ∧
      Header.decode late.encode = .ok made.header ∧
      (make false true 0xFFFFFFFFFFFFFFFF [0xAB, 0xCD] = .ok made ∧
        split? 2 (made.encode ++ [1, 2, 3]) = .ok (some (made, [1, 2, 3]))) ∧
      (({ feed, limit := 1 } : Intake).next.1 = .ok (some read) ∧
        split? 1 (read.encode ++ made.encode) = .ok (some (read, made.encode))) ∧
      (split? 0 [0, 0, 0, 0, 0, 0, 0, 9, 0, 0, 0, 0, 4] = .ok (some (found, [4])) ∧
        split? 0 (found.encode ++ []) = .ok (some (found, []))) := by
  intro bytes late made feed read found
  obtain ⟨hbytes, hheaders, hframes⟩ := packing_is_faithful
  obtain ⟨header, hdecode, hencode, -⟩ := hbytes bytes rfl
  have hmade : make false true 0xFFFFFFFFFFFFFFFF [0xAB, 0xCD] = .ok made := by decide +kernel
  have hread : ({ feed, limit := 1 } : Intake).next.1 = .ok (some read) := by decide +kernel
  have hfound : split? 0 [0, 0, 0, 0, 0, 0, 0, 9, 0, 0, 0, 0, 4] = .ok (some (found, [4])) := by
    decide +kernel
  obtain ⟨-, -, -, hbackMade⟩ := hframes made (.made hmade)
  obtain ⟨-, -, -, hbackRead⟩ := hframes read (.read (Prod.ext hread rfl))
  obtain ⟨-, -, -, hbackFound⟩ := hframes found (.split hfound)
  exact ⟨⟨rfl, header, hdecode, hencode⟩, (hheaders late).trans (by decide +kernel),
    ⟨hmade, hbackMade 2 [1, 2, 3] (by decide)⟩, ⟨hread, hbackRead 1 made.encode (by decide)⟩,
    ⟨hfound, hbackFound 0 [] (by decide)⟩⟩

end Frame

end Screencast
