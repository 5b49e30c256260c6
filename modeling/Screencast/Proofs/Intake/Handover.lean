/-
Handing a channel over between two frames.

An intake reads a header and then the payload that it declares, and not a byte
more: a frame that it gives is what it has taken (`next_took`), so after some
frames the channel stands just behind them (`answers_took`). Another intake that
is put over the channel there stands `Abreast` of the first one, and the two
remain so with every call (`Abreast.answers`). What has been reported so far, and
how many frames the first one has given, are all that they differ in.
-/
import Mathlib.Control.Monad.Basic
import Screencast.Proofs.Feed.Gathered
import Screencast.Proofs.Handshake.Twin
import Screencast.Proofs.Session.Intact
import Screencast.Proofs.Session.Twin

namespace Screencast.Intake

open Feed

/-! ## What a call takes -/

/-- An intake that answers anything but the end was not finished. -/
theorem unfinished_of_next {intake last : Intake} {answer : Except WireError (Option Frame)}
    (h : intake.next = (answer, last)) (hne : answer ≠ .ok none) : intake.finished = false := by
  cases hfinished : intake.finished with
  | false => rfl
  | true =>
    rw [next_of_finished hfinished] at h
    cases h
    exact absurd rfl hne

/-- A frame that is given is what has been taken. -/
theorem next_took {intake last : Intake} {frame : Frame}
    (h : intake.next = (.ok (some frame), last)) : Took intake.feed last.feed frame.encode := by
  obtain ⟨feed', hsequel, hsignals, hnext⟩ := next_eq (unfinished_of_next h nofun)
  rw [h] at hnext
  rcases hframe : Signal.frame intake.limit intake.feed.signals with ⟨e | _ | found, rest⟩
  · rw [hframe] at hnext
    cases hnext
  · rw [hframe] at hnext
    cases hnext
  · obtain ⟨-, hencode⟩ := Signal.frame_eq_ok hframe
    rw [hframe] at hnext hsignals
    cases hnext
    refine hsequel.took ?_
    rw [hencode, hsignals]

/-- Of a frame that is too large the header has been taken, and nothing behind it. -/
theorem next_tooLarge {intake last : Intake} {size max : Nat}
    (h : intake.next = (.error (.payloadTooLarge size max), last)) :
    ∃ header : Frame.Header, header.size.toNat = size ∧ max = intake.limit ∧
      intake.limit < size ∧ Took intake.feed last.feed header.encode := by
  obtain ⟨feed', hsequel, hsignals, hnext⟩ := next_eq (unfinished_of_next h nofun)
  rw [h] at hnext
  rcases hframe : Signal.frame intake.limit intake.feed.signals with ⟨e | _ | found, rest⟩
  · rw [hframe] at hnext hsignals
    cases hnext
    -- Of the ways to miss a frame this is the one in which its header has come and is refused.
    rcases Signal.frame_eq_error hframe with ⟨part, after, -, -, -, -, he⟩ |
      ⟨header, part, after, -, -, -, -, he⟩ | ⟨header, hlimit, hheader, he⟩ | ⟨fault, he, -⟩
    · cases he
    · cases he
    · cases he
      refine ⟨header, rfl, rfl, hlimit, hsequel.took ?_⟩
      rw [hheader, hsignals]
    · cases he
  · rw [hframe] at hnext
    cases hnext
  · rw [hframe] at hnext
    cases hnext

/-- An answer that is no frame finishes an intake. -/
theorem finished_of_next {intake last : Intake} {answer : Except WireError (Option Frame)}
    (h : intake.next = (answer, last)) (hno : ∀ frame, answer ≠ .ok (some frame)) :
    last.finished = true := by
  unfold next at h
  split at h
  · next hfinished =>
    cases h
    exact hfinished
  · split at h
    · next frame feed' _ =>
      cases h
      exact absurd rfl (hno frame)
    · cases h
      rfl

/-- **Frames that are given are what has been taken**, and nothing else. -/
theorem answers_took {intake reader : Intake} {frames : List Frame}
    (hopen : intake.finished = false)
    (h : answers next frames.length intake =
      (frames.map fun frame => .ok (some frame), reader)) :
    Took intake.feed reader.feed (frames.flatMap Frame.encode) ∧
      reader.limit = intake.limit ∧ reader.finished = false := by
  induction frames generalizing intake with
  | nil =>
    cases h
    exact ⟨.nil _, rfl, hopen⟩
  | cons frame more ih =>
    rw [List.length_cons, answers_succ] at h
    rcases hnext : intake.next with ⟨answer, behind⟩
    rw [hnext] at h
    obtain ⟨hanswers, hreader⟩ := Prod.mk.inj h
    obtain ⟨rfl, hmore⟩ := List.cons.inj hanswers
    -- The intake behind the first frame is still open, so the hypothesis is about it.
    obtain ⟨htook, hlimit, hreader⟩ := ih (unfinished_of_frame hnext) (Prod.ext hmore hreader)
    obtain ⟨-, -, hlimit'⟩ := next_eq_frame hnext
    exact ⟨(next_took hnext).append htook, hlimit.trans hlimit', hreader⟩

/-! ## Two intakes at the same byte -/

/-- Two intakes that take the same frames, and over whose channels as many bytes have been
consumed. -/
structure Abreast (first second : Intake) : Prop where
  twin : Intake.Twin first second
  consumed : first.feed.history.consumed = second.feed.history.consumed

namespace Abreast

variable {first second : Intake}

theorem next (h : Abreast first second) :
    first.next.1 = second.next.1 ∧ Abreast first.next.2 second.next.2 := by
  obtain ⟨hanswer, htwin⟩ := h.twin.next
  refine ⟨hanswer, htwin, ?_⟩
  exact first.next_sequel.consumed_eq second.next_sequel h.twin.feed.signals h.consumed
    htwin.feed.signals

/-- Call by call, intakes at the same byte answer alike and remain at the same byte. -/
theorem answers (h : Abreast first second) (calls : Nat) :
    (Screencast.answers Intake.next calls first).1 =
        (Screencast.answers Intake.next calls second).1 ∧
      Abreast (Screencast.answers Intake.next calls first).2
        (Screencast.answers Intake.next calls second).2 :=
  answers_eq_of_related (fun _ _ hrelated => hrelated.next) h calls

end Abreast

/-! ## Exact intakes -/

/-- The bytes that some frames take in a stream. -/
def wireTotal : List Frame → Nat
  | [] => 0
  | frame :: rest => frame.wireSize + wireTotal rest

theorem length_encodings (frames : List Frame) :
    (frames.flatMap Frame.encode).length = wireTotal frames := by
  induction frames with
  | nil => rfl
  | cons frame rest ih =>
    rw [List.flatMap_cons, List.length_append, frame.length_encode, ih, wireTotal]

/-- What is known of an intake that was put over a feed and has given some frames: it stands just
behind them. -/
structure Exact (feed : Feed) (limit : Nat) (frames : List Frame) (reader : Intake) : Prop where
  /-- The bytes taken are those of the frames. -/
  taken : Took feed reader.feed (frames.flatMap Frame.encode)
  consumed : reader.feed.history.consumed = feed.history.consumed + wireTotal frames
  /-- A new intake goes on with the channel as this one would, call by call and byte by byte. -/
  handover : ∀ later,
    let successor : Intake := { feed := reader.feed, limit }
    (answers next later successor).1 = (answers next later reader).1 ∧
      Abreast (answers next later successor).2 (answers next later reader).2
  /-- Of a frame that is too large the header is taken, and nothing else. -/
  tooLarge : ∀ size max last, reader.next = (.error (.payloadTooLarge size max), last) →
    max = limit ∧ limit < size ∧
      last.feed.history.consumed = reader.feed.history.consumed + 12 ∧
      ∃ header : Frame.Header, header.size.toNat = size ∧
        Took reader.feed last.feed header.encode
  /-- After an answer that is no frame the channel is left alone. -/
  finished : ∀ answer last, reader.next = (answer, last) →
    (∀ frame, answer ≠ .ok (some frame)) →
    last.finished = true ∧
      ∀ later, answers next later last = (List.replicate later (.ok none), last)

/-- **An intake never reads ahead.** Whenever it has given some frames, however their bytes were cut
and whatever interrupted the reads, it has taken their bytes and no others, and the channel may be
handed over: a new intake gives from there on what this one would have given, and takes the same
bytes. Of a frame that it refuses it has taken the header, and once it is finished it does not
touch the channel. -/
theorem exact_of_answers {feed : Feed} {limit : Nat} {frames : List Frame} {reader : Intake}
    (h : answers next frames.length { feed, limit } =
      (frames.map fun frame => .ok (some frame), reader)) :
    Exact feed limit frames reader := by
  obtain ⟨htook, hlimit, hopen⟩ := answers_took rfl h
  refine ⟨htook, ?_, ?_, ?_, ?_⟩
  · rw [htook.consumed, length_encodings]
  · intro later successor
    -- The reader has the limit that it was given and is not finished, like the new one.
    have habreast : Abreast successor reader :=
      ⟨⟨.refl _, hlimit.symm, hopen.symm⟩, rfl⟩
    exact habreast.answers later
  · intro size max last hnext
    obtain ⟨header, hsize, hmax, hlt, hheader⟩ := next_tooLarge hnext
    rw [hlimit] at hmax hlt
    refine ⟨hmax, hlt, ?_, header, hsize, hheader⟩
    rw [hheader.consumed, Frame.Header.length_encode]
    rfl
  · intro answer last hnext hno
    have hfinished := finished_of_next hnext hno
    exact ⟨hfinished, answers_of_fixed (next_of_finished hfinished)⟩

/-- Two frames that come in pieces with an interruption between them, and a third one that is too
large, in the same piece as the end of the second. -/
theorem exact_of_answers_pieces :
    let feed : Feed := {
      script := [.data [0x80, 0, 0, 0, 0], .fault (.ofKind .interrupted),
        .data [0, 0, 7, 0, 0, 0, 2, 0xAB], .data [0xCD, 0, 0, 0, 0, 0, 0, 0, 9], .data [],
        .data [0, 0, 0, 1, 0xEE, 0, 0, 0, 0, 0, 0, 0, 9, 0, 0, 0, 3, 1, 2, 3]]
      perRead := some ⟨7, by decide⟩ }
    let frames : List Frame :=
      [⟨⟨true, false, 7, 2⟩, [0xAB, 0xCD]⟩, ⟨⟨false, false, 9, 1⟩, [0xEE]⟩]
    let reader := (answers next 2 { feed, limit := 2 }).2
    answers next 2 { feed, limit := 2 } = (frames.map fun frame => .ok (some frame), reader) ∧
      reader.next.1 = .error (.payloadTooLarge 3 2) ∧ Exact feed 2 frames reader := by
  intro feed frames reader
  have hframes : answers next 2 { feed, limit := 2 } =
      (frames.map fun frame => .ok (some frame), reader) := by decide +kernel
  exact ⟨hframes, by decide +kernel, exact_of_answers hframes⟩

end Screencast.Intake
