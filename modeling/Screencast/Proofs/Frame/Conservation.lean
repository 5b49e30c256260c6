/-
What becomes of the bytes in a buffer of frames.

Bytes and frames are added to a buffer, and frames are taken off it, while more
may come or after the end of the stream. What has been taken off, what has been
given up and what is still buffered make up all that was added, in the order in
which it came (`history_conserves`): one operation changes the sum by what it
adds (`perform_conserves`). What a single answer says about the buffer is stated
by `Event.Truthful`, which every operation keeps to (`perform_truthful`).
-/
import Mathlib.Control.Monad.Basic
import Screencast.Proofs.Frame.Reassembly

namespace Screencast

namespace Frame

/-- The size of the structure that a buffer ends in the middle of, and how much of it is there. -/
def shortage (buffer : List UInt8) : Nat × Nat :=
  if buffer.length < Header.wireSize then (Header.wireSize, buffer.length)
  else (Header.declared buffer, buffer.length - Header.wireSize)

theorem ending_of_incomplete {limit : Nat} {buffer : List UInt8} (h : Incomplete limit buffer)
    (hne : buffer ≠ []) :
    ending limit buffer = .error (.truncated (shortage buffer).1 (shortage buffer).2) := by
  unfold ending shortage
  rw [if_neg hne]
  by_cases hshort : buffer.length < Header.wireSize
  · rw [if_pos hshort, if_pos hshort]
  · have hlimit := (h (by omega)).1
    rw [if_neg hshort, if_neg hshort, if_neg (by omega)]

/-- Of an incomplete structure less is there than it takes. -/
theorem shortage_lt {limit : Nat} {buffer : List UInt8} (h : Incomplete limit buffer) :
    (shortage buffer).2 < (shortage buffer).1 := by
  unfold shortage
  by_cases hshort : buffer.length < Header.wireSize
  · rw [if_pos hshort]
    exact hshort
  · rw [if_neg hshort]
    exact (h (by omega)).2

end Frame

namespace Reassembly

/-- What `last` does with a buffer, by what the buffer holds. -/
inductive Last (r : Reassembly) : Except WireError (Option Frame) × Reassembly → Prop
  | taken {frame : Frame} {rest : List UInt8} (hbuffer : r.buffer = frame.encode ++ rest)
      (hframe : frame.Accepted r.limit) : Last r (.ok (some frame), { r with buffer := rest })
  | refused (hheader : Frame.Header.wireSize ≤ r.buffer.length)
      (hlimit : r.limit < Frame.Header.declared r.buffer) :
      Last r (.error (.payloadTooLarge (Frame.Header.declared r.buffer) r.limit), r)
  | ended (h : r.buffer = []) : Last r (.ok none, r)
  | givenUp (h : Frame.Incomplete r.limit r.buffer) :
      Last r (.error (.truncated (Frame.shortage r.buffer).1 (Frame.shortage r.buffer).2),
        { r with buffer := [] })

theorem last_last (r : Reassembly) : Last r r.last := by
  have hnext := r.next_next
  by_cases hwaits : Frame.Incomplete r.limit r.buffer
  · rw [last_of_incomplete hwaits]
    by_cases hempty : r.buffer = []
    · have hsame : { r with buffer := [] } = r := by rw [← hempty]
      rw [hsame, (Frame.ending_eq_ok_none_iff _ _).mpr hempty]
      exact .ended hempty
    · rw [Frame.ending_of_incomplete hwaits hempty]
      exact .givenUp hwaits
  · -- Without an incomplete frame, no more is known at the end of a stream than before it.
    rcases hrun : r.next with ⟨answer, after⟩
    rw [hrun] at hnext
    unfold last
    rw [hrun]
    cases hnext with
    | taken hbuffer hframe => exact .taken hbuffer hframe
    | refused hheader hlimit => exact .refused hheader hlimit
    | waiting h => exact absurd h hwaits

/-! ## Operations -/

/-- Something that is done with a buffer. -/
inductive Operation
  | push (bytes : List UInt8)
  | pushFrame (frame : Frame)
  /-- The next frame is asked for, while more bytes may come. -/
  | next
  /-- The next frame is asked for, after the end of the stream. -/
  | last
  deriving DecidableEq, Repr

/-- What comes of an operation. -/
inductive Answer
  /-- Bytes were added. -/
  | done
  /-- A frame was asked for. -/
  | gave (result : Except WireError (Option Frame))
  deriving DecidableEq, Repr

/-- The bytes that an operation adds to a buffer. -/
def Operation.added : Operation → List UInt8
  | push bytes => bytes
  | pushFrame frame => frame.encode
  | next | last => []

/-- Does something with a buffer. -/
def perform (r : Reassembly) : Operation → Answer × Reassembly
  | .push bytes => (.done, r.push bytes)
  | .pushFrame frame => (.done, r.pushFrame frame)
  | .next => (.gave r.next.1, r.next.2)
  | .last => (.gave r.last.1, r.last.2)

/-- Does one thing after another. -/
def performAll (r : Reassembly) (operations : List Operation) : Reassembly :=
  operations.foldl (fun r operation => (r.perform operation).2) r

/-- Something that was done with a buffer, and what came of it. -/
structure Event where
  operation : Operation
  before : Reassembly
  answer : Answer
  after : Reassembly
  deriving DecidableEq, Repr

/-- What is done with a buffer, as an event. -/
def event (r : Reassembly) (operation : Operation) : Event :=
  ⟨operation, r, (r.perform operation).1, (r.perform operation).2⟩

/-- What is done with a buffer, one thing after another. -/
def history (r : Reassembly) : List Operation → List Event
  | [] => []
  | operation :: rest => r.event operation :: (r.perform operation).2.history rest

/-- The bytes that leave the buffer: those of the frame that is handed out, or all of them where
the stream has ended in the middle of a frame. -/
def Event.released (event : Event) : List UInt8 :=
  match event.answer with
  | .gave (.ok (some frame)) => frame.encode
  | .gave (.error (.truncated _ _)) => event.before.buffer
  | .gave (.ok none) | .gave (.error _) | .done => []

/-- What an answer says about the buffer before and after it. -/
structure Event.Truthful (event : Event) : Prop where
  /-- Waiting for more changes nothing. -/
  waiting : event.operation = .next → event.answer = .gave (.ok none) → event.after = event.before
  /-- Refusing a frame changes nothing. -/
  refused : ∀ size max, event.answer = .gave (.error (.payloadTooLarge size max)) →
    event.after = event.before
  /-- Only a stream that ends with nothing buffered ends cleanly. -/
  ended : event.operation = .last → event.answer = .gave (.ok none) → event.before.buffer = []
  /-- Only at the end of a stream something is missing, and then it is known how much. -/
  truncated : ∀ expected received,
    event.answer = .gave (.error (.truncated expected received)) →
      event.operation = .last ∧ event.after.buffer = [] ∧
        (expected, received) = Frame.shortage event.before.buffer ∧ received < expected
  /-- A header is decoded only where there are enough bytes for one. -/
  measured : ∀ expected actual,
    event.answer ≠ .gave (.error (.malformedHeader expected actual))

/-! ## One operation -/

/-- Bytes leave a buffer at the front, and are added at the end. -/
theorem perform_conserves (r : Reassembly) (operation : Operation) :
    (r.event operation).released ++ (r.perform operation).2.buffer =
      r.buffer ++ operation.added := by
  unfold event Event.released
  cases operation with
  | push bytes => rfl
  | pushFrame frame => rfl
  | next =>
    have hnext := r.next_next
    show _ = r.buffer ++ []
    rw [List.append_nil]
    simp only [perform]
    generalize r.next = run at hnext ⊢
    cases hnext with
    | taken hbuffer hframe => exact hbuffer.symm
    | refused hheader hlimit => rfl
    | waiting h => rfl
  | last =>
    have hlast := r.last_last
    show _ = r.buffer ++ []
    rw [List.append_nil]
    simp only [perform]
    generalize r.last = run at hlast ⊢
    cases hlast with
    | taken hbuffer hframe => exact hbuffer.symm
    | refused hheader hlimit => rfl
    | ended h => rfl
    | givenUp h => exact List.append_nil _

theorem perform_truthful (r : Reassembly) (operation : Operation) :
    (r.event operation).Truthful := by
  unfold event
  cases operation with
  | push bytes | pushFrame frame =>
    -- Adding bytes is answered by no result at all.
    constructor <;> intros <;> simp_all [perform]
  | next =>
    have hnext := r.next_next
    simp only [perform]
    generalize r.next = run at hnext ⊢
    cases hnext with
    | taken hbuffer hframe => constructor <;> simp
    | refused hheader hlimit => constructor <;> simp
    | waiting h => constructor <;> simp
  | last =>
    have hlast := r.last_last
    simp only [perform]
    generalize r.last = run at hlast ⊢
    cases hlast with
    | taken hbuffer hframe => constructor <;> simp
    | refused hheader hlimit => constructor <;> simp
    | ended h => constructor <;> simp [h]
    | givenUp h =>
      constructor
      case truncated =>
        intro expected received hanswer
        obtain ⟨rfl, rfl⟩ : (Frame.shortage r.buffer).1 = expected ∧
            (Frame.shortage r.buffer).2 = received := by simpa using hanswer
        exact ⟨rfl, rfl, rfl, Frame.shortage_lt h⟩
      all_goals simp

/-! ## All that is done with a buffer -/

/-- What leaves a buffer and what is left in it is what was there and what was added. -/
theorem history_conserves (r : Reassembly) (operations : List Operation) :
    (r.history operations).flatMap Event.released ++ (r.performAll operations).buffer =
      r.buffer ++ operations.flatMap Operation.added := by
  induction operations generalizing r with
  | nil => simp [history, performAll]
  | cons operation rest ih =>
    calc ((r.history (operation :: rest)).flatMap Event.released) ++
          (r.performAll (operation :: rest)).buffer
        = (r.event operation).released ++
            (((r.perform operation).2.history rest).flatMap Event.released ++
              ((r.perform operation).2.performAll rest).buffer) := by
          rw [← List.append_assoc]
          rfl
      _ = (r.event operation).released ++ (r.perform operation).2.buffer ++
            rest.flatMap Operation.added := by rw [ih, List.append_assoc]
      _ = r.buffer ++ (operation :: rest).flatMap Operation.added := by
          rw [perform_conserves, List.append_assoc, List.flatMap_cons]

theorem history_truthful (r : Reassembly) (operations : List Operation) :
    ∀ event ∈ r.history operations, event.Truthful := by
  induction operations generalizing r with
  | nil => simp [history]
  | cons operation rest ih =>
    intro event hmem
    rcases List.mem_cons.mp hmem with rfl | hlater
    · exact r.perform_truthful operation
    · exact ih _ event hlater

/-- **Nothing is lost, repeated or made up.** Whatever is done with a buffer that is empty at first,
the frames that were handed out, what was given up and what is still buffered make up the bytes that
were added; and every answer is true of the buffer. -/
theorem bytes_conserved (limit : Nat) (operations : List Operation) :
    let start : Reassembly := { limit }
    (start.history operations).flatMap Event.released ++ (start.performAll operations).buffer =
        operations.flatMap Operation.added ∧
      ∀ event ∈ start.history operations, event.Truthful := by
  intro start
  refine ⟨?_, start.history_truthful operations⟩
  have hconserved := start.history_conserves operations
  rwa [show start.buffer = [] from rfl, List.nil_append] at hconserved

/-- A frame of two bytes comes in two pieces and is handed out; of the same frame again all but the
last byte comes before the stream ends, and it is given up. -/
theorem bytes_conserved_given_up :
    let sent : Frame := ⟨⟨false, true, 7, 2⟩, [0xAB, 0xCD]⟩
    let operations : List Operation :=
      [.push (sent.encode.take 5), .next, .push (sent.encode.drop 5 ++ sent.encode.take 13), .next,
        .next, .last, .last]
    let start : Reassembly := { limit := 2 }
    let givenUp : Event := {
      operation := .last
      before := { limit := 2, buffer := sent.encode.take 13 }
      answer := .gave (.error (.truncated 2 1))
      after := start }
    givenUp ∈ start.history operations ∧ givenUp.Truthful ∧
      (start.history operations).flatMap Event.released = sent.encode ++ sent.encode.take 13 ∧
      (start.performAll operations).buffer = [] := by
  intro sent operations start givenUp
  have hmem : givenUp ∈ start.history operations := by decide +kernel
  have hempty : (start.performAll operations).buffer = [] := by decide +kernel
  obtain ⟨hconserved, htruthful⟩ := bytes_conserved 2 operations
  rw [hempty, List.append_nil] at hconserved
  refine ⟨hmem, htruthful givenUp hmem, hconserved.trans ?_, hempty⟩
  decide +kernel

end Reassembly

end Screencast
