/-
What comes of the parts that a sender sends, whatever the drain does.

A sender keeps its buffer from one part to the next, whether or not a part could
be sent. Of what was in it before, nothing is sent again: a part is sent as if
its bytes had been sent past the buffer (`send_eq_sendBytes`, `sendBytes_eq`).
So a stream of which every part could be sent has been taken whole
(`sendEach_taken`), and the calls that `Drain.send_sends` describes are about
one part alone: `Turn` collects what can be read off them, and `sendEach_turns`
puts the turns of a whole run one after another.
-/
import Mathlib.Control.Monad.Basic
import Screencast.Broadcast.Sender
import Screencast.Proofs.Drain.Calls

namespace Screencast.Broadcast

open Drain (Call Calls Sends)

namespace Sender

/-! ## The buffer -/

theorem sendBytes_eq (sender : Sender) (bytes : List UInt8) :
    sender.sendBytes bytes = ((sender.drain.send bytes).1.mapError .io,
      { sender with drain := (sender.drain.send bytes).2 }) := by
  unfold sendBytes
  generalize sender.drain.send bytes = run
  rfl

/-- Taking the buffer out and putting it back comes to nothing. -/
theorem sendBuffer_eq_sendBytes (sender : Sender) :
    sender.sendBuffer = sender.sendBytes sender.buffer := by
  have hdrain : sender.clear.drain = sender.drain := rfl
  rw [sendBuffer, sendBytes_eq, sendBytes_eq, hdrain]

/-- A part of two pieces fills the buffer with them, and nothing that was in it before stays. -/
theorem clear_add_add (sender : Sender) (front back : List UInt8) :
    (sender.clear.add front).add back = { sender with buffer := front ++ back } :=
  rfl

/-- A part is sent as its bytes are, past a buffer that holds whatever it may. -/
theorem send_eq_sendBytes (sender : Sender) (part : Part) :
    ∃ buffer, sender.send part = { sender with buffer }.sendBytes part.encode := by
  cases part with
  | probe =>
    refine ⟨sender.buffer, ?_⟩
    rw [send, Part.encode]
  | announcement told =>
    refine ⟨told.encode, ?_⟩
    rw [send, sendBuffer_eq_sendBytes, clear_add_add, Part.encode, Announcement.encode]
  | frame sent =>
    refine ⟨sent.encode, ?_⟩
    rw [send, sendBuffer_eq_sendBytes, clear_add_add, Part.encode, Frame.encode]

/-- Sends one part after another, whether or not the parts before could be sent. -/
def sendEach (sender : Sender) : List Part → List (Except WireError Unit) × Sender
  | [] => ([], sender)
  | part :: later =>
    let (result, sent) := sender.send part
    let (results, last) := sent.sendEach later
    (result :: results, last)

end Sender

/-! ## Whole streams -/

/-- The parts of a stream in the order in which they are sent. -/
def parts (probe : Bool) (announcement : Announcement) (frames : List Frame) : List Part :=
  (if probe then [.probe] else []) ++ .announcement announcement :: frames.map .frame

theorem flatMap_parts (probe : Bool) (announcement : Announcement) (frames : List Frame) :
    (parts probe announcement frames).flatMap Part.encode = stream probe announcement frames := by
  cases probe <;> simp [parts, stream, Part.encode, List.flatMap_map]

namespace Sender

/-- A part that could be sent has been taken whole. -/
theorem send_taken {sender : Sender} {part : Part} (h : (sender.send part).1 = .ok ()) :
    (sender.send part).2.drain.taken = sender.drain.taken ++ part.encode := by
  obtain ⟨buffer, hsend⟩ := sender.send_eq_sendBytes part
  rw [hsend, sendBytes_eq] at h
  rw [hsend, sendBytes_eq]
  refine (sender.drain.send_took part.encode).whole ?_
  dsimp only at h
  cases hresult : (sender.drain.send part.encode).1 with
  | error fault =>
    rw [hresult] at h
    cases h
  | ok => rfl

/-- **A stream of which every part could be sent has been taken whole.** -/
theorem sendEach_taken {sender : Sender} {parts : List Part}
    (h : ∀ result ∈ (sender.sendEach parts).1, result = .ok ()) :
    (sender.sendEach parts).2.drain.taken = sender.drain.taken ++ parts.flatMap Part.encode := by
  induction parts generalizing sender with
  | nil => rw [sendEach, List.flatMap_nil, List.append_nil]
  | cons part later ih =>
    have hfirst : (sender.send part).1 = .ok () := h _ List.mem_cons_self
    have hlater := ih fun result hmem => h result (List.mem_cons_of_mem _ hmem)
    rw [List.flatMap_cons, ← List.append_assoc, ← send_taken hfirst]
    exact hlater

end Sender

/-! ## Turns -/

/-- One part and the calls that it took to send it. -/
structure Turn where
  part : Part
  calls : List Call
  result : Except WireError Unit

namespace Turn

/-- The bytes of the part that were taken. -/
def took (turn : Turn) : List UInt8 := turn.calls.flatMap Call.took

/-- What holds of a part that is sent, however the drain answers. -/
structure Regular (turn : Turn) : Prop where
  /-- Each call is about the bytes of this part that have not been taken: they are offered, or there
  are none and the drain is flushed. -/
  about : ∀ front call back, turn.calls = front ++ call :: back →
    ∃ left, turn.part.encode = front.flatMap Call.took ++ left ∧ call.About left
  /-- What is taken is a part from the front. -/
  front : turn.took <+: turn.part.encode
  /-- All is taken when this succeeds, and when it fails in a flush. -/
  whole : turn.result = .ok () ∨ (∃ answer, turn.calls.getLast? = some (.flush answer)) →
    turn.took = turn.part.encode
  /-- It succeeds only after a flush that succeeds. -/
  flushed : turn.result = .ok () → turn.calls.getLast? = some (.flush (.ok ()))
  /-- A write that takes nothing is reported. -/
  stalled : ∀ offered, Call.write offered (.ok 0) ∈ turn.calls →
    turn.result = .error (.io (.ofKind .writeZero))
  /-- After an interruption the same is asked for once more. -/
  again : ∀ front call back fault, turn.calls = front ++ call :: back → call.fault? = some fault →
    fault.isInterrupted = true → ∃ next later, back = next :: later ∧ next.request = call.request
  /-- No interruption is reported. -/
  unreported : ∀ error, turn.result = .error error →
    ∃ fault, error = .io fault ∧ fault.isInterrupted = false
  /-- Any other fault is reported. -/
  reported : ∀ call ∈ turn.calls, ∀ fault, call.fault? = some fault → fault.isInterrupted = false →
    turn.result = .error (.io fault)

/-- A part whose bytes are sent as they should be is sent as it should be. -/
theorem regular_of_sends {part : Part} {calls : List Call} {result : Except Fault Unit}
    (h : Sends part.encode calls result) : Regular ⟨part, calls, result.mapError .io⟩ := by
  have hresult {call : Call} (hcall : call ∈ calls) {fault : Fault}
      (hverdict : call.verdict = some (.error fault)) :
      result.mapError WireError.io = .error (.io fault) := by
    rw [h.result_eq hcall hverdict]
    rfl
  have hflushed (hok : result.mapError WireError.io = .ok ()) :
      calls.getLast? = some (.flush (.ok ())) := by
    cases result with
    | error fault => cases hok
    | ok => exact h.flushed
  refine ⟨fun front call back hcalls => h.about hcalls, h.took_front, ?_, hflushed, ?_,
    fun front call back fault hcalls => h.again hcalls, ?_, ?_⟩
  · -- All is taken: it is a flush that sending ended with.
    rintro (hok | ⟨answer, hlast⟩)
    · exact h.took_eq (hflushed hok) rfl
    · exact h.took_eq hlast rfl
  · -- A write that takes nothing.
    intro offered hcall
    exact hresult hcall rfl
  · -- No interruption.
    intro error herror
    cases result with
    | error fault =>
      obtain rfl : WireError.io fault = error := Except.error.inj herror
      exact ⟨fault, rfl, h.not_interrupted⟩
    | ok => cases herror
  · -- Any other fault.
    intro call hcall fault hfault hother
    have hverdict := Call.verdict_of_fault hfault
    rw [hother, if_neg Bool.false_ne_true] at hverdict
    exact hresult hcall hverdict

end Turn

/-! ## Runs -/

namespace Sender

/-- One part that is sent is one turn. -/
theorem send_turn (sender : Sender) (part : Part) :
    ∃ turn : Turn, turn.part = part ∧ (sender.send part).1 = turn.result ∧
      Calls sender.drain turn.calls (sender.send part).2.drain ∧ turn.Regular := by
  obtain ⟨buffer, hsend⟩ := sender.send_eq_sendBytes part
  obtain ⟨calls, hcalls, hsends⟩ := sender.drain.send_sends part.encode
  rw [hsend, sendBytes_eq]
  exact ⟨⟨part, calls, _⟩, rfl, rfl, hcalls, Turn.regular_of_sends hsends⟩

/-- A run is one turn after another. -/
theorem sendEach_calls (sender : Sender) (parts : List Part) :
    ∃ turns : List Turn, turns.map Turn.part = parts ∧
      (sender.sendEach parts).1 = turns.map Turn.result ∧
      Calls sender.drain (turns.flatMap Turn.calls) (sender.sendEach parts).2.drain ∧
      ∀ turn ∈ turns, turn.Regular := by
  induction parts generalizing sender with
  | nil => exact ⟨[], rfl, rfl, .none _, by simp⟩
  | cons part later ih =>
    obtain ⟨turn, hpart, hresult, hcalls, hregular⟩ := sender.send_turn part
    obtain ⟨turns, hparts, hresults, hlater, hrest⟩ := ih (sender.send part).2
    refine ⟨turn :: turns, ?_, ?_, hcalls.append hlater, ?_⟩
    · rw [List.map_cons, hpart, hparts]
    · rw [List.map_cons, ← hresult, ← hresults]
      rfl
    · rintro other (_ | ⟨_, hother⟩)
      · exact hregular
      · exact hrest other hother

/-- **Whatever a drain does, what it takes of a run is a part of each piece of the stream from the
front, in the order in which they are sent, and each is sent as it should be.** -/
theorem sendEach_turns (sender : Sender) (parts : List Part) :
    ∃ turns : List Turn, turns.map Turn.part = parts ∧
      (sender.sendEach parts).1 = turns.map Turn.result ∧
      Calls sender.drain (turns.flatMap Turn.calls) (sender.sendEach parts).2.drain ∧
      (sender.sendEach parts).2.drain.taken = sender.drain.taken ++ turns.flatMap Turn.took ∧
      ∀ turn ∈ turns, turn.Regular := by
  obtain ⟨turns, hparts, hresults, hcalls, hregular⟩ := sender.sendEach_calls parts
  refine ⟨turns, hparts, hresults, hcalls, ?_, hregular⟩
  rw [hcalls.taken_eq, List.flatMap_assoc]
  rfl

/-- An announcement is cut short after 23 bytes, a frame fails in its flush, and the probe after them
finds a drain that takes nothing: no byte of a part shows up again in a later one. -/
theorem sendEach_turns_faults :
    let told : Announcement := ⟨"Pixel", ⟨.h264, 1280, 720⟩⟩
    let sent : Frame := ⟨⟨false, true, 7, 2⟩, [0xAB, 0xCD]⟩
    let drain : Drain := {
      writePlan := [.takes 1, .takes 20, .fails (.ofKind .interrupted), .takes 3,
        .fails (.ofKind .connectionReset), .takes 9, .takes 9, .takes 0]
      flushPlan := [some (.ofKind .interrupted), none, some (.ofKind .brokenPipe)] }
    let sender : Sender := { drain, buffer := [7, 7] }
    let parts : List Part := [.probe, .announcement told, .frame sent, .probe]
    let run := sender.sendEach parts
    run.1 = [.ok (), .error (.io (.ofKind .connectionReset)), .error (.io (.ofKind .brokenPipe)),
      .error (.io (.ofKind .writeZero))] ∧
    run.2.drain.taken = 0 :: told.encode.take 23 ++ sent.encode ∧
    ∃ turns : List Turn, turns.map Turn.part = parts ∧ run.1 = turns.map Turn.result ∧
      run.2.drain.taken = turns.flatMap Turn.took ∧ ∀ turn ∈ turns, turn.Regular := by
  intro told sent drain sender parts run
  obtain ⟨turns, hparts, hresults, -, htaken, hregular⟩ := sender.sendEach_turns parts
  have hnew : sender.drain.taken = [] := rfl
  rw [hnew, List.nil_append] at htaken
  exact ⟨by decide +kernel, by decide +kernel, turns, hparts, hresults, htaken, hregular⟩

end Sender

end Screencast.Broadcast
