/-
What bytes are written to: a file, a socket or anything else that takes them.

A drain need not take all that it is offered. How it answers its next writes
and flushes is listed beforehand; past the list it takes everything. What it
has taken, and how often it was called, is kept.

`writeAll` offers bytes until all are taken and passes over interruptions; a
write that takes nothing ends it. `flushAll` makes an interrupted flush again,
and `send` is the one after the other.
-/
import Screencast.Fault

namespace Screencast

/-- How a drain answers a write. -/
inductive Drain.Answer
  /-- It takes at most so many bytes. -/
  | takes (most : Nat)
  /-- It fails and takes nothing. -/
  | fails (fault : Fault)
  deriving DecidableEq, Repr

/-- Something that bytes are written to. -/
structure Drain where
  /-- The answers to the next writes. -/
  writePlan : List Drain.Answer := []
  /-- The answers to the next flushes: what they fail with, if they fail. -/
  flushPlan : List (Option Fault) := []
  /-- The bytes taken so far. -/
  taken : List UInt8 := []
  /-- The writes made so far. -/
  writes : Nat := 0
  /-- The flushes made so far. -/
  flushes : Nat := 0
  deriving DecidableEq, Repr

namespace Drain

/-! ## Single calls -/

/-- The drain after a write of which it took at most `most` bytes, and how many it took. -/
def accept (drain : Drain) (most : Nat) (bytes : List UInt8) : Except Fault Nat × Drain :=
  let front := bytes.take most
  (.ok front.length, { drain with taken := drain.taken ++ front })

/-- Offers bytes once, and says how many were taken. -/
def write (drain : Drain) (bytes : List UInt8) : Except Fault Nat × Drain :=
  let called := { drain with writes := drain.writes + 1, writePlan := drain.writePlan.tail }
  match drain.writePlan with
  | [] => called.accept bytes.length bytes
  | .takes most :: _ => called.accept most bytes
  | .fails fault :: _ => (.error fault, called)

/-- Asks once for what was taken to be passed on. -/
def flush (drain : Drain) : Except Fault Unit × Drain :=
  let called := { drain with flushes := drain.flushes + 1, flushPlan := drain.flushPlan.tail }
  match drain.flushPlan with
  | some fault :: _ => (.error fault, called)
  | none :: _ | [] => (.ok (), called)

theorem writePlan_write (drain : Drain) (bytes : List UInt8) :
    (drain.write bytes).2.writePlan = drain.writePlan.tail := by
  unfold write
  split <;> rfl

theorem flushPlan_flush (drain : Drain) : drain.flush.2.flushPlan = drain.flushPlan.tail := by
  unfold flush
  split <;> rfl

theorem writePlan_ne_nil_of_write_error {drain : Drain} {bytes : List UInt8} {fault : Fault}
    (h : (drain.write bytes).1 = .error fault) : drain.writePlan ≠ [] := by
  intro hnil
  simp [write, hnil, accept] at h

theorem flushPlan_ne_nil_of_flush_error {drain : Drain} {fault : Fault}
    (h : drain.flush.1 = .error fault) : drain.flushPlan ≠ [] := by
  intro hnil
  simp [flush, hnil] at h

/-! ## Calls until they are done -/

/-- Offers bytes until all of them are taken. A write that takes nothing ends it with `stalled`. -/
def writeAll (stalled : Fault) (drain : Drain) (bytes : List UInt8) :
    Except Fault Unit × Drain :=
  match _hbytes : bytes with
  | [] => (.ok (), drain)
  | b :: rest =>
    match _hwrite : drain.write (b :: rest) with
    | (.ok 0, drain') => (.error stalled, drain')
    -- Of the `n + 1` bytes taken, `b` was the first.
    | (.ok (n + 1), drain') => writeAll stalled drain' (rest.drop n)
    | (.error fault, drain') =>
      if fault.isInterrupted then writeAll stalled drain' (b :: rest) else (.error fault, drain')
termination_by bytes.length + drain.writePlan.length
decreasing_by
  all_goals
    have hplan := writePlan_write drain (b :: rest)
    rw [_hwrite] at hplan
    subst _hbytes
  · rw [hplan, List.length_tail, List.length_cons, List.length_drop]
    omega
  · have hne := writePlan_ne_nil_of_write_error (by rw [_hwrite])
    have := List.length_pos_iff.mpr hne
    rw [hplan, List.length_tail]
    omega

/-- Flushes until it is not interrupted. -/
def flushAll (drain : Drain) : Except Fault Unit × Drain :=
  match _hflush : drain.flush with
  | (.ok (), drain') => (.ok (), drain')
  | (.error fault, drain') =>
    if fault.isInterrupted then flushAll drain' else (.error fault, drain')
termination_by drain.flushPlan.length
decreasing_by
  have hplan := flushPlan_flush drain
  have hne := flushPlan_ne_nil_of_flush_error (by rw [_hflush])
  have := List.length_pos_iff.mpr hne
  rw [_hflush] at hplan
  rw [hplan, List.length_tail]
  omega

/-- What a stream that is written reports when the drain takes nothing. -/
def stalledStream : Fault := .ofKind .writeZero

/-- What a file that is written reports when the drain takes nothing. -/
def stalledFile : Fault := ⟨.writeZero, "failed to write whole buffer"⟩

/-- Writes bytes of a stream and flushes. -/
def send (drain : Drain) (bytes : List UInt8) : Except Fault Unit × Drain :=
  match drain.writeAll stalledStream bytes with
  | (.ok (), drain) => drain.flushAll
  | failed => failed

end Drain

end Screencast
