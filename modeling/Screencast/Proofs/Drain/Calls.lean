/-
The calls that sending makes of a drain.

`Calls` says which calls lead from one drain to another, and `Sends` what calls
it takes to send some bytes: each is about the bytes that have not been taken
yet, and the first one with a verdict is the last. Sending makes such calls of
every drain (`send_sends`), so what it reports can be read off the last of them,
and what it leaves out or does twice can be read off the others.
-/
import Screencast.Proofs.Drain

namespace Screencast.Drain

/-! ## Calls -/

/-- A call of a drain, and what is answered to it. -/
inductive Call
  | write (offered : List UInt8) (answer : Except Fault Nat)
  | flush (answer : Except Fault Unit)

/-- The calls that lead from one drain to another, each with the answer of the drain as it is then. -/
inductive Calls : Drain → List Call → Drain → Prop
  | none (drain : Drain) : Calls drain [] drain
  | write {drain last : Drain} (offered : List UInt8) {later : List Call}
      (h : Calls (drain.write offered).2 later last) :
      Calls drain (.write offered (drain.write offered).1 :: later) last
  | flush {drain last : Drain} {later : List Call} (h : Calls drain.flush.2 later last) :
      Calls drain (.flush drain.flush.1 :: later) last

namespace Call

/-- The bytes that are taken by a call. -/
def took : Call → List UInt8
  | write offered (.ok n) => offered.take n
  | write _ (.error _) | flush _ => []

/-- The fault that a call is answered with. -/
def fault? : Call → Option Fault
  | write _ (.error fault) | flush (.error fault) => some fault
  | write _ (.ok _) | flush (.ok ()) => none

/-- A call that asks for what there is to do: bytes that are left are offered, and a drain that has
taken all of them is flushed. -/
def About (left : List UInt8) : Call → Prop
  | write offered _ => offered = left ∧ left ≠ []
  | flush _ => left = []

/-- What a call asks for: that bytes be taken, or a flush. -/
def request : Call → Option (List UInt8)
  | write offered _ => some offered
  | flush _ => none

/-- How sending ends with a call, if it ends with it. It goes on when something was taken, and when
the call was interrupted. -/
def verdict : Call → Option (Except Fault Unit)
  | write _ (.ok 0) => some (.error stalledStream)
  | write _ (.ok (_ + 1)) => none
  | flush (.ok ()) => some (.ok ())
  | write _ (.error fault) | flush (.error fault) =>
    if fault.isInterrupted then none else some (.error fault)

/-- Of what a call is about, it takes a part from the front. -/
theorem took_front {call : Call} {left : List UInt8} (h : call.About left) : call.took <+: left := by
  match call, h with
  | write offered (.ok n), h => exact h.1 ▸ List.take_prefix n offered
  | write _ (.error _), _ | flush _, _ => exact List.nil_prefix

/-- A flush is called for when nothing is left. -/
theorem eq_nil_of_request {call : Call} {left : List UInt8} (h : call.About left)
    (hflush : call.request = none) : left = [] := by
  match call with
  | write _ _ => simp [request] at hflush
  | flush _ => exact h

/-- What is left says what a call asks for. -/
theorem request_eq_of_about {call call' : Call} {left : List UInt8} (h : call.About left)
    (h' : call'.About left) : call.request = call'.request := by
  match call, call' with
  | write _ _, write _ _ => exact congrArg some (h.1.trans h'.1.symm)
  | write _ _, flush _ => exact absurd h' h.2
  | flush _, write _ _ => exact absurd h h'.2
  | flush _, flush _ => rfl

/-- A fault takes nothing. -/
theorem took_of_fault {call : Call} {fault : Fault} (h : call.fault? = some fault) :
    call.took = [] := by
  match call with
  | write _ (.error _) | flush _ => rfl
  | write _ (.ok _) => simp [fault?] at h

theorem verdict_of_fault {call : Call} {fault : Fault} (h : call.fault? = some fault) :
    call.verdict = if fault.isInterrupted then none else some (.error fault) := by
  match call with
  | write _ (.ok _) | flush (.ok ()) => simp [fault?] at h
  | write _ (.error _) | flush (.error _) =>
    cases h
    rfl

/-- Sending succeeds with a flush that succeeds. -/
theorem eq_flush_of_verdict {call : Call} (h : call.verdict = some (.ok ())) :
    call = flush (.ok ()) := by
  match call with
  | flush (.ok ()) => rfl
  | write _ (.ok 0) | write _ (.ok (_ + 1)) => simp [verdict] at h
  | write _ (.error _) | flush (.error _) =>
    simp only [verdict] at h
    split at h <;> cases h

/-- Sending does not fail with an interruption. -/
theorem not_interrupted_of_verdict {call : Call} {fault : Fault}
    (h : call.verdict = some (.error fault)) : fault.isInterrupted = false := by
  match call with
  | write _ (.ok 0) =>
    cases h
    rfl
  | write _ (.ok (_ + 1)) | flush (.ok ()) => simp [verdict] at h
  | write _ (.error _) | flush (.error _) =>
    simp only [verdict] at h
    split at h
    · cases h
    · next hfault =>
      cases h
      simpa using hfault

end Call

theorem Calls.of_write {drain next last : Drain} {offered : List UInt8}
    {answer : Except Fault Nat} {later : List Call} (h : drain.write offered = (answer, next))
    (hlater : Calls next later last) : Calls drain (.write offered answer :: later) last := by
  obtain ⟨rfl, rfl⟩ := Prod.mk.inj h
  exact .write offered hlater

theorem Calls.of_flush {drain next last : Drain} {answer : Except Fault Unit} {later : List Call}
    (h : drain.flush = (answer, next)) (hlater : Calls next later last) :
    Calls drain (.flush answer :: later) last := by
  obtain ⟨rfl, rfl⟩ := Prod.mk.inj h
  exact .flush hlater

theorem Calls.append {first second third : Drain} {calls calls' : List Call}
    (h : Calls first calls second) (h' : Calls second calls' third) :
    Calls first (calls ++ calls') third := by
  induction h with
  | none => exact h'
  | write offered _ ih => exact .write offered (ih h')
  | flush _ ih => exact .flush (ih h')

/-- A drain has taken what was taken by the calls made of it. -/
theorem Calls.taken_eq {drain last : Drain} {calls : List Call} (h : Calls drain calls last) :
    last.taken = drain.taken ++ calls.flatMap Call.took := by
  induction h with
  | none drain => simp
  | write offered _ ih =>
    rename_i drain _ _ _
    have htaken := drain.write_taken offered
    rw [ih, htaken, List.flatMap_cons, List.append_assoc]
    cases (drain.write offered).1 with
    | ok n => rfl
    | error fault => simp [Call.took]
  | flush _ ih =>
    rw [ih, flush_taken, List.flatMap_cons]
    rfl

/-! ## Sending -/

/-- The calls that sending some bytes consists of, and what it reports. -/
inductive Sends : List UInt8 → List Call → Except Fault Unit → Prop
  | last {bytes : List UInt8} {call : Call} {result : Except Fault Unit}
      (habout : call.About bytes) (hverdict : call.verdict = some result) :
      Sends bytes [call] result
  | more {left : List UInt8} {call : Call} {later : List Call} {result : Except Fault Unit}
      (habout : call.About (call.took ++ left)) (hverdict : call.verdict = none)
      (h : Sends left later result) : Sends (call.took ++ left) (call :: later) result

namespace Sends

variable {bytes : List UInt8} {calls : List Call} {result : Except Fault Unit}

/-- Each call is about the bytes that the calls before it left. -/
theorem about (h : Sends bytes calls result) {front back : List Call} {call : Call}
    (hcalls : calls = front ++ call :: back) :
    ∃ left, bytes = front.flatMap Call.took ++ left ∧ call.About left := by
  induction h generalizing front with
  | @last bytes only _ habout _ =>
    obtain rfl : front = [] := by
      cases front with
      | nil => rfl
      | cons => simp at hcalls
    obtain rfl : only = call := by simp_all
    exact ⟨bytes, rfl, habout⟩
  | @more left first _ _ habout _ _ ih =>
    cases front with
    | nil =>
      obtain rfl : first = call := by simp_all
      exact ⟨first.took ++ left, rfl, habout⟩
    | cons head front =>
      obtain ⟨rfl, hlater⟩ := List.cons_eq_cons.mp hcalls
      obtain ⟨rest, hrest, hcall⟩ := ih hlater
      exact ⟨rest, by rw [hrest, List.flatMap_cons, List.append_assoc], hcall⟩

/-- The last call is the only one with a verdict, and that is the result. -/
theorem ends (h : Sends bytes calls result) :
    ∃ front last, calls = front ++ [last] ∧ (∀ call ∈ front, call.verdict = none) ∧
      last.verdict = some result := by
  induction h with
  | last _ hverdict => exact ⟨[], _, rfl, by simp, hverdict⟩
  | @more _ first _ _ _ hfirst _ ih =>
    obtain ⟨front, last, rfl, hfront, hlast⟩ := ih
    refine ⟨first :: front, last, rfl, ?_, hlast⟩
    rintro call (_ | ⟨_, hcall⟩)
    · exact hfirst
    · exact hfront call hcall

/-- What a call comes to is the result. -/
theorem result_eq (h : Sends bytes calls result) {call : Call} (hcall : call ∈ calls)
    {came : Except Fault Unit} (hverdict : call.verdict = some came) : result = came := by
  obtain ⟨front, last, rfl, hfront, hlast⟩ := h.ends
  rcases List.mem_append.mp hcall with hcall | hcall
  · rw [hfront call hcall] at hverdict
    cases hverdict
  · obtain rfl := List.mem_singleton.mp hcall
    exact Option.some.inj (hlast.symm.trans hverdict)

/-- What is taken is a part from the front. -/
theorem took_front (h : Sends bytes calls result) : calls.flatMap Call.took <+: bytes := by
  obtain ⟨front, last, rfl, -, -⟩ := h.ends
  obtain ⟨left, rfl, habout⟩ := h.about rfl
  rw [List.flatMap_append, List.flatMap_singleton]
  exact (List.prefix_append_right_inj _).mpr (Call.took_front habout)

/-- When the last call is a flush, everything has been taken. -/
theorem took_eq (h : Sends bytes calls result) {last : Call} (hlast : calls.getLast? = some last)
    (hflush : last.request = none) : calls.flatMap Call.took = bytes := by
  obtain ⟨front, rfl⟩ := List.getLast?_eq_some_iff.mp hlast
  obtain ⟨left, hbytes, habout⟩ := h.about rfl
  obtain rfl := Call.eq_nil_of_request habout hflush
  -- A flush takes nothing itself, so the calls before it took all there was.
  have htook : last.took = [] := List.prefix_nil.mp (Call.took_front habout)
  rw [hbytes, List.flatMap_append, List.flatMap_singleton, htook]

/-- Sending succeeds only after a flush that succeeds. -/
theorem flushed (h : Sends bytes calls (.ok ())) : calls.getLast? = some (.flush (.ok ())) := by
  obtain ⟨front, last, rfl, -, hlast⟩ := h.ends
  rw [List.getLast?_concat, Call.eq_flush_of_verdict hlast]

/-- An interruption is not what sending fails with. -/
theorem not_interrupted {fault : Fault} (h : Sends bytes calls (.error fault)) :
    fault.isInterrupted = false := by
  obtain ⟨-, last, -, -, hlast⟩ := h.ends
  exact Call.not_interrupted_of_verdict hlast

/-- After an interruption the same is asked for once more. -/
theorem again (h : Sends bytes calls result) {front back : List Call} {call : Call} {fault : Fault}
    (hcalls : calls = front ++ call :: back) (hfault : call.fault? = some fault)
    (hinterrupted : fault.isInterrupted = true) :
    ∃ next later, back = next :: later ∧ next.request = call.request := by
  have hverdict : call.verdict = none := by
    rw [Call.verdict_of_fault hfault, if_pos hinterrupted]
  cases back with
  | nil =>
    -- Sending does not end with a call that has no verdict.
    obtain ⟨front', last, hcalls', -, hlast⟩ := h.ends
    obtain ⟨-, hsame⟩ := List.append_inj' (hcalls'.symm.trans hcalls) rfl
    obtain rfl := List.singleton_inj.mp hsame
    rw [hverdict] at hlast
    cases hlast
  | cons next later =>
    refine ⟨next, later, rfl, ?_⟩
    obtain ⟨left, hleft, habout⟩ := h.about hcalls
    have hnext : calls = (front ++ [call]) ++ next :: later := by
      rw [hcalls, List.append_assoc, List.singleton_append]
    obtain ⟨left', hleft', habout'⟩ := h.about hnext
    -- The interrupted call took nothing, so what is left is the same as before it.
    rw [List.flatMap_append, List.flatMap_singleton, Call.took_of_fault hfault, List.append_nil,
      hleft] at hleft'
    obtain rfl := List.append_cancel_left hleft'
    exact Call.request_eq_of_about habout' habout

end Sends

theorem flushAll_sends (drain : Drain) :
    ∃ calls, Calls drain calls drain.flushAll.2 ∧ Sends [] calls drain.flushAll.1 := by
  fun_induction flushAll drain with
  | case1 drain drain' h => exact ⟨_, .of_flush h (.none _), .last rfl rfl⟩
  | case2 drain fault drain' h hfault ih =>
    obtain ⟨later, hlater, hsends⟩ := ih
    -- An interrupted flush takes nothing, and there is still nothing left.
    have habout : (Call.flush (.error fault)).About ((Call.flush (.error fault)).took ++ []) := rfl
    exact ⟨_, .of_flush h hlater, .more habout (if_pos hfault) hsends⟩
  | case3 drain fault drain' h hfault => exact ⟨_, .of_flush h (.none _), .last rfl (if_neg hfault)⟩

/-- **Whatever a drain does, it is called as sending should call it, and what is reported is the
verdict of the last call.** -/
theorem send_sends (drain : Drain) (bytes : List UInt8) :
    ∃ calls, Calls drain calls (drain.send bytes).2 ∧ Sends bytes calls (drain.send bytes).1 := by
  unfold send
  fun_induction writeAll stalledStream drain bytes with
  | case1 drain => exact drain.flushAll_sends
  | case2 drain b rest drain' h => exact ⟨_, .of_write h (.none _), .last ⟨rfl, by simp⟩ rfl⟩
  | case3 drain b rest n drain' h ih =>
    obtain ⟨later, hlater, hsends⟩ := ih
    refine ⟨_, .of_write h hlater, ?_⟩
    -- The bytes that were taken stand in front of those that are left to be sent.
    have hbytes : b :: rest = (Call.write (b :: rest) (.ok (n + 1))).took ++ rest.drop n := by
      simp [Call.took]
    have habout : (Call.write (b :: rest) (.ok (n + 1))).About
        ((Call.write (b :: rest) (.ok (n + 1))).took ++ rest.drop n) := by
      rw [← hbytes]
      exact ⟨rfl, by simp⟩
    have hmore := Sends.more habout rfl hsends
    rwa [← hbytes] at hmore
  | case4 drain b rest fault drain' h hfault ih =>
    obtain ⟨later, hlater, hsends⟩ := ih
    -- An interrupted write takes nothing, so all that was offered is still left.
    have habout : (Call.write (b :: rest) (.error fault)).About
        ((Call.write (b :: rest) (.error fault)).took ++ b :: rest) :=
      ⟨rfl, by simp⟩
    exact ⟨_, .of_write h hlater, .more habout (if_pos hfault) hsends⟩
  | case5 drain b rest fault drain' h hfault =>
    exact ⟨_, .of_write h (.none _), .last ⟨rfl, by simp⟩ (if_neg hfault)⟩

end Screencast.Drain
