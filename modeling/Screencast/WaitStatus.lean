/-
How a child process ended, as the operating system packs it into one number.

The low 7 bits are 0 for an exit, whose code is the next byte, or the signal
that ended the process, with bit 7 for a core dump; 0x7f in the low byte marks
a process that is only stopped, and 0xffff one that goes on. What is none of
these is shown as the number that it is, with a sign, and by its bits.
-/
import Screencast.Text.Numeral

namespace Screencast

/-- The packed status of a child process. -/
structure WaitStatus where
  raw : UInt32
  deriving DecidableEq, Repr

namespace WaitStatus

/-- The status of a process that exits with a code. -/
def exited (code : Nat) : WaitStatus := ⟨UInt32.ofNat (code % 256 * 256)⟩

/-- The status of a process that a signal ends. -/
def killed (signal : Nat) : WaitStatus := ⟨UInt32.ofNat (signal % 128)⟩

/-- The code of a process that exited. -/
def code? (status : WaitStatus) : Option Nat :=
  if status.raw % 128 = 0 then some (status.raw / 256 % 256).toNat else none

/-- The signal that ended a process. -/
def signal? (status : WaitStatus) : Option Nat :=
  let low := status.raw.toNat % 128
  if low ≠ 0 ∧ low ≠ 127 then some low else none

/-- The process left a core dump. -/
def dumpedCore (status : WaitStatus) : Bool := status.raw / 128 % 2 == 1

/-- The signal that stopped a process. -/
def stopSignal? (status : WaitStatus) : Option Nat :=
  if status.raw % 256 = 127 then some (status.raw / 256 % 256).toNat else none

/-- The process went well. -/
def isSuccess (status : WaitStatus) : Bool := status.code? == some 0

/-- The names of the signals 1 to 31. -/
def signalNames : List String :=
  ["HUP", "INT", "QUIT", "ILL", "TRAP", "ABRT", "BUS", "FPE", "KILL", "USR1", "SEGV", "USR2",
    "PIPE", "ALRM", "TERM", "STKFLT", "CHLD", "CONT", "STOP", "TSTP", "TTIN", "TTOU", "URG",
    "XCPU", "XFSZ", "VTALRM", "PROF", "WINCH", "IO", "PWR", "SYS"]

/-- A signal by number and, if it has one, by name. -/
def signalText (signal : Nat) : String :=
  match signal with
  | 0 => "0"
  | n + 1 =>
    match signalNames[n]? with
    | some name => s!"{n + 1} (SIG{name})"
    | none => toString (n + 1)

/-- A status as it is shown. -/
def text (status : WaitStatus) : String :=
  match status.code?, status.signal?, status.stopSignal? with
  | some code, _, _ => s!"exit status: {code}"
  | none, some signal, _ =>
    s!"signal: {signalText signal}" ++ (if status.dumpedCore then " (core dumped)" else "")
  | none, none, some signal => s!"stopped (not terminated) by signal: {signalText signal}"
  | none, none, none =>
    if status.raw = 0xFFFF then "continued (WIFCONTINUED)"
    else
      let raw := status.raw
      s!"unrecognised wait status: {raw.toInt32.toInt} 0x{Numeral.hex 1 raw.toNat}"

end WaitStatus

end Screencast
