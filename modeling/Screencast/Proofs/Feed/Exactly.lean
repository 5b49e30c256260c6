/-
Reading a number of bytes, in chunks or into one buffer.

Either way comes to one of three things, which only depends on what the channel
has to say (`Fills`): the bytes that are wanted, or fewer of them and then the
end of the stream, or fewer of them and then a fault. Chunks do not show in it,
because gathering in chunks is gathering at once (`exactly_finds`).

Reading ends, since every read but the last lowers the weight of the channel:
reads that have been made and reads that can still be answered add up to no more
than before, and one more where the bytes did not come (`reads_gatherFrom_le`,
`reads_exactlyFrom_le`).
-/
import Screencast.Proofs.Feed.Gathered
import Screencast.Proofs.Feed.Idle

namespace Screencast

namespace Feed

/-! ## What it comes to -/

/-- What reading `wanted` bytes comes to on a channel, and the state in which it leaves the
channel. -/
inductive Fills (wanted : Nat) (before : Feed) :
    Except WireError (List UInt8) → Feed → Prop
  /-- The bytes come, and nothing behind them is touched. -/
  | whole {bytes : List UInt8} {after : Feed} (hlength : bytes.length = wanted)
      (htook : Took before after bytes) : Fills wanted before (.ok bytes) after
  /-- A read finds nothing before they have all come. -/
  | short {bytes : List UInt8} {after : Feed} {ending : List Signal}
      (hlt : bytes.length < wanted) (hends : Signal.Ends ending)
      (hsignals : before.signals = bytes.map .byte ++ ending)
      (hrest : after.signals = ending.tail)
      (hconsumed : after.history.consumed = before.history.consumed + bytes.length) :
      Fills wanted before (.error (.truncated wanted bytes.length)) after
  /-- A read fails before they have all come, and it is no use to make it again. -/
  | fault {bytes : List UInt8} {after : Feed} {cause : Fault} (hlt : bytes.length < wanted)
      (hcause : cause.isInterrupted = false)
      (hsignals : before.signals = bytes.map .byte ++ .fault cause :: after.signals)
      (hconsumed : after.history.consumed = before.history.consumed + bytes.length) :
      Fills wanted before (.error (.io cause)) after

/-- What finds the same as gathering from the signals fills one buffer. -/
theorem Finds.fills {feed : Feed} {wanted : Nat} {run : Except WireError (List UInt8) × Feed}
    (h : Finds feed run (Signal.gather wanted feed.signals)) : Fills wanted feed run.1 run.2 := by
  have hgathered := Signal.gathered wanted feed.signals
  have hsequel := h.sequel
  rw [h.eq_found] at hgathered
  obtain ⟨result, after⟩ := run
  generalize hbefore : feed.signals = signals, hafter : after.signals = rest at hgathered
  cases hgathered with
  | whole hlength =>
    refine .whole hlength (hsequel.took ?_)
    rw [hbefore, hafter]
  | @short bytes hlt ending hends =>
    refine .short hlt hends hbefore hafter (hsequel.consumed_add ?_)
    -- What ends the stream holds no bytes, so none are missing but those that came.
    have hnone : Signal.bytes after.signals = Signal.bytes ending := by
      rw [hafter]
      exact Signal.bytes_tail hends
    rw [hbefore, Signal.bytes_append, Signal.bytes_map_byte, ← hnone]
  | @fault bytes hlt cause =>
    have hmem : .fault cause ∈ feed.signals := by
      rw [hbefore]
      simp
    refine .fault hlt (fault_mem_signalsOf hmem).2 ?_ (hsequel.consumed_add ?_)
    · rw [hbefore, hafter]
    · rw [hbefore, hafter, Signal.bytes_append, Signal.bytes_map_byte]
      rfl

/-! ## How many reads it takes -/

@[simp] theorem reads_record_read (feed : Feed) (got : Option Nat) :
    (feed.record (.read got)).history.reads = feed.history.reads + 1 := by
  rw [record, History.reads, History.add, List.countP_cons]
  rfl

theorem reads_read (feed : Feed) (wanted : Nat) :
    (feed.read wanted).2.history.reads = feed.history.reads + 1 := by
  rw [read_snd, reads_record_read]
  split
  · exact congrArg (· + 1) (Idle.cancel _).reads
  · rfl

section

variable {feed feed' : Feed} {wanted : Nat} {outcome : Outcome}

theorem reads_of_read_le (hread : feed.read wanted = (outcome, feed')) :
    feed'.history.reads + feed'.weight ≤ feed.history.reads + feed.weight + 1 := by
  have hreads := feed.reads_read wanted
  have hweight := feed.weight_read_le wanted
  simp only [hread] at hreads hweight
  omega

/-- A read that gives bytes or fails was one of those that the feed can answer. -/
theorem reads_of_read_of_ne (hwanted : 0 < wanted) (hread : feed.read wanted = (outcome, feed'))
    (hne : outcome ≠ .nothing) :
    feed'.history.reads + feed'.weight ≤ feed.history.reads + feed.weight := by
  have hreads := feed.reads_read wanted
  have hweight : (feed.read wanted).2.weight < feed.weight := by
    apply weight_read_lt hwanted
    rw [hread]
    exact hne
  simp only [hread] at hreads hweight
  omega

end

/-- The reads that are made beyond those that a feed can answer: one finds nothing, where the bytes
do not come. -/
def vainReads (result : Except WireError (List UInt8)) : Nat := if result.isOk then 0 else 1

theorem reads_gatherFrom_le (wanted filled : Nat) (sofar : List UInt8) (feed : Feed) :
    (gatherFrom wanted filled sofar feed).2.history.reads +
        (gatherFrom wanted filled sofar feed).2.weight ≤
      feed.history.reads + feed.weight + vainReads (gatherFrom wanted filled sofar feed).1 := by
  fun_induction gatherFrom wanted filled sofar feed with
  | case1 filled sofar feed hlt feed' hread => exact reads_of_read_le hread
  | case2 filled sofar feed hlt bytes feed' hread ih =>
    have hanswered := reads_of_read_of_ne (by omega) hread (by simp)
    omega
  | case3 filled sofar feed hlt cause feed' hread hcause ih =>
    have hanswered := reads_of_read_of_ne (by omega) hread (by simp)
    omega
  | case4 filled sofar feed hlt cause feed' hread hcause => exact reads_of_read_le hread
  | case5 => exact Nat.le_refl _

theorem reads_exactlyFrom_le (wanted filled : Nat) (sofar : List UInt8) (feed : Feed) :
    (exactlyFrom wanted filled sofar feed).2.history.reads +
        (exactlyFrom wanted filled sofar feed).2.weight ≤
      feed.history.reads + feed.weight + vainReads (exactlyFrom wanted filled sofar feed).1 := by
  fun_induction exactlyFrom wanted filled sofar feed with
  | case1 filled sofar feed hlt chunk bytes feed' hgather ih =>
    -- A chunk that came whole took no read in vain.
    have hchunk : feed'.history.reads + feed'.weight ≤ feed.history.reads + feed.weight := by
      have hreads := reads_gatherFrom_le chunk 0 [] feed
      rwa [show gatherFrom chunk 0 [] feed = (.ok bytes, feed') from hgather] at hreads
    omega
  | case2 filled sofar feed hlt chunk e feed' hgather =>
    have hreads := reads_gatherFrom_le chunk 0 [] feed
    rwa [show gatherFrom chunk 0 [] feed = (.error e, feed') from hgather] at hreads
  | case3 => exact Nat.le_refl _

/-! ## Reading in chunks -/

/-- **Reading in chunks is filling one buffer.** Whatever a channel has to say and however it cuts
it, reading so many bytes in chunks comes to what filling one buffer of that size comes to, leaves
the channel the same to say and has taken as many bytes; no read is made where none are wanted; and
the reads come to an end, after at most one more than the channel can answer. -/
theorem exactly_like_gather (feed : Feed) (wanted : Nat) :
    Fills wanted feed (feed.exactly wanted).1 (feed.exactly wanted).2 ∧
      ((feed.exactly wanted).1 = (feed.gather wanted).1 ∧
        (feed.exactly wanted).2.signals = (feed.gather wanted).2.signals ∧
        (feed.exactly wanted).2.history.consumed = (feed.gather wanted).2.history.consumed) ∧
      feed.exactly 0 = (.ok [], feed) ∧
      (feed.exactly wanted).2.history.reads ≤ feed.history.reads + feed.weight + 1 := by
  have hchunks := feed.exactly_finds wanted
  have hplain := feed.gather_finds wanted
  have hsignals : (feed.exactly wanted).2.signals = (feed.gather wanted).2.signals :=
    hchunks.signals.trans hplain.signals.symm
  refine ⟨hchunks.fills, ⟨?_, hsignals, ?_⟩, ?_, ?_⟩
  · exact hchunks.result.trans hplain.result.symm
  · exact hchunks.sequel.consumed_eq hplain.sequel rfl rfl hsignals
  · rw [exactly, exactlyFrom]
    simp
  · have hreads := reads_exactlyFrom_le wanted 0 [] feed
    have hvain : vainReads (feed.exactlyFrom wanted 0 []).1 ≤ 1 := by
      unfold vainReads
      split
      · exact Nat.zero_le 1
      · exact Nat.le_refl 1
    rw [exactly]
    omega

end Feed

end Screencast
