/-
Gathering bytes, as a function of what a feed says.

`Signal.gather` gathers bytes from signals, one after another. Gathering from a
feed finds the same and leaves the same signals (`gather_finds`), whichever way
the bytes are cut and however often the reads are interrupted. Gathering chunk
after chunk comes to the same as gathering at once (`exactly_finds`).
-/
import Screencast.Feed.Gather
import Screencast.Proofs.Feed.Signal

namespace Screencast.Feed

/-! ## Gathering from signals -/

/-- Takes bytes off signals until `filled` has grown to `wanted`; `sofar` holds what was taken, the
last byte first. -/
def Signal.gatherFrom (wanted filled : Nat) (sofar : List UInt8) :
    List Signal → Except WireError (List UInt8) × List Signal
  | signals =>
    if filled < wanted then
      match signals with
      | [] => (.error (.truncated wanted filled), [])
      | .gap :: rest => (.error (.truncated wanted filled), rest)
      | .fault cause :: rest => (.error (.io cause), rest)
      | .byte value :: rest => gatherFrom wanted (filled + 1) (value :: sofar) rest
    else (.ok sofar.reverse, signals)

/-- Takes exactly `wanted` bytes off signals. -/
def Signal.gather (wanted : Nat) (signals : List Signal) :
    Except WireError (List UInt8) × List Signal := gatherFrom wanted 0 [] signals

namespace Signal

theorem gatherFrom_done {wanted filled : Nat} (h : ¬ filled < wanted) (sofar : List UInt8)
    (signals : List Signal) :
    gatherFrom wanted filled sofar signals = (.ok sofar.reverse, signals) := by
  rw [gatherFrom.eq_def]
  exact if_neg h

theorem gatherFrom_nil {wanted filled : Nat} (h : filled < wanted) (sofar : List UInt8) :
    gatherFrom wanted filled sofar [] = (.error (.truncated wanted filled), []) := by
  rw [gatherFrom.eq_def]
  exact if_pos h

theorem gatherFrom_gap {wanted filled : Nat} (h : filled < wanted) (sofar : List UInt8)
    (rest : List Signal) :
    gatherFrom wanted filled sofar (.gap :: rest) = (.error (.truncated wanted filled), rest) := by
  rw [gatherFrom.eq_def]
  exact if_pos h

theorem gatherFrom_fault {wanted filled : Nat} (h : filled < wanted) (sofar : List UInt8)
    (cause : Fault) (rest : List Signal) :
    gatherFrom wanted filled sofar (.fault cause :: rest) = (.error (.io cause), rest) := by
  rw [gatherFrom.eq_def]
  exact if_pos h

theorem gatherFrom_byte {wanted filled : Nat} (h : filled < wanted) (sofar : List UInt8)
    (value : UInt8) (rest : List Signal) :
    gatherFrom wanted filled sofar (.byte value :: rest) =
      gatherFrom wanted (filled + 1) (value :: sofar) rest := by
  rw [gatherFrom.eq_def]
  exact if_pos h

/-- Bytes for which there is room are taken in one go. -/
theorem gatherFrom_map_byte {wanted filled : Nat} {bytes : List UInt8}
    (h : filled + bytes.length ≤ wanted) (sofar : List UInt8) (rest : List Signal) :
    gatherFrom wanted filled sofar (bytes.map .byte ++ rest) =
      gatherFrom wanted (filled + bytes.length) (bytes.reverseAux sofar) rest := by
  induction bytes generalizing filled sofar with
  | nil => rfl
  | cons value more ih =>
    rw [List.length_cons] at h
    have hshift : filled + (value :: more).length = filled + 1 + more.length := by
      rw [List.length_cons]
      omega
    rw [List.map_cons, List.cons_append, gatherFrom_byte (by omega), ih (by omega), hshift,
      List.reverseAux_cons]

/-- What one read does to the gathering of bytes: nothing ends it, and so does a fault unless it is
an interruption. -/
theorem gatherFrom_served {wanted filled : Nat} (h : filled < wanted) (sofar : List UInt8)
    {before after : List Signal} {outcome : Outcome}
    (hserved : Served (wanted - filled) before outcome after) :
    gatherFrom wanted filled sofar before =
      match outcome with
      | .nothing => (.error (.truncated wanted filled), after)
      | .bytes bytes => gatherFrom wanted (filled + bytes.length) (bytes.reverseAux sofar) after
      | .fault cause =>
        if cause.isInterrupted then gatherFrom wanted filled sofar after
        else (.error (.io cause), after) := by
  cases hserved with
  | bytes _ hle => exact gatherFrom_map_byte (by omega) sofar after
  | gap => exact gatherFrom_gap h sofar after
  | done => exact gatherFrom_nil h sofar
  | @fault cause _ hfault => simpa [hfault] using gatherFrom_fault h sofar cause after
  | interrupted hfault => simp [hfault]

/-- As many bytes as are wanted are gathered, and what follows them is left. -/
theorem gather_map_byte (bytes : List UInt8) (rest : List Signal) :
    gather bytes.length (bytes.map .byte ++ rest) = (.ok bytes, rest) := by
  rw [gather, gatherFrom_map_byte (by omega), gatherFrom_done (by omega)]
  simp [List.reverseAux_eq]

/-- Signals that find the stream at its end. -/
def Ends (signals : List Signal) : Prop := signals = [] ∨ ∃ rest, signals = .gap :: rest

/-- The end of a stream holds no bytes. -/
theorem bytes_tail {after : List Signal} (h : Ends after) : bytes after.tail = bytes after := by
  rcases h with rfl | ⟨rest, rfl⟩
  · rfl
  · rfl

/-- A read that finds nothing finds the stream at its end. -/
theorem Served.ends {room : Nat} {before after : List Signal}
    (h : Served room before .nothing after) : Ends before := by
  cases h with
  | gap => exact .inr ⟨_, rfl⟩
  | done => exact .inl rfl

/-- A stream that ends too early leaves the gathering short. -/
theorem gather_short {wanted : Nat} {bytes : List UInt8} (h : bytes.length < wanted)
    {after : List Signal} (hends : Ends after) :
    gather wanted (bytes.map .byte ++ after) =
      (.error (.truncated wanted bytes.length), after.tail) := by
  rw [gather, gatherFrom_map_byte (by omega), Nat.zero_add]
  rcases hends with rfl | ⟨rest, rfl⟩
  · rw [gatherFrom_nil h, List.tail_nil]
  · rw [gatherFrom_gap h, List.tail_cons]

/-- A fault that comes too early is what the gathering comes to. -/
theorem gather_fault {wanted : Nat} {bytes : List UInt8} (h : bytes.length < wanted)
    (cause : Fault) (rest : List Signal) :
    gather wanted (bytes.map .byte ++ .fault cause :: rest) = (.error (.io cause), rest) := by
  rw [gather, gatherFrom_map_byte (by omega), Nat.zero_add, gatherFrom_fault h]

/-- Only bytes are gathered, and as many as are wanted. -/
theorem gatherFrom_eq_ok {wanted filled : Nat} (hle : filled ≤ wanted) {sofar bytes : List UInt8}
    {signals rest : List Signal}
    (h : gatherFrom wanted filled sofar signals = (.ok bytes, rest)) :
    ∃ more, bytes = sofar.reverse ++ more ∧ filled + more.length = wanted ∧
      signals = more.map .byte ++ rest := by
  induction signals generalizing filled sofar with
  | nil =>
    by_cases hlt : filled < wanted
    · rw [gatherFrom_nil hlt] at h
      cases h
    · rw [gatherFrom_done hlt] at h
      cases h
      exact ⟨[], (List.append_nil _).symm, by rw [List.length_nil]; omega, rfl⟩
  | cons signal later ih =>
    by_cases hlt : filled < wanted
    · cases signal with
      | gap =>
        rw [gatherFrom_gap hlt] at h
        cases h
      | fault cause =>
        rw [gatherFrom_fault hlt] at h
        cases h
      | byte value =>
        rw [gatherFrom_byte hlt] at h
        obtain ⟨more, hbytes, hlength, hsignals⟩ := ih hlt h
        refine ⟨value :: more, ?_, ?_, ?_⟩
        · rw [hbytes, List.reverse_cons, List.append_assoc]
          rfl
        · rw [List.length_cons]
          omega
        · rw [hsignals]
          rfl
    · rw [gatherFrom_done hlt] at h
      cases h
      exact ⟨[], (List.append_nil _).symm, by rw [List.length_nil]; omega, rfl⟩

/-- What is gathered is what the signals begin with. -/
theorem gather_eq_ok {wanted : Nat} {bytes : List UInt8} {signals rest : List Signal}
    (h : gather wanted signals = (.ok bytes, rest)) :
    bytes.length = wanted ∧ signals = bytes.map .byte ++ rest := by
  obtain ⟨more, rfl, hlength, hsignals⟩ := gatherFrom_eq_ok (Nat.zero_le wanted) h
  exact ⟨by simpa using hlength, hsignals⟩

/-- Gathering may begin with a part: what a whole part comes to is gathered on, and what keeps the
part from being whole keeps all of it. -/
theorem gatherFrom_part {wanted filled chunk : Nat} (hchunk : filled + chunk ≤ wanted)
    (sofar : List UInt8) {got : Nat} (hgot : got ≤ chunk) (part : List UInt8)
    (signals : List Signal) :
    gatherFrom wanted (filled + got) (part ++ sofar) signals =
      match gatherFrom chunk got part signals with
      | (.ok bytes, rest) => gatherFrom wanted (filled + chunk) (bytes.reverseAux sofar) rest
      | (.error e, rest) => (.error (e.afterChunks filled wanted), rest) := by
  -- As long as the part is not whole, both gatherings take the same signal.
  induction signals generalizing got part with
  | nil =>
    by_cases hlt : got < chunk
    · rw [gatherFrom_nil (by omega), gatherFrom_nil hlt]
      rfl
    · obtain rfl : got = chunk := by omega
      rw [gatherFrom_done hlt]
      simp [List.reverseAux_eq]
  | cons signal rest ih =>
    by_cases hlt : got < chunk
    · have hlt' : filled + got < wanted := by omega
      cases signal with
      | gap =>
        rw [gatherFrom_gap hlt', gatherFrom_gap hlt]
        rfl
      | fault cause =>
        rw [gatherFrom_fault hlt', gatherFrom_fault hlt]
        rfl
      | byte value =>
        rw [gatherFrom_byte hlt', gatherFrom_byte hlt]
        exact ih (show got + 1 ≤ chunk from hlt) (value :: part)
    · obtain rfl : got = chunk := by omega
      rw [gatherFrom_done hlt]
      simp [List.reverseAux_eq]

/-- Gathering may begin with a whole part. -/
theorem gatherFrom_chunk {wanted filled chunk : Nat} (hchunk : filled + chunk ≤ wanted)
    (sofar : List UInt8) (signals : List Signal) :
    gatherFrom wanted filled sofar signals =
      match gather chunk signals with
      | (.ok bytes, rest) => gatherFrom wanted (filled + chunk) (bytes.reverseAux sofar) rest
      | (.error e, rest) => (.error (e.afterChunks filled wanted), rest) :=
  gatherFrom_part hchunk sofar (Nat.zero_le chunk) [] signals

end Signal

/-! ## What an operation on a feed finds -/

/-- What an operation came to on a feed is what `found` says of the signals: its result, and the
signals that are left. -/
structure Finds {α : Type} (feed : Feed) (run : α × Feed) (found : α × List Signal) : Prop where
  result : run.1 = found.1
  signals : run.2.signals = found.2
  sequel : Sequel feed run.2

namespace Finds

variable {α : Type} {feed : Feed} {run : α × Feed} {found : α × List Signal}

theorem eq_found (h : Finds feed run found) : found = (run.1, run.2.signals) := by
  rw [h.result, h.signals]

/-- What comes after a sequel of a feed comes after the feed. -/
theorem after {before : Feed} (hsequel : Sequel before feed) (h : Finds feed run found) :
    Finds before run found := ⟨h.result, h.signals, hsequel.trans h.sequel⟩

end Finds

/-! ## Gathering from a feed -/

theorem gatherFrom_finds (wanted filled : Nat) (sofar : List UInt8) (feed : Feed) :
    Finds feed (feed.gatherFrom wanted filled sofar)
      (Signal.gatherFrom wanted filled sofar feed.signals) := by
  fun_induction gatherFrom wanted filled sofar feed with
  | case1 filled sofar feed h feed' hread =>
    obtain ⟨hserved, hsequel⟩ := served_of_read (by omega) hread
    rw [Signal.gatherFrom_served h sofar hserved]
    exact ⟨rfl, rfl, hsequel⟩
  | case2 filled sofar feed h bytes feed' hread ih =>
    obtain ⟨hserved, hsequel⟩ := served_of_read (by omega) hread
    rw [Signal.gatherFrom_served h sofar hserved]
    exact ih.after hsequel
  | case3 filled sofar feed h cause feed' hread hfault ih =>
    obtain ⟨hserved, hsequel⟩ := served_of_read (by omega) hread
    rw [Signal.gatherFrom_served h sofar hserved]
    -- The interrupted read has taken nothing and is made again.
    simp only [hfault, if_true]
    exact ih.after hsequel
  | case4 filled sofar feed h cause feed' hread hfault =>
    obtain ⟨hserved, hsequel⟩ := served_of_read (by omega) hread
    rw [Signal.gatherFrom_served h sofar hserved]
    simp only [hfault]
    exact ⟨rfl, rfl, hsequel⟩
  | case5 filled sofar feed h =>
    rw [Signal.gatherFrom_done h]
    exact ⟨rfl, rfl, .refl _⟩

/-- **Gathering from a feed is gathering from its signals.** -/
theorem gather_finds (feed : Feed) (wanted : Nat) :
    Finds feed (feed.gather wanted) (Signal.gather wanted feed.signals) :=
  gatherFrom_finds wanted 0 [] feed

theorem exactlyFrom_finds (wanted filled : Nat) (sofar : List UInt8) (feed : Feed) :
    Finds feed (feed.exactlyFrom wanted filled sofar)
      (Signal.gatherFrom wanted filled sofar feed.signals) := by
  fun_induction exactlyFrom wanted filled sofar feed with
  | case1 filled sofar feed h chunk bytes feed' hgather ih =>
    have hfinds := feed.gather_finds chunk
    rw [hgather] at hfinds
    have hchunk : filled + chunk ≤ wanted := by omega
    rw [Signal.gatherFrom_chunk hchunk, hfinds.eq_found]
    exact ih.after hfinds.sequel
  | case2 filled sofar feed h chunk e feed' hgather =>
    have hfinds := feed.gather_finds chunk
    rw [hgather] at hfinds
    have hchunk : filled + chunk ≤ wanted := by omega
    rw [Signal.gatherFrom_chunk hchunk, hfinds.eq_found]
    exact ⟨rfl, rfl, hfinds.sequel⟩
  | case3 filled sofar feed h =>
    rw [Signal.gatherFrom_done h]
    exact ⟨rfl, rfl, .refl _⟩

/-- **Gathering in chunks is gathering at once.** -/
theorem exactly_finds (feed : Feed) (wanted : Nat) :
    Finds feed (feed.exactly wanted) (Signal.gather wanted feed.signals) :=
  exactlyFrom_finds wanted 0 [] feed

end Screencast.Feed
