/-
Bounded waits, in the handshake.

Of all the reads over a channel only those for the probe byte may give up their
wait. What is asked of a channel, reads and bounds alike, is one list in its
history (`History.asked`), and the list has one of a few courses (`Asked`):
either no bound is ever asked for, or it is the first thing that is asked for,
the reads for the probe byte come next (`asked_readProbe`), and a bound that was
granted is lifted before anything else is read. A bound that cannot be lifted is
the last thing that is asked for.

A handshake takes such a course (`perform_asked`). After it a channel is only
read, and reads may be added to a course that has come so far
(`Reading.append`). On each course a read finds a bound in force only if it is
one for the probe byte (`Asked.unbounded`).
-/
import Screencast.Proofs.Handshake.Twin
import Screencast.Proofs.Session.Use

namespace Screencast

/-- A read. -/
def Happening.isRead : Happening → Bool
  | .read _ => true
  | .wait _ _ | .closed | .note _ | .testimony _ _ => false

/-! ## What was asked of a channel -/

namespace History

/-- What was asked of a channel, in order: its reads, and the bounds on their waits. -/
def asked (history : History) : List Happening := history.toList.filter (!·.isQuiet)

theorem asked_add_quiet {happening : Happening} (h : happening.isQuiet = true)
    (history : History) : (history.add happening).asked = history.asked := by
  rw [asked, asked, toList_add, List.filter_append, List.filter_cons, h]
  exact List.append_nil _

theorem asked_add {happening : Happening} (h : happening.isQuiet = false) (history : History) :
    (history.add happening).asked = history.asked ++ [happening] := by
  rw [asked, asked, toList_add, List.filter_append, List.filter_cons, h]
  rfl

end History

namespace Feed

theorem asked_record {happening : Happening} (h : happening.isQuiet = true) (feed : Feed) :
    (feed.record happening).history.asked = feed.history.asked :=
  History.asked_add_quiet h feed.history

@[simp] theorem asked_note (feed : Feed) (notice : Notice) :
    (feed.note notice).history.asked = feed.history.asked := asked_record rfl feed

@[simp] theorem asked_cancel (feed : Feed) :
    feed.cancel.history.asked = feed.history.asked := by
  unfold cancel
  split
  · rfl
  · exact asked_note _ _

@[simp] theorem asked_close (feed : Feed) : feed.close.history.asked = feed.history.asked := by
  have hclosed : (feed.record .closed).history.asked = feed.history.asked := asked_record rfl feed
  unfold Feed.close
  dsimp only
  split
  · rw [asked_note, hclosed]
  · exact hclosed

theorem asked_read (feed : Feed) (wanted : Nat) :
    (feed.read wanted).2.history.asked =
      feed.history.asked ++ [.read (feed.read wanted).1.got] := by
  rw [read_snd, read_fst]
  split
  · exact (History.asked_add rfl _).trans (congrArg (· ++ _) (asked_cancel _))
  · exact History.asked_add rfl _

theorem asked_bound (feed : Feed) (limit : Option Span) :
    (feed.bound limit).2.history.asked =
      feed.history.asked ++ [.wait limit (feed.bound limit).1.isOk] := by
  unfold bound
  split <;> exact History.asked_add rfl _

/-- Whatever only reads a channel asks it for reads and for nothing else. -/
theorem OnlyRead.asked {before after : Feed} (h : OnlyRead before after) :
    ∃ reads, (∀ request ∈ reads, request.isRead = true) ∧
      after.history.asked = before.history.asked ++ reads := by
  induction h with
  | refl => exact ⟨[], List.forall_mem_nil _, (List.append_nil _).symm⟩
  | @read middle _ wanted ih =>
    obtain ⟨reads, hreads, hasked⟩ := ih
    refine ⟨reads ++ [.read (middle.read wanted).1.got], ?_, ?_⟩
    · intro request hrequest
      rcases List.mem_append.mp hrequest with hbefore | hlast
      · exact hreads request hbefore
      · rw [List.mem_singleton.mp hlast]
        rfl
    · rw [asked_read, hasked, List.append_assoc]
  | @record middle _ happening hquiet ih =>
    obtain ⟨reads, hreads, hasked⟩ := ih
    have hkept := asked_record hquiet middle
    exact ⟨reads, hreads, hkept.trans hasked⟩

/-! ## The reads for the probe byte -/

/-- The reads for the probe byte, over a script: one, and one more for each that is interrupted. -/
def probing : List Item → List Happening
  | [] => [.read (some 0)]
  | .data [] :: rest | .pause _ :: rest | .cancel :: rest => probing rest
  | .data (_ :: _) :: _ => [.read (some 1)]
  | .gap :: _ => [.read (some 0)]
  | .fault cause :: rest =>
    if cause.isInterrupted then .read none :: probing rest else [.read none]

/-- What one read with room for a byte leaves of the reads for the probe byte. -/
theorem probing_serve (script : List Item) :
    probing script =
      match (serve 1 script).1 with
      | .fault cause =>
        if cause.isInterrupted then .read none :: probing (serve 1 script).2.2 else [.read none]
      | outcome => [.read outcome.got] := by
  fun_induction serve 1 script with
  | case1 | case3 | case4 | case5 => rfl
  | case2 rest ih | case6 millis rest ih => exact ih
  | case7 rest outcome cancels left hserve ih =>
    rw [hserve] at ih
    exact ih

theorem probing_read (feed : Feed) :
    probing feed.script =
      match (feed.read 1).1 with
      | .fault cause =>
        if cause.isInterrupted then .read none :: probing (feed.read 1).2.script
        else [.read none]
      | outcome => [.read outcome.got] := by
  have hroom : feed.room 1 = 1 := Nat.le_antisymm (feed.room_le 1) (feed.room_pos Nat.one_pos)
  rw [read_fst, read_script, hroom]
  exact probing_serve feed.script

end Feed

namespace Handshake

open Feed

theorem asked_boundWait (limit : Span) (feed : Feed) :
    (boundWait limit feed).2.history.asked =
      feed.history.asked ++ [.wait (some limit) (boundWait limit feed).1] := by
  have hbound := feed.asked_bound (some limit)
  unfold boundWait
  generalize feed.bound (some limit) = run at hbound ⊢
  obtain ⟨granted, feed'⟩ := run
  cases granted with
  | ok => exact hbound
  | error fault => exact (asked_note _ _).trans hbound

theorem asked_readProbe (limit : Span) (feed : Feed) :
    (readProbe limit feed).2.history.asked = feed.history.asked ++ probing feed.script := by
  fun_induction readProbe limit feed with
  | case1 feed feed' hread | case2 feed bytes feed' hread =>
    have hasked := feed.asked_read 1
    have hprobing := probing_read feed
    rw [hread] at hasked hprobing
    rw [asked_note, hasked, hprobing]
  | case3 feed fault feed' hread hfault ih =>
    -- The interrupted read is one of those for the probe byte, and those that follow are the rest.
    have hasked := feed.asked_read 1
    have hprobing := probing_read feed
    rw [hread] at hasked hprobing
    dsimp only at hprobing
    rw [if_pos hfault] at hprobing
    rw [ih, hasked, hprobing, List.append_assoc]
    rfl
  | case4 feed fault feed' hread hfault | case5 feed fault feed' hread hfault =>
    have hasked := feed.asked_read 1
    have hprobing := probing_read feed
    rw [hread] at hasked hprobing
    dsimp only at hprobing
    rw [if_neg hfault] at hprobing
    rw [asked_note, hasked, hprobing]
    rfl

/-! ## Courses -/

/-- The request to bound the wait for the probe byte: to the limit that was set, and to no less than
a millisecond. -/
def bounding (settings : Settings) (granted : Bool) : Happening :=
  .wait (some (settings.probeLimit.max (.ofMillis 1))) granted

/-- What is asked of a channel before the first byte of the name is read. -/
inductive Opening (settings : Settings) (script : List Item) : List Happening → Prop
  | unprobed (hprobe : settings.expectProbe = false) : Opening settings script []
  /-- The bound is not granted, so there is none to be lifted. -/
  | refused (hprobe : settings.expectProbe = true) :
      Opening settings script (bounding settings false :: probing script)
  | lifted (hprobe : settings.expectProbe = true) :
      Opening settings script (bounding settings true :: probing script ++ [.wait none true])

/-- What is asked of a channel from which the name, the picture block and frames are read. -/
def Reading (settings : Settings) (script : List Item) (asked : List Happening) : Prop :=
  ∃ opening reads, Opening settings script opening ∧
    (∀ request ∈ reads, request.isRead = true) ∧ asked = opening ++ reads

/-- What is asked of a channel over a script by a session with these settings. -/
inductive Asked (settings : Settings) (script : List Item) : List Happening → Prop
  | nothing : Asked settings script []
  /-- The bound is granted and cannot be lifted: nothing more is asked for. -/
  | unlifted (hprobe : settings.expectProbe = true) :
      Asked settings script (bounding settings true :: probing script ++ [.wait none false])
  | reading {asked : List Happening} (h : Reading settings script asked) :
      Asked settings script asked

/-- Reads may follow where there have been reads. -/
theorem Reading.append {settings : Settings} {script : List Item} {asked reads : List Happening}
    (h : Reading settings script asked) (hreads : ∀ request ∈ reads, request.isRead = true) :
    Reading settings script (asked ++ reads) := by
  obtain ⟨opening, before, hopening, hbefore, rfl⟩ := h
  refine ⟨opening, before ++ reads, hopening, ?_, List.append_assoc ..⟩
  intro request hrequest
  rcases List.mem_append.mp hrequest with hmem | hmem
  · exact hbefore request hmem
  · exact hreads request hmem

/-- What the probe step asks of a channel, with what it comes to: it leaves no bound in force, or it
is the last thing that is asked for. -/
inductive ProbeAsks (settings : Settings) (feed : Feed) : Except Failure Probe × Feed → Prop
  | passed {probe : Probe} {probed : Feed} {opening : List Happening}
      (hopening : Opening settings feed.script opening)
      (hasked : probed.history.asked = feed.history.asked ++ opening) :
      ProbeAsks settings feed (.ok probe, probed)
  | unlifted {fault : Fault} {last : Feed} (hprobe : settings.expectProbe = true)
      (hasked : last.history.asked = feed.history.asked ++
        (bounding settings true :: probing feed.script ++ [.wait none false])) :
      ProbeAsks settings feed (.error (.io fault), last)

theorem awaitProbe_asks {settings : Settings} (hprobe : settings.expectProbe = true)
    (feed : Feed) : ProbeAsks settings feed (awaitProbe settings.wait feed) := by
  have hasked : (readProbe settings.wait (boundWait settings.wait feed).2).2.history.asked =
      feed.history.asked ++
        (bounding settings (boundWait settings.wait feed).1 :: probing feed.script) := by
    rw [asked_readProbe, asked_boundWait, ← (boundWait_twin settings.wait feed).script,
      List.append_assoc]
    rfl
  unfold awaitProbe
  dsimp only
  cases hbounded : (boundWait settings.wait feed).1 with
  | false =>
    rw [hbounded] at hasked
    exact .passed (.refused hprobe) hasked
  | true =>
    rw [hbounded] at hasked
    have hlift := (readProbe settings.wait (boundWait settings.wait feed).2).2.asked_bound none
    rw [hasked, List.append_assoc] at hlift
    simp only [if_true]
    generalize (readProbe settings.wait (boundWait settings.wait feed).2).2.bound none = run
      at hlift ⊢
    obtain ⟨fault | ⟨⟩, last⟩ := run
    · exact .unlifted hprobe hlift
    · exact .passed (.lifted hprobe) hlift

theorem probeStep_asks (settings : Settings) (feed : Feed) :
    ProbeAsks settings feed (probeStep settings feed) := by
  unfold probeStep
  split
  · next hprobe => exact awaitProbe_asks hprobe feed
  · next hprobe =>
    exact .passed (.unprobed (by simpa using hprobe)) (List.append_nil _).symm

/-- **The course of a handshake.** -/
theorem perform_asked (settings : Settings) (feed : Feed) :
    ∃ asked, (perform settings feed).2.history.asked = feed.history.asked ++ asked ∧
      Asked settings feed.script asked ∧
      ∀ outcome, (perform settings feed).1 = .ok outcome →
        Reading settings feed.script asked := by
  have hasks := probeStep_asks settings feed
  generalize hstep : probeStep settings feed = step at hasks
  cases hasks with
  | @passed probe probed opening hopening hasked =>
    -- What follows the probe step only reads.
    obtain ⟨reads, hreads, hread⟩ := (readAnnouncement_onlyRead probed).asked
    have hcourse : Reading settings feed.script (opening ++ reads) :=
      ⟨opening, reads, hopening, hreads, rfl⟩
    refine ⟨opening ++ reads, ?_, .reading hcourse, fun _ _ => hcourse⟩
    rw [perform_of_probeStep_ok hstep, hread, hasked, List.append_assoc]
  | unlifted hprobe hasked =>
    rw [perform_of_probeStep_error hstep]
    exact ⟨_, hasked, .unlifted hprobe, nofun⟩

/-! ## The bound in force -/

/-- The bound that was granted last: what is in force after these requests. -/
def inForce (asked : List Happening) : Option Span :=
  asked.foldl (fun bound => fun
    | .wait limit true => limit
    | _ => bound) none

/-- Reads leave the bound in force as it is. -/
theorem inForce_append {reads : List Happening} (h : ∀ request ∈ reads, request.isRead = true)
    (asked : List Happening) : inForce (asked ++ reads) = inForce asked := by
  rw [inForce, inForce, List.foldl_append]
  generalize asked.foldl _ none = bound
  induction reads with
  | nil => rfl
  | cons request rest ih =>
    obtain ⟨hrequest, hrest⟩ := List.forall_mem_cons.mp h
    rw [List.foldl_cons]
    cases request with
    | read got => exact ih hrest
    | wait | closed | note | testimony => cases hrequest

theorem isRead_probing (script : List Item) :
    ∀ request ∈ probing script, request.isRead = true := by
  fun_induction probing script with
  | case1 | case5 | case6 | case8 => exact List.forall_mem_singleton.mpr rfl
  | case2 rest ih | case3 _ rest ih | case4 rest ih => exact ih
  | case7 cause rest hcause ih => exact List.forall_mem_cons.mpr ⟨rfl, ih⟩

/-- A read that comes before the bound is lifted is one for the probe byte. -/
theorem length_le_of_bounded {script : List Item} {limit : Option Span} {granted lifted : Bool}
    {front back : List Happening} {got : Option Nat}
    (h : .wait limit granted :: probing script ++ [.wait none lifted] =
      front ++ .read got :: back) : front.length ≤ (probing script).length := by
  have hlength := congrArg List.length h
  simp only [List.length_append, List.length_cons, List.length_nil] at hlength
  refine Nat.not_lt.mp fun hlate => ?_
  -- Past the reads for the probe byte there is only the request to lift the bound.
  have hback : back = [] := List.length_eq_zero_iff.mp (by omega)
  rw [hback] at h
  have hlast := (List.append_inj' h rfl).2
  cases hlast

/-- A read in an opening is one for the probe byte. -/
theorem Opening.length_le {settings : Settings} {script : List Item} {opening : List Happening}
    (h : Opening settings script opening) {front back : List Happening} {got : Option Nat}
    (heq : opening = front ++ .read got :: back) :
    settings.expectProbe = true ∧ front.length ≤ (probing script).length := by
  cases h with
  | unprobed => exact absurd heq.symm (List.append_ne_nil_of_right_ne_nil front nofun)
  | refused hprobe =>
    have hlength := congrArg List.length heq
    simp only [List.length_append, List.length_cons] at hlength
    exact ⟨hprobe, by omega⟩
  | lifted hprobe => exact ⟨hprobe, length_le_of_bounded heq⟩

/-- After an opening no bound is in force. -/
theorem Opening.inForce_eq {settings : Settings} {script : List Item} {opening : List Happening}
    (h : Opening settings script opening) : inForce opening = none := by
  cases h with
  | unprobed => rfl
  | refused =>
    exact inForce_append (isRead_probing script) [bounding settings false]
  | lifted =>
    rw [inForce, List.foldl_append]
    rfl

/-- **Only the reads for the probe byte are bounded.** On every course, a read that is none of them
finds no bound in force. -/
theorem Asked.unbounded {settings : Settings} {script : List Item} {asked : List Happening}
    (h : Asked settings script asked) {front back : List Happening} {got : Option Nat}
    (heq : asked = front ++ .read got :: back) :
    (settings.expectProbe = true ∧ front.length ≤ (probing script).length) ∨
      inForce front = none := by
  cases h with
  | nothing => exact absurd heq.symm (List.append_ne_nil_of_right_ne_nil front nofun)
  | unlifted hprobe => exact .inl ⟨hprobe, length_le_of_bounded heq⟩
  | reading h =>
    obtain ⟨opening, reads, hopening, hreads, rfl⟩ := h
    rcases List.append_eq_append_iff.mp heq with ⟨before, rfl, hlater⟩ | ⟨before, hearly, hlater⟩
    · -- Since the opening the channel has only been read.
      refine .inr ((inForce_append (fun request hrequest => ?_) opening).trans hopening.inForce_eq)
      rw [hlater] at hreads
      exact hreads request (List.mem_append_left _ hrequest)
    · cases before with
      | nil =>
        rw [List.append_nil] at hearly
        rw [← hearly]
        exact .inr hopening.inForce_eq
      | cons request between =>
        rw [List.cons_append, List.cons.injEq] at hlater
        rw [← hlater.1] at hearly
        exact .inl (hopening.length_le hearly)

end Handshake

end Screencast
