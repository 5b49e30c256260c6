/-
The handshake as time passes is the handshake.

The probe byte, the name and the picture are found as they stand in the signals
of the feed (`performPaced_finds`), with one exception. The read for the probe
byte is made only once. If it is abandoned, or interrupted, the byte is missed,
and what was to be the byte is left to the name (`performPaced_of_misses`).
Over a prompt feed the byte is never missed (`not_misses_of_prompt`).
-/
import Screencast.Handshake.Paced
import Screencast.Proofs.Feed.Paced
import Screencast.Proofs.Handshake

namespace Screencast

namespace Feed.Signal

/-- Makes the handshake on signals, what became of the probe byte being known. -/
def opening (probe : Probe) (signals : List Signal) :
    Except Failure Handshake.Outcome × List Signal :=
  ((announcement signals).1.map fun told => ⟨told, probe⟩, (announcement signals).2)

/-- A handshake is the probe step, and then the rest. -/
theorem handshake_eq (expectProbe : Bool) (signals : List Signal) :
    handshake expectProbe signals =
      opening (probeStep expectProbe signals).1 (probeStep expectProbe signals).2 := by
  unfold handshake opening
  dsimp only
  rcases announcement (probeStep expectProbe signals).2 with ⟨failure | told, rest⟩ <;> rfl

/-- Whatever became of the probe byte, the rest is a handshake without one. -/
theorem opening_eq (probe : Probe) (signals : List Signal) :
    opening probe signals =
      ((handshake false signals).1.map fun outcome => { outcome with probe },
        (handshake false signals).2) := by
  rw [handshake_eq]
  show opening probe signals =
    ((opening .skipped signals).1.map fun outcome => { outcome with probe },
      (opening .skipped signals).2)
  unfold opening
  rcases announcement signals with ⟨failure | told, rest⟩ <;> rfl

end Feed.Signal

namespace Handshake

open Feed

/-! ## The probe byte -/

/-- The read for the probe byte gives nothing, whatever comes first: it is abandoned, or it is
interrupted. -/
def Misses (settings : Settings) (paced : Feed.Paced) : Prop :=
  settings.expectProbe = true ∧
    (paced.Abandons (some (paced.now + settings.wait.millisUp)) ∨
      startsInterrupted paced.feed.script = true)

theorem not_misses_of_prompt (settings : Settings) {paced : Feed.Paced} (h : paced.feed.Prompt) :
    ¬ Misses settings paced := by
  rintro ⟨-, hlate | hinterrupted⟩
  · exact Paced.not_abandons_of_steady h.steady _ hlate
  · rw [h.startsInterrupted] at hinterrupted
    cases hinterrupted

theorem probeStepPaced_finds {settings : Settings} {paced : Feed.Paced}
    (h : ¬ Misses settings paced) :
    Paced.Finds paced (probeStepPaced settings paced)
      (Signal.probeStep settings.expectProbe paced.feed.signals) := by
  unfold probeStepPaced Signal.probeStep
  split
  · next hprobe =>
    obtain ⟨outcome, paced', hread, hserved⟩ :=
      Paced.readBy_of_not_abandons Nat.one_pos fun hlate => h ⟨hprobe, .inl hlate⟩
    have hdone : outcome.isInterruption = false := by
      rw [hserved.interruption, ← Bool.not_eq_true]
      exact fun hinterrupted => h ⟨hprobe, .inr hinterrupted⟩
    rw [awaitProbePaced, hread, Signal.probe_served hserved.served]
    cases outcome with
    | nothing => exact ⟨rfl, rfl, hserved.prompt⟩
    | bytes bytes => exact ⟨rfl, rfl, hserved.prompt⟩
    | fault cause =>
      rw [Outcome.isInterruption] at hdone
      simp only [hdone]
      exact ⟨rfl, rfl, hserved.prompt⟩
  · exact ⟨rfl, rfl, id⟩

/-- A probe byte that is missed is still to come. -/
theorem probeStepPaced_of_misses {settings : Settings} {paced : Feed.Paced}
    (h : Misses settings paced) :
    Paced.Finds paced (probeStepPaced settings paced) (.notReceived, paced.feed.signals) := by
  obtain ⟨hprobe, hmisses⟩ := h
  rw [probeStepPaced, if_pos hprobe, awaitProbePaced]
  by_cases hlate : paced.Abandons (some (paced.now + settings.wait.millisUp))
  · obtain ⟨paced', hread, hsignals, hprompt⟩ := Paced.readBy_of_abandons hlate 1
    rw [hread]
    exact ⟨rfl, hsignals, hprompt⟩
  · obtain ⟨outcome, paced', hread, hserved⟩ := Paced.readBy_of_not_abandons Nat.one_pos hlate
    have hinterrupted : outcome.isInterruption = true :=
      hserved.interruption.trans (hmisses.resolve_left hlate)
    rw [hread]
    -- Only a fault can be an interruption, and one takes nothing.
    cases outcome with
    | nothing | bytes => cases hinterrupted
    | fault cause => exact ⟨rfl, (hserved.served.of_interrupted hinterrupted).symm, hserved.prompt⟩

/-! ## The announcement -/

theorem readNamePaced_finds (paced : Feed.Paced) :
    Paced.Finds paced (readNamePaced paced) (Signal.name paced.feed.signals) := by
  have hfield := paced.gather_finds DeviceName.width
  unfold readNamePaced Signal.name
  rw [hfield.eq_found]
  generalize paced.gather DeviceName.width = run at hfield ⊢
  obtain ⟨e | field, paced'⟩ := run
  · exact ⟨rfl, rfl, hfield.prompt⟩
  · exact ⟨rfl, rfl, hfield.prompt⟩

theorem readPicturePaced_finds (paced : Feed.Paced) :
    Paced.Finds paced (readPicturePaced paced) (Signal.picture paced.feed.signals) := by
  have hblock := paced.gather_finds Picture.wireSize
  unfold readPicturePaced Signal.picture
  rw [hblock.eq_found]
  generalize paced.gather Picture.wireSize = run at hblock ⊢
  obtain ⟨e | block, paced'⟩ := run
  · exact ⟨rfl, rfl, hblock.prompt⟩
  · exact ⟨rfl, rfl, hblock.prompt⟩

/-- After the probe step the handshake is the announcement. -/
theorem performPaced_of_probeStepPaced {settings : Settings} {paced : Feed.Paced}
    {found : Probe × List Signal} (h : Paced.Finds paced (probeStepPaced settings paced) found) :
    Paced.Finds paced (performPaced settings paced) (Signal.opening found.1 found.2) := by
  rw [h.eq_found]
  unfold performPaced Signal.opening Signal.announcement
  generalize probeStepPaced settings paced = run at h ⊢
  obtain ⟨probe, paced'⟩ := run
  have hname := (readNamePaced_finds paced').after h.prompt
  dsimp only
  rw [hname.eq_found]
  generalize readNamePaced paced' = run at hname ⊢
  obtain ⟨failure | device, paced''⟩ := run
  · exact ⟨rfl, rfl, hname.prompt⟩
  · have hpicture := (readPicturePaced_finds paced'').after hname.prompt
    dsimp only
    rw [hpicture.eq_found]
    generalize readPicturePaced paced'' = run at hpicture ⊢
    obtain ⟨failure | picture, last⟩ := run
    · exact ⟨rfl, rfl, hpicture.prompt⟩
    · exact ⟨rfl, rfl, hpicture.prompt⟩

/-! ## The handshake -/

/-- **The handshake as time passes is the handshake on the signals of the feed**, unless the probe
byte is missed. -/
theorem performPaced_finds {settings : Settings} {paced : Feed.Paced}
    (h : ¬ Misses settings paced) :
    Paced.Finds paced (performPaced settings paced)
      (Signal.handshake settings.expectProbe paced.feed.signals) := by
  rw [Signal.handshake_eq]
  exact performPaced_of_probeStepPaced (probeStepPaced_finds h)

/-- **Where the probe byte is missed**, the announcement is read from where the byte was
expected. -/
theorem performPaced_of_misses {settings : Settings} {paced : Feed.Paced}
    (h : Misses settings paced) :
    Paced.Finds paced (performPaced settings paced)
      (Signal.opening .notReceived paced.feed.signals) :=
  performPaced_of_probeStepPaced (probeStepPaced_of_misses h)

/-! ## Two handshakes -/

/-- Two handshakes that come to the same, and leave the same to be read. -/
structure SameOpening (first second : Except Failure Outcome × Feed.Paced) : Prop where
  result : first.1 = second.1
  left : first.2.feed.signals = second.2.feed.signals

theorem SameOpening.of_finds {paced paced' : Feed.Paced}
    {first second : Except Failure Outcome × Feed.Paced}
    {found : Except Failure Outcome × List Signal} (hfirst : Paced.Finds paced first found)
    (hsecond : Paced.Finds paced' second found) : SameOpening first second :=
  ⟨hfirst.result.trans hsecond.result.symm, hfirst.signals.trans hsecond.signals.symm⟩

/-- The handshake as it is made without a probe byte, and what is then said to have become of the
byte. -/
def withoutProbe (settings : Settings) (probe : Probe) (paced : Feed.Paced) :
    Except Failure Outcome × Feed.Paced :=
  let (result, last) := performPaced { settings with expectProbe := false } paced
  (result.map fun outcome => { outcome with probe }, last)

/-- Whatever is said of the probe byte, without one there is nothing to miss. -/
theorem withoutProbe_finds (settings : Settings) (probe : Probe) (paced : Feed.Paced) :
    Paced.Finds paced (withoutProbe settings probe paced)
      (Signal.opening probe paced.feed.signals) := by
  have hunprobed : ¬ Misses { settings with expectProbe := false } paced := by
    rintro ⟨hprobe, -⟩
    cases hprobe
  obtain ⟨hresult, hsignals, hprompt⟩ := performPaced_finds hunprobed
  rw [Signal.opening_eq]
  exact ⟨congrArg (Except.map _) hresult, hsignals, hprompt⟩

end Handshake

end Screencast
