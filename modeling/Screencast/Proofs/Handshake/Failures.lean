/-
What fails a handshake.

Whether a probe byte comes or not, and whether its wait can be bounded or not, a
handshake goes on and reads the announcement; it then fails as that does, and
in no other way (`Passed`). There is one exception. A channel that bounds the
wait and then refuses to have it unbounded again would cut every later read
short, and the handshake fails with what it refused with, before the name is
read (`probe_step_fails_only_unlifted`).
-/
import Screencast.Proofs.Handshake.Reads

namespace Screencast.Handshake

open Feed

/-! ## The announcement -/

/-- What fails an announcement: the name, or the picture block after it. -/
inductive Unreadable (feed : Feed) (failure : Failure) : Prop
  | name (h : (readName feed).1 = .error failure)
  | picture {device : String} {named : Feed} (hname : readName feed = (.ok device, named))
      (h : (readPicture device named).1 = .error failure)

theorem readAnnouncement_eq_error_iff {feed : Feed} {failure : Failure} :
    (readAnnouncement feed).1 = .error failure ↔ Unreadable feed failure := by
  rcases hname : readName feed with ⟨cause | device, named⟩
  · have hcause : (readName feed).1 = .error cause := by rw [hname]
    rw [show (readAnnouncement feed).1 = .error cause by rw [readAnnouncement, hname]]
    refine ⟨fun h => ?_, fun h => ?_⟩
    · cases h
      exact .name hcause
    · cases h with
      | name h => rw [hcause] at h; cases h; rfl
      | picture hname' => rw [hname] at hname'; cases hname'
  · have hread : readAnnouncement feed = readPicture device named := by
      rw [readAnnouncement, hname]
    rw [hread]
    refine ⟨.picture hname, fun h => ?_⟩
    cases h with
    | name h => rw [hname] at h; cases h
    | picture hname' h =>
      rw [hname] at hname'
      cases hname'
      exact h

/-- Enough bytes are an announcement. -/
theorem readAnnouncement_of_le {feed : Feed} {bytes : List UInt8} {after : List Signal}
    (hsignals : feed.signals = bytes.map .byte ++ after) (h : 76 ≤ bytes.length) :
    ∃ told, (readAnnouncement feed).1 = .ok told := by
  have hunprobed := @perform_whole { expectProbe := false } _ _ _ rfl hsignals h
  obtain ⟨told, hresult, -⟩ := hunprobed.whole h
  rw [perform_of_probeStep_ok rfl] at hresult
  dsimp only at hresult
  cases hread : (readAnnouncement feed).1 with
  | error failure => rw [hread] at hresult; cases hresult
  | ok told => exact ⟨told, rfl⟩

/-! ## The probe step -/

/-- A handshake that has passed the probe step, with what became of the byte. -/
structure Passed (settings : Settings) (feed : Feed) (probe : Probe) (probed : Feed) : Prop where
  step : probeStep settings feed = (.ok probe, probed)
  /-- At most the probe byte is gone. -/
  left : probed.signals = (Signal.probe feed.signals).2
  /-- If the announcement can be read, the handshake succeeds. -/
  reads : ∀ told, (readAnnouncement probed).1 = .ok told →
    (perform settings feed).1 = .ok ⟨told, probe⟩
  /-- It can be read if its bytes are there. -/
  enough : ∀ (bytes : List UInt8) (after : List Signal),
    probed.signals = bytes.map .byte ++ after → 76 ≤ bytes.length →
      ∃ told, (readAnnouncement probed).1 = .ok told
  /-- Whatever fails the handshake fails the announcement. -/
  fails : ∀ failure, (perform settings feed).1 = .error failure ↔ Unreadable probed failure

/-- A probe step is passed if its bound is lifted. -/
theorem passed_of_lifts {settings : Settings} (hprobe : settings.expectProbe = true) {feed : Feed}
    (h : feed.waits.lifts = true) : ∃ probe probed, Passed settings feed probe probed := by
  obtain ⟨hresult, hsignals, -⟩ := @probeStep_finds settings feed fun _ => h
  rcases hstep : probeStep settings feed with ⟨result, probed⟩
  rw [hstep, Signal.probeStep, if_pos hprobe] at hresult hsignals
  dsimp only at hresult hsignals
  subst hresult
  have hperform := congrArg Prod.fst (perform_of_probeStep_ok hstep)
  dsimp only at hperform
  refine ⟨_, probed, hstep, hsignals, fun told hread => ?_,
    fun bytes after => readAnnouncement_of_le, fun failure => ?_⟩
  · rw [hperform, hread]
    rfl
  · rw [← readAnnouncement_eq_error_iff, hperform]
    cases (readAnnouncement probed).1 with
    | error cause => rw [Except.map, Except.error.injEq, Except.error.injEq]
    | ok told => exact iff_of_false nofun nofun

/-- **The probe step fails a handshake only where a bound is not lifted.** On any channel that
says anything, and answers requests for bounded waits in any way: unless it grants the bound and
then refuses to lift it, the handshake goes on, and succeeds or fails as the announcement does. If
it refuses, the handshake fails with that and reads no further. -/
theorem probe_step_fails_only_unlifted {settings : Settings} (hprobe : settings.expectProbe = true)
    (feed : Feed) :
    ((∀ fault later, feed.waits ≠ .answers (none :: some fault :: later)) →
      ∃ probe probed, Passed settings feed probe probed) ∧
    ∀ fault later, feed.waits = .answers (none :: some fault :: later) →
      ∃ last, probeStep settings feed = (.error (.io fault), last) ∧
        perform settings feed = (.error (.io fault), last) := by
  refine ⟨fun hlifts => ?_, fun fault later hwaits => ?_⟩
  · refine passed_of_lifts hprobe ?_
    cases hcase : feed.waits.lifts with
    | true => rfl
    | false =>
      obtain ⟨fault, later, hwaits⟩ := Waits.eq_of_lifts_eq_false hcase
      exact absurd hwaits (hlifts fault later)
  · have hfails := probeStep_of_unlifted hprobe hwaits
    rcases hstep : probeStep settings feed with ⟨result, last⟩
    rw [hstep] at hfails
    dsimp only at hfails
    subst hfails
    exact ⟨last, rfl, perform_of_probeStep_error hstep⟩

/-- A channel that refuses the bound and whose read for the byte fails, and one that grants the
bound and does not lift it. -/
theorem probe_step_fails_only_unlifted_refused :
    let settings : Settings := {}
    let told : Announcement := ⟨"Pixel 7", ⟨.h264, 1080, 2400⟩⟩
    let denied : Fault := .ofKind .permissionDenied
    let feed : Feed := {
      script := [.fault (.ofKind .timedOut), .data told.encode]
      waits := .answers [some denied, some (.ofKind .notConnected)] }
    let unlifted : Feed := { feed with waits := .answers [none, some denied] }
    settings.expectProbe = true ∧
      (∀ fault later, feed.waits ≠ .answers (none :: some fault :: later)) ∧
      (∃ probe probed, Passed settings feed probe probed) ∧
      (perform settings feed).1 = .ok ⟨told, .notReceived⟩ ∧
      ∃ last, perform settings unlifted = (.error (.io denied), last) := by
  intro settings told denied feed unlifted
  have hprobe : settings.expectProbe = true := rfl
  have hlifts : ∀ fault later, feed.waits ≠ .answers (none :: some fault :: later) := nofun
  have hpassed := (probe_step_fails_only_unlifted hprobe feed).1 hlifts
  obtain ⟨last, -, hfails⟩ := (probe_step_fails_only_unlifted hprobe unlifted).2 denied [] rfl
  exact ⟨hprobe, hlifts, hpassed, by decide +kernel, last, hfails⟩

/-- The probe byte comes, and a whole announcement after it; but the bound that was granted is not
lifted. The announcement could be read, and the handshake fails all the same. -/
theorem perform_unlifted_announcement :
    let told : Announcement := ⟨"Pixel 7", ⟨.h264, 1080, 2400⟩⟩
    let denied : Fault := .ofKind .permissionDenied
    let feed : Feed := {
      script := [.data (0 :: told.encode)]
      waits := .answers [none, some denied] }
    (readAnnouncement (probeStep {} feed).2).1 = .ok told ∧
      (perform {} feed).1 = .error (.io denied) ∧
      ¬ Unreadable (probeStep {} feed).2 (.io denied) := by
  intro told denied feed
  have hread : (readAnnouncement (probeStep {} feed).2).1 = .ok told := by decide +kernel
  refine ⟨hread, perform_of_unlifted rfl rfl, fun h => ?_⟩
  rw [readAnnouncement_eq_error_iff.mpr h] at hread
  cases hread

end Screencast.Handshake
