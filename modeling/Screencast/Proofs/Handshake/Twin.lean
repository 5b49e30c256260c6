/-
Handshakes over channels that can do different things.

A request for a bounded wait leaves what a channel has to say as it was, granted
or not (`bound_twin`). So over twin feeds the probe byte is read in the same way
whatever became of the request, and as long as each channel lifts the bound that
it grants, nothing of the requests reaches the outcome of the handshake
(`perform_twins`).
-/
import Screencast.Proofs.Feed.Twin
import Screencast.Proofs.Handshake

namespace Screencast

namespace Feed

theorem Twin.symm {first second : Feed} (h : Twin first second) : Twin second first :=
  ⟨h.script.symm, h.perRead.symm, h.cancelled.symm⟩

theorem Twin.trans {first second third : Feed} (h : Twin first second) (h' : Twin second third) :
    Twin first third where
  script := h.script.trans h'.script
  perRead := h.perRead.trans h'.perRead
  cancelled := h.cancelled.trans h'.cancelled

theorem Twin.signals {first second : Feed} (h : Twin first second) :
    first.signals = second.signals := congrArg signalsOf h.script

/-- A request for a bounded wait leaves a feed with the same to say. -/
theorem bound_twin (feed : Feed) (limit : Option Span) : Twin feed (feed.bound limit).2 := by
  -- Only the answers that are left and the history change.
  have hanswered (waits : Waits) (accepted : Bool) :
      Twin feed ({ feed with waits }.record (.wait limit accepted)) := ⟨rfl, rfl, rfl⟩
  unfold bound
  split
  · exact hanswered feed.waits false
  · exact hanswered _ false
  · exact hanswered _ true
  · exact hanswered feed.waits true

end Feed

namespace Handshake

open Feed

/-! ## The probe byte -/

theorem boundWait_twin (limit : Span) (feed : Feed) : Twin feed (boundWait limit feed).2 := by
  have hbound := bound_twin feed (some limit)
  unfold boundWait
  generalize feed.bound (some limit) = run at hbound ⊢
  obtain ⟨granted, feed'⟩ := run
  cases granted with
  | ok => exact hbound
  | error fault => exact ⟨hbound.script, hbound.perRead, hbound.cancelled⟩

/-- What one read does to the attempt at the probe byte. -/
theorem readProbe_eq (limit : Span) (feed : Feed) :
    readProbe limit feed =
      match feed.read 1 with
      | (.nothing, feed) => (.notReceived, feed.note .probeEnded)
      | (.bytes bytes, feed) =>
        (.received (bytes.headD 0), feed.note (.probeReceived (bytes.headD 0)))
      | (.fault cause, feed) =>
        if cause.isInterrupted then readProbe limit feed
        else if cause.isTimeout then (.notReceived, feed.note (.probeLate limit))
        else (.notReceived, feed.note (.probeFailed cause)) := by
  rw [readProbe]
  split
  · next heq => rw [heq]
  · next heq => rw [heq]
  · next heq => rw [heq]

theorem readProbe_twins {first second : Feed} (h : Twin first second) (limit : Span) :
    Twins (readProbe limit first) (readProbe limit second) := by
  fun_induction readProbe limit first generalizing second with
  | case1 first first' hread =>
    obtain ⟨second', hread', htwin⟩ := (h.read 1).exists_eq hread
    rw [readProbe_eq limit second, hread']
    exact ⟨rfl, htwin.note _ _⟩
  | case2 first bytes first' hread =>
    obtain ⟨second', hread', htwin⟩ := (h.read 1).exists_eq hread
    rw [readProbe_eq limit second, hread']
    exact ⟨rfl, htwin.note _ _⟩
  | case3 first fault first' hread hfault ih =>
    -- Both reads were interrupted, so both are made again.
    obtain ⟨second', hread', htwin⟩ := (h.read 1).exists_eq hread
    rw [readProbe_eq limit second, hread']
    simp only [hfault, if_true]
    exact ih htwin
  | case4 first fault first' hread hfault htimeout =>
    obtain ⟨second', hread', htwin⟩ := (h.read 1).exists_eq hread
    rw [readProbe_eq limit second, hread']
    simp only [hfault, htimeout, if_true]
    exact ⟨rfl, htwin.note _ _⟩
  | case5 first fault first' hread hfault htimeout =>
    obtain ⟨second', hread', htwin⟩ := (h.read 1).exists_eq hread
    rw [readProbe_eq limit second, hread']
    simp only [hfault, htimeout]
    exact ⟨rfl, htwin.note _ _⟩

/-- Lifting the bound leaves what reading the probe byte left. -/
theorem awaitProbe_twin (limit : Span) (feed : Feed) :
    Twin (readProbe limit (boundWait limit feed).2).2 (awaitProbe limit feed).2 := by
  have hlift := bound_twin (readProbe limit (boundWait limit feed).2).2 none
  unfold awaitProbe
  dsimp only
  split
  · split
    · next heq => rwa [heq] at hlift
    · next heq => rwa [heq] at hlift
  · exact .refl _

theorem awaitProbe_twins {first second : Feed} (h : Twin first second)
    (hlifts : first.waits.lifts) (hlifts' : second.waits.lifts) (limit : Span) :
    Twins (awaitProbe limit first) (awaitProbe limit second) where
  result := by
    have hfirst := (awaitProbe_finds limit hlifts).result
    have hsecond := (awaitProbe_finds limit hlifts').result
    rw [hfirst, hsecond, h.signals]
  twin := by
    -- One request may be granted and the other not: the reads between them are twins all the same.
    have hbounded : Twin (boundWait limit first).2 (boundWait limit second).2 :=
      (boundWait_twin limit first).symm.trans (h.trans (boundWait_twin limit second))
    have hread := (readProbe_twins hbounded limit).twin
    exact (awaitProbe_twin limit first).symm.trans (hread.trans (awaitProbe_twin limit second))

theorem probeStep_twins {first second : Feed} (h : Twin first second)
    (hlifts : first.waits.lifts) (hlifts' : second.waits.lifts) (settings : Settings) :
    Twins (probeStep settings first) (probeStep settings second) := by
  unfold probeStep
  split
  · exact awaitProbe_twins h hlifts hlifts' settings.wait
  · exact ⟨rfl, h⟩

/-! ## The announcement -/

theorem readName_twins {first second : Feed} (h : Twin first second) :
    Twins (readName first) (readName second) := by
  have hfield := h.gather DeviceName.width
  unfold readName
  generalize first.gather DeviceName.width = run at hfield ⊢
  generalize second.gather DeviceName.width = run' at hfield ⊢
  obtain ⟨field, first'⟩ := run
  obtain ⟨field', second'⟩ := run'
  obtain ⟨rfl, htwin⟩ := hfield
  cases field with
  | error e => exact ⟨rfl, htwin⟩
  | ok field =>
    dsimp only
    cases DeviceName.decode field with
    | error e => exact ⟨rfl, htwin⟩
    | ok name => exact ⟨rfl, Twin.note htwin _ _⟩

theorem readPicture_twins {first second : Feed} (h : Twin first second) (device : String) :
    Twins (readPicture device first) (readPicture device second) := by
  have hblock := h.gather Picture.wireSize
  unfold readPicture
  generalize first.gather Picture.wireSize = run at hblock ⊢
  generalize second.gather Picture.wireSize = run' at hblock ⊢
  obtain ⟨block, first'⟩ := run
  obtain ⟨block', second'⟩ := run'
  obtain ⟨rfl, htwin⟩ := hblock
  cases block with
  | error e => exact ⟨rfl, htwin⟩
  | ok block =>
    dsimp only
    cases Picture.decode block with
    | error e => exact ⟨rfl, htwin⟩
    | ok picture => exact ⟨rfl, Twin.note htwin _ _⟩

theorem readAnnouncement_twins {first second : Feed} (h : Twin first second) :
    Twins (readAnnouncement first) (readAnnouncement second) := by
  have hname := readName_twins h
  unfold readAnnouncement
  generalize readName first = run at hname ⊢
  generalize readName second = run' at hname ⊢
  obtain ⟨device, first'⟩ := run
  obtain ⟨device', second'⟩ := run'
  obtain ⟨rfl, htwin⟩ := hname
  cases device with
  | error failure => exact ⟨rfl, htwin⟩
  | ok device => exact readPicture_twins htwin device

/-! ## The handshake -/

/-- **Handshakes over twin feeds come to the same**, whatever the channels answer to requests for
bounded waits, as long as they lift the bounds that they grant. -/
theorem perform_twins {first second : Feed} (h : Twin first second)
    (hlifts : first.waits.lifts) (hlifts' : second.waits.lifts) (settings : Settings) :
    Twins (perform settings first) (perform settings second) := by
  have hprobe := probeStep_twins h hlifts hlifts' settings
  unfold perform
  generalize probeStep settings first = run at hprobe ⊢
  generalize probeStep settings second = run' at hprobe ⊢
  obtain ⟨probe, first'⟩ := run
  obtain ⟨probe', second'⟩ := run'
  obtain ⟨rfl, htwin⟩ := hprobe
  cases probe with
  | error failure => exact ⟨rfl, htwin⟩
  | ok probe =>
    have hannouncement := readAnnouncement_twins htwin
    dsimp only at hannouncement ⊢
    generalize readAnnouncement first' = run at hannouncement ⊢
    generalize readAnnouncement second' = run' at hannouncement ⊢
    obtain ⟨told, first''⟩ := run
    obtain ⟨told', second''⟩ := run'
    obtain ⟨rfl, htwin'⟩ := hannouncement
    cases told with
    | error failure => exact ⟨rfl, htwin'⟩
    | ok told => exact ⟨rfl, htwin'⟩

end Handshake

end Screencast
