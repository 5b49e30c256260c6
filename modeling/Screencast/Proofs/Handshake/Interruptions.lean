/-
Interruptions, as time passes.

An interruption says nothing, so a script with more of them, put anywhere
between its items or inside its data, has the same signals
(`Interrupts.signals_eq`). A handshake comes to the same on both, as long as it
is not the read for the probe byte that is interrupted. That read is made only
once: an interruption there is taken for a byte that did not come, and the byte
itself becomes the first of the name
(`interruptions_pass_but_before_probe`).
-/
import Mathlib.Control.Monad.Basic
import Screencast.Proofs.Handshake.Paced

namespace Screencast

namespace Feed

/-- The second script is the first with interruptions put in: between items, or inside data. -/
inductive Interrupts : List Item → List Item → Prop
  | nil : Interrupts [] []
  | keep (item : Item) {script script' : List Item} (h : Interrupts script script') :
      Interrupts (item :: script) (item :: script')
  | insert {fault : Fault} (hfault : fault.isInterrupted = true) {script script' : List Item}
      (h : Interrupts script script') : Interrupts script (.fault fault :: script')
  | cut (front back : List UInt8) {script script' : List Item}
      (h : Interrupts (.data back :: script) script') :
      Interrupts (.data (front ++ back) :: script) (.data front :: script')

namespace Interrupts

variable {script script' : List Item}

theorem refl (script : List Item) : Interrupts script script := by
  induction script with
  | nil => exact .nil
  | cons item rest ih => exact ih.keep item

/-- Interruptions say nothing. -/
theorem signals_eq (h : Interrupts script script') : signalsOf script' = signalsOf script := by
  induction h with
  | nil => rfl
  | keep item _ ih => rw [signalsOf_cons, signalsOf_cons, ih]
  | insert hfault _ ih =>
    rw [signalsOf_cons, ih, Item.signals, if_pos hfault]
    rfl
  | cut front back _ ih =>
    rw [signalsOf_cons, ih, signalsOf_cons, signalsOf_cons, Item.signals_data, Item.signals_data,
      Item.signals_data, List.map_append, List.append_assoc]

/-- No pauses come with interruptions. -/
theorem pause_mem (h : Interrupts script script') {millis : Nat}
    (hmem : .pause millis ∈ script') : .pause millis ∈ script := by
  induction h with
  | nil => exact hmem
  | keep item _ ih =>
    rcases List.mem_cons.mp hmem with rfl | hrest
    · exact List.mem_cons_self
    · exact List.mem_cons_of_mem _ (ih hrest)
  | insert _ _ ih =>
    rcases List.mem_cons.mp hmem with hfault | hrest
    · cases hfault
    · exact ih hrest
  | cut front back _ ih =>
    rcases List.mem_cons.mp hmem with hdata | hrest
    · cases hdata
    · rcases List.mem_cons.mp (ih hrest) with hdata | hlater
      · cases hdata
      · exact List.mem_cons_of_mem _ hlater

/-- A script that starts with an interruption still does with more of them. -/
theorem startsInterrupted (h : Interrupts script script')
    (hstarts : startsInterrupted script = true) : Feed.startsInterrupted script' = true := by
  induction h with
  | nil => exact hstarts
  | keep item _ ih =>
    -- An item that says nothing leaves the start to the rest, and any other decides it.
    match item with
    | .data [] | .pause _ | .cancel => exact ih hstarts
    | .data (_ :: _) | .gap => cases hstarts
    | .fault _ => exact hstarts
  | insert hfault => exact hfault
  | cut front back _ ih =>
    match front with
    | [] => exact ih hstarts
    | _ :: _ => cases hstarts

end Interrupts

end Feed

namespace Handshake

open Feed

/-- Where there are no pauses, the probe byte is missed only for an interruption. -/
theorem misses_iff_of_steady {settings : Settings} {paced : Feed.Paced}
    (h : ∀ millis, .pause millis ∉ paced.feed.script) :
    Misses settings paced ↔
      settings.expectProbe = true ∧ startsInterrupted paced.feed.script = true := by
  have hkept := Paced.not_abandons_of_steady h (some (paced.now + settings.wait.millisUp))
  exact and_congr_right fun _ => or_iff_right hkept

/-- **Interruptions are not seen, but for one before the probe byte.** Interruptions are put into a
script without pauses. If none of them comes first where a probe byte is expected, the handshake
comes to the same, and leaves the same to be read. If one does, the handshake goes on as if no
probe byte were expected, and finds that none came. -/
theorem interruptions_pass_but_before_probe (settings : Settings) {paced paced' : Feed.Paced}
    (hsteady : ∀ millis, .pause millis ∉ paced.feed.script)
    (h : Interrupts paced.feed.script paced'.feed.script) :
    ((settings.expectProbe = true → startsInterrupted paced'.feed.script = true →
        startsInterrupted paced.feed.script = true) →
      SameOpening (performPaced settings paced) (performPaced settings paced')) ∧
    (settings.expectProbe = true → startsInterrupted paced'.feed.script = true →
      SameOpening (performPaced settings paced') (withoutProbe settings .notReceived paced)) := by
  have hsignals : paced'.feed.signals = paced.feed.signals := h.signals_eq
  have hmisses := @misses_iff_of_steady settings paced hsteady
  have hmisses' := @misses_iff_of_steady settings paced' fun millis hmem =>
    hsteady millis (h.pause_mem hmem)
  refine ⟨fun honly => ?_, fun hprobe hstarts => ?_⟩
  · by_cases hmissed : Misses settings paced'
    · obtain ⟨hprobe, hstarts⟩ := hmisses'.mp hmissed
      have hfound := performPaced_of_misses (hmisses.mpr ⟨hprobe, honly hprobe hstarts⟩)
      rw [← hsignals] at hfound
      exact .of_finds hfound (performPaced_of_misses hmissed)
    · -- What starts with an interruption does so with more of them, so neither byte is missed.
      have hkept : ¬ Misses settings paced := fun hmiss => by
        obtain ⟨hprobe, hstarts⟩ := hmisses.mp hmiss
        exact hmissed (hmisses'.mpr ⟨hprobe, h.startsInterrupted hstarts⟩)
      have hfound := performPaced_finds hkept
      rw [← hsignals] at hfound
      exact .of_finds hfound (performPaced_finds hmissed)
  · have hfound := performPaced_of_misses (hmisses'.mpr ⟨hprobe, hstarts⟩)
    rw [hsignals] at hfound
    exact .of_finds hfound (withoutProbe_finds settings .notReceived paced)

/-- Interruptions after the probe byte, inside the piece that it comes with, and before the picture
block. -/
theorem interruptions_pass_but_before_probe_inside :
    let told : Announcement := ⟨"Pixel 7", ⟨.h264, 1080, 2400⟩⟩
    let interruption : Item := .fault (.ofKind .interrupted)
    let paced : Feed.Paced := { feed := { script :=
      [.data (0 :: DeviceName.encode told.device), .data told.picture.encode] } }
    let paced' : Feed.Paced := { feed := { script :=
      [.data [0], interruption, .data (DeviceName.encode told.device), interruption, interruption,
        .data told.picture.encode] } }
    (∀ millis, .pause millis ∉ paced.feed.script) ∧
      Interrupts paced.feed.script paced'.feed.script ∧
      SameOpening (performPaced {} paced) (performPaced {} paced') ∧
      (performPaced {} paced').1 = .ok ⟨told, .received 0⟩ := by
  intro told interruption paced paced'
  have hsteady : ∀ millis, .pause millis ∉ paced.feed.script := by simp [paced]
  have hinterrupts : Interrupts paced.feed.script paced'.feed.script :=
    .cut [0] _ (.insert rfl (.keep _ (.insert rfl (.insert rfl (.refl _)))))
  refine ⟨hsteady, hinterrupts, ?_, by decide +kernel⟩
  exact (interruptions_pass_but_before_probe {} hsteady hinterrupts).1 fun _ h => by cases h

/-- One interruption in front of the probe byte, and every field is read a byte too early. -/
theorem performPaced_interrupted_before_probe :
    let told : Announcement := ⟨"Pixel 7", ⟨.h264, 1080, 2400⟩⟩
    let sent : Item := .data (0 :: told.encode)
    let paced : Feed.Paced := { feed := { script := [sent] } }
    let paced' : Feed.Paced := { feed := { script := [.fault (.ofKind .interrupted), sent] } }
    let shifted : Announcement := ⟨"\x00Pixel 7", ⟨⟨0x00683236⟩, 0x34000004, 0x38000009⟩⟩
    Interrupts paced.feed.script paced'.feed.script ∧
      (performPaced {} paced).1 = .ok ⟨told, .received 0⟩ ∧
      (performPaced {} paced').1 = .ok ⟨shifted, .notReceived⟩ := by
  intro told sent paced paced' shifted
  exact ⟨.insert rfl (.refl _), by decide +kernel, by decide +kernel⟩

end Handshake

end Screencast
