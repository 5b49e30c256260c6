/-
Pauses, before the probe byte and after it.

The read for the probe byte waits through the pauses ahead of it and is
abandoned if they take longer than it waits (`abandons_iff`). Over a channel
that says bytes, with pauses between them, that is the only way to miss the
byte. A byte that is missed is not lost: it is still there for the name. And
nothing else is bounded, so no other pause is seen
(`late_probe_byte_is_kept`).
-/
import Mathlib.Control.Monad.Basic
import Screencast.Proofs.Handshake.Paced

namespace Screencast

namespace Feed

/-! ## Bytes and pauses -/

/-- An item that is bytes or a pause. -/
def Item.isTimed : Item → Bool
  | .data _ | .pause _ => true
  | .gap | .fault _ | .cancel => false

/-- All that a feed has still to say is bytes, with pauses between them. -/
def Timed (feed : Feed) : Prop := ∀ item ∈ feed.script, item.isTimed = true

/-- How long the next thing that a script has to say is waited for, in milliseconds. -/
def delay : List Item → Nat
  | .pause millis :: rest => millis + delay rest
  | .data [] :: rest | .cancel :: rest => delay rest
  | _ => 0

/-- Bytes that come with pauses are not interrupted. -/
theorem Timed.startsInterrupted {feed : Feed} (h : feed.Timed) :
    startsInterrupted feed.script = false := by
  unfold Timed at h
  generalize feed.script = script at h ⊢
  fun_induction Feed.startsInterrupted script with
  | case1 rest ih | case2 millis rest ih | case3 rest ih =>
    exact ih fun item hmem => h item (List.mem_cons_of_mem _ hmem)
  | case4 cause rest => cases h _ List.mem_cons_self
  | case5 | case6 | case7 => rfl

/-- Bytes that come with pauses are all that there is. -/
theorem Timed.signals_eq {feed : Feed} (h : feed.Timed) {bytes : List UInt8}
    (hbytes : Signal.bytes feed.signals = bytes) : feed.signals = bytes.map .byte := by
  rw [← hbytes]
  unfold Timed at h
  unfold signals
  generalize feed.script = script at h ⊢
  induction script with
  | nil => rfl
  | cons item rest ih =>
    obtain ⟨hitem, hrest⟩ := List.forall_mem_cons.mp h
    rw [signalsOf_cons, Signal.bytes_append, List.map_append, ← ih hrest]
    cases item with
    | data bytes => rw [Item.signals_data, Signal.bytes_map_byte]
    | pause => rfl
    | gap | fault | cancel => cases hitem

/-! ## Deadlines -/

namespace Paced

/-- Waiting is given up if the pauses ahead take past the deadline, and not otherwise. -/
theorem await_fst_iff {last now : Nat} (hnow : now ≤ last) {wake : Option Nat}
    (hwake : wake = none) (script : List Item) :
    (await (some last) now wake script).1 = true ↔ last < now + delay script := by
  fun_induction await (some last) now wake script with
  | case1 now wake millis rest due hpast =>
    subst hwake
    -- The first pause alone takes past the deadline.
    have hdue : last < now + millis := of_decide_eq_true hpast
    rw [delay]
    exact iff_of_true rfl (by omega)
  | case2 now wake millis rest due hpast ih =>
    subst hwake
    -- The pause is over in time, and what follows is waited for from its end on.
    have hdue : ¬ last < now + millis := fun hlt => hpast (decide_eq_true hlt)
    have hrest := ih (Nat.not_lt.mp hdue) rfl
    rw [delay, ← Nat.add_assoc]
    exact hrest
  | case3 now wake rest ih | case4 now wake rest ih => exact ih hnow hwake
  | case5 now wake script hpause hdata hcancel =>
    -- What comes next is no pause, and waiting ends at it.
    have hnone : delay script = 0 := by
      unfold delay
      split
      · exact (hpause _ _ rfl).elim
      · exact (hdata _ rfl).elim
      · exact (hcancel _ rfl).elim
      · rfl
    rw [hnone]
    exact iff_of_false Bool.false_ne_true (Nat.not_lt.mpr hnow)

/-- A read that waits for `limit` milliseconds is abandoned if the pauses ahead take longer. -/
theorem abandons_iff {paced : Paced} (hwake : paced.wake = none) (limit : Nat) :
    paced.Abandons (some (paced.now + limit)) ↔ limit < delay paced.feed.script := by
  rw [Abandons, await_fst_iff (Nat.le_add_right _ _) hwake]
  omega

end Paced

end Feed

namespace Handshake

open Feed

/-! ## The probe byte -/

/-- A wait of whole milliseconds, at least one, is the wait that is asked for. -/
theorem millisUp_wait {settings : Settings} {limit : Nat} (hlimit : 1 ≤ limit)
    (h : settings.probeLimit = .ofMillis limit) : settings.wait.millisUp = limit := by
  have hmicros : settings.wait.micros = max (limit * 1000) 1000 := by
    rw [Settings.wait, h]
    rfl
  rw [Span.millisUp, hmicros]
  omega

/-- Over bytes and pauses, the probe byte is missed only if it is late. -/
theorem misses_iff_of_timed {settings : Settings} (hprobe : settings.expectProbe = true)
    {limit : Nat} (hlimit : 1 ≤ limit) (hsettings : settings.probeLimit = .ofMillis limit)
    {paced : Feed.Paced} (htimed : paced.feed.Timed) (hwake : paced.wake = none) :
    Misses settings paced ↔ limit < delay paced.feed.script := by
  rw [Misses, millisUp_wait hlimit hsettings, Paced.abandons_iff hwake, htimed.startsInterrupted]
  simp [hprobe]

/-- **A late probe byte is never lost.** A channel says bytes, at least one, with pauses between
them, and a probe byte is waited for some milliseconds. If the pauses ahead are shorter, the first
byte is the probe byte, and the handshake is one without it on the other bytes, however these come.
If they are longer, the byte has not come, and the handshake is one without it on all the bytes.
How long the other pauses are, and how the bytes are cut into pieces, does not matter. -/
theorem late_probe_byte_is_kept {settings : Settings} (hprobe : settings.expectProbe = true)
    {limit : Nat} (hlimit : 1 ≤ limit) (hsettings : settings.probeLimit = .ofMillis limit)
    {paced : Feed.Paced} (htimed : paced.feed.Timed) (hwake : paced.wake = none) {first : UInt8}
    {rest : List UInt8} (hbytes : Signal.bytes paced.feed.signals = first :: rest) :
    (delay paced.feed.script < limit → ∀ other : Feed.Paced, other.feed.Timed →
      Signal.bytes other.feed.signals = rest →
      SameOpening (performPaced settings paced)
        (withoutProbe settings (.received first) other)) ∧
    (limit < delay paced.feed.script → ∀ other : Feed.Paced, other.feed.Timed →
      Signal.bytes other.feed.signals = first :: rest →
      SameOpening (performPaced settings paced) (withoutProbe settings .notReceived other)) ∧
    ∀ other : Feed.Paced, other.feed.Timed → other.wake = none →
      Signal.bytes other.feed.signals = first :: rest →
      (limit < delay paced.feed.script ↔ limit < delay other.feed.script) →
      SameOpening (performPaced settings paced) (performPaced settings other) := by
  have hmisses := misses_iff_of_timed hprobe hlimit hsettings htimed hwake
  have hsignals := htimed.signals_eq hbytes
  refine ⟨fun hearly other hother hrest => ?_, fun hlate other hother hsame => ?_,
    fun other hother hwake' hsame hside => ?_⟩
  · have hfound := performPaced_finds (mt hmisses.mp (Nat.not_lt.mpr (Nat.le_of_lt hearly)))
    have hunprobed := withoutProbe_finds settings (.received first) other
    -- The probe step has taken the first byte off the signals.
    rw [Signal.handshake_eq, hprobe, hsignals] at hfound
    rw [hother.signals_eq hrest] at hunprobed
    exact .of_finds hfound hunprobed
  · have hfound := performPaced_of_misses (hmisses.mpr hlate)
    rw [hsignals, ← hother.signals_eq hsame] at hfound
    exact .of_finds hfound (withoutProbe_finds settings .notReceived other)
  · have hmisses' := misses_iff_of_timed hprobe hlimit hsettings hother hwake'
    have halike : Misses settings paced ↔ Misses settings other :=
      hmisses.trans (hside.trans hmisses'.symm)
    by_cases hmissed : Misses settings paced
    · have hfound := performPaced_of_misses hmissed
      rw [hsignals, ← hother.signals_eq hsame] at hfound
      exact .of_finds hfound (performPaced_of_misses (halike.mp hmissed))
    · have hfound := performPaced_finds hmissed
      rw [hsignals, ← hother.signals_eq hsame] at hfound
      exact .of_finds hfound (performPaced_finds (mt halike.mpr hmissed))

/-- A name that begins only after two pauses, and is itself interrupted by a long one. -/
theorem late_probe_byte_is_kept_two_pauses :
    let told : Announcement := ⟨"Pixel 7", ⟨.h264, 1080, 2400⟩⟩
    let settings : Settings := { probeLimit := .ofMillis 30 }
    let paced : Feed.Paced := { feed := { script :=
      [.pause 20, .data [], .pause 11, .data (told.encode.take 30), .pause 5000,
        .data (told.encode.drop 30)] } }
    let other : Feed.Paced := { feed := { script := [.data told.encode] } }
    settings.expectProbe = true ∧ 1 ≤ 30 ∧ settings.probeLimit = .ofMillis 30 ∧
      paced.feed.Timed ∧ paced.wake = none ∧
      Signal.bytes paced.feed.signals = 0x50 :: told.encode.tail ∧
      SameOpening (performPaced settings paced) (withoutProbe settings .notReceived other) ∧
      (performPaced settings paced).1 = .ok ⟨told, .notReceived⟩ := by
  intro told settings paced other
  have hprobe : settings.expectProbe = true := rfl
  have hlimit : 1 ≤ 30 := by decide
  have hsettings : settings.probeLimit = .ofMillis 30 := rfl
  have htimed : paced.feed.Timed := by
    show ∀ item ∈ paced.feed.script, item.isTimed = true
    decide +kernel
  have hwake : paced.wake = none := rfl
  have hbytes : Signal.bytes paced.feed.signals = 0x50 :: told.encode.tail := by decide +kernel
  have hlate : 30 < delay paced.feed.script := by decide +kernel
  have hother : other.feed.Timed := by
    show ∀ item ∈ other.feed.script, item.isTimed = true
    decide +kernel
  have hsame : Signal.bytes other.feed.signals = 0x50 :: told.encode.tail := by decide +kernel
  have hkept := late_probe_byte_is_kept hprobe hlimit hsettings htimed hwake hbytes
  exact ⟨hprobe, hlimit, hsettings, htimed, hwake, hbytes, hkept.2.1 hlate other hother hsame,
    by decide +kernel⟩

end Handshake

end Screencast
