/-
Sessions over channels that can do different things.

Besides being read, a channel may bound its waits, be closed and be closed from
outside, and each of these may fail (`Capabilities`). Sessions over channels
that differ in nothing else are peers (`Peers`): what became of such a request is
reported, and then they go on alike. Peers that are asked for the same answer
alike and remain peers (`Peers.agreement`), so nothing that can be seen of a
session depends on what its channel can do.
-/
import Screencast.Proofs.Handshake.Twin
import Screencast.Proofs.Session.Agreement
import Screencast.Proofs.Session.Twin

namespace Screencast

namespace Feed

/-! ## Capabilities -/

/-- What a channel can do besides being read. -/
structure Capabilities where
  waits : Waits := .unsupported
  /-- What closing the channel fails with. -/
  closeFault : Option Fault := none
  /-- What keeps the channel from being closed from outside. -/
  closerFault : Option Fault := none
  deriving DecidableEq, Repr

/-- A channel that says the same as another and can do other things. -/
def withCapabilities (feed : Feed) (capabilities : Capabilities) : Feed :=
  { feed with
    waits := capabilities.waits
    closeFault := capabilities.closeFault
    closerFault := capabilities.closerFault }

theorem twin_withCapabilities (feed : Feed) (capabilities : Capabilities) :
    Twin feed (feed.withCapabilities capabilities) := ⟨rfl, rfl, rfl⟩

/-! ## Twins that are closed or cancelled -/

theorem close_twin (feed : Feed) : Twin feed feed.close := by
  unfold close
  dsimp only
  split
  · exact ⟨rfl, rfl, rfl⟩
  · exact ⟨rfl, rfl, rfl⟩

/-- Closing twins leaves twins, whether or not it fails. -/
theorem Twin.close {first second : Feed} (h : Twin first second) :
    Twin first.close second.close :=
  (close_twin first).symm.trans (h.trans (close_twin second))

theorem Twin.cancel {first second : Feed} (h : Twin first second) :
    Twin first.cancel second.cancel where
  script := by rw [script_cancel, script_cancel, h.script]
  perRead := by rw [perRead_cancel, perRead_cancel, h.perRead]
  cancelled := by rw [cancelled_cancel, cancelled_cancel]

end Feed

open Feed

/-! ## Intakes -/

namespace Intake

/-- Only a frame that is given is counted. -/
theorem delivered_next (intake : Intake) :
    intake.next.2.delivered =
      match intake.next.1 with
      | .ok (some _) => intake.delivered + 1
      | _ => intake.delivered := by
  unfold next
  split
  · rfl
  · rcases readFrame intake.limit intake.delivered intake.feed with ⟨e | _ | frame, feed'⟩
    · rfl
    · rfl
    · rfl

/-- Two intakes that have taken the same and will take the same. -/
structure Peers (first second : Intake) : Prop extends Intake.Twin first second where
  delivered : first.delivered = second.delivered
  consumed : first.feed.history.consumed = second.feed.history.consumed

theorem Peers.next {first second : Intake} (h : Peers first second) :
    first.next.1 = second.next.1 ∧ Peers first.next.2 second.next.2 := by
  obtain ⟨hresult, htwin⟩ := h.toTwin.next
  have hdelivered : first.next.2.delivered = second.next.2.delivered := by
    rw [delivered_next, delivered_next, hresult, h.delivered]
  have hconsumed : first.next.2.feed.history.consumed = second.next.2.feed.history.consumed :=
    (next_sequel first).consumed_eq (next_sequel second) h.feed.signals h.consumed
      htwin.feed.signals
  exact ⟨hresult, htwin, hdelivered, hconsumed⟩

end Intake

/-! ## Sessions -/

namespace Session

/-- Two sessions that have come equally far over channels that say the same. Where the handshake is
still to be made, each channel lifts the bounds that it grants. -/
structure Peers (first second : Session) : Prop where
  intake : Intake.Peers first.intake second.intake
  held : first.Held
  held' : second.Held
  settings : first.settings = second.settings
  phase : first.phase = second.phase
  known : first.known = second.known
  lifts : first.phase = .connected →
    first.feed.waits.lifts = true ∧ second.feed.waits.lifts = true

namespace Peers

variable {first second : Session}

theorem isCancelled (h : Peers first second) : first.isCancelled = second.isCancelled :=
  h.intake.feed.cancelled

theorem view_eq (h : Peers first second) : first.view = second.view := by
  have hframes : first.framesRead = second.framesRead := by
    rw [framesRead_eq, framesRead_eq, h.intake.delivered]
  have hconsumed : first.feed.history.consumed = second.feed.history.consumed := h.intake.consumed
  obtain ⟨hannouncement, hprobe⟩ := Prod.mk.inj h.known
  simp only [view, h.phase, hannouncement, hprobe, hframes, hconsumed]

/-! ### Reports and requests -/

/-- What is put on record does not matter, unless it was a read. -/
theorem record (h : Peers first second) {happening happening' : Happening}
    (hquiet : happening.isQuiet) (hquiet' : happening'.isQuiet) :
    Peers (first.withFeed (first.feed.record happening))
      (second.withFeed (second.feed.record happening')) where
  intake := by
    have hfirst := (Idle.record hquiet first.feed).consumed
    have hsecond := (Idle.record hquiet' second.feed).consumed
    exact ⟨⟨h.intake.feed.record _ _, h.intake.limit, h.intake.finished⟩, h.intake.delivered,
      hfirst.trans (h.intake.consumed.trans hsecond.symm)⟩
  held := h.held
  held' := h.held'
  settings := h.settings
  phase := h.phase
  known := h.known
  lifts := h.lifts

theorem note (h : Peers first second) (notice notice' : Notice) :
    Peers (first.note notice) (second.note notice') := h.record rfl rfl

theorem cancel (h : Peers first second) : Peers first.cancel second.cancel where
  intake := by
    have hfirst := (Idle.cancel first.feed).consumed
    have hsecond := (Idle.cancel second.feed).consumed
    exact ⟨⟨h.intake.feed.cancel, h.intake.limit, h.intake.finished⟩, h.intake.delivered,
      hfirst.trans (h.intake.consumed.trans hsecond.symm)⟩
  held := h.held
  held' := h.held'
  settings := h.settings
  phase := h.phase
  known := h.known
  lifts := by
    intro hphase
    obtain ⟨hfirst, hsecond⟩ := h.lifts hphase
    rw [← waits_cancel first.feed] at hfirst
    rw [← waits_cancel second.feed] at hsecond
    exact ⟨hfirst, hsecond⟩

/-! ### The ways to end -/

/-- What is left to a session that has let go of its channel: a reader that is finished. -/
theorem intake_of_none {session : Session} (h : session.reader = none) :
    session.intake = Reader.over { limit := 0, finished := true } session.feed := by
  rw [Session.intake, h]
  rfl

/-- Peers let go of their channels together, whether or not these can be closed. -/
theorem release (h : Peers first second) {phase : Phase} (hphase : phase.isTerminal = true) :
    Peers (first.release phase) (second.release phase) where
  intake := by
    have hfeed : Feed.Twin (first.release phase).feed (second.release phase).feed := by
      cases hterminal : first.phase.isTerminal with
      | true =>
        have hterminal' : second.phase.isTerminal = true := by rw [← h.phase, hterminal]
        rw [release_of_none (h.held.reader_of_terminal hterminal),
          release_of_none (h.held'.reader_of_terminal hterminal')]
        exact h.intake.feed
      | false =>
        have hopen' : second.phase.isTerminal = false := by rw [← h.phase, hterminal]
        obtain ⟨reader, hreader⟩ := Option.isSome_iff_exists.mp (h.held.reader_of_open hterminal)
        obtain ⟨reader', hreader'⟩ := Option.isSome_iff_exists.mp (h.held'.reader_of_open hopen')
        rw [release_of_reader hreader, release_of_reader hreader']
        exact (Feed.Twin.close h.intake.feed).note (.released phase) (.released phase)
    have hfirst := (release_idle first phase).consumed
    have hsecond := (release_idle second phase).consumed
    rw [intake_of_none (reader_release first phase), intake_of_none (reader_release second phase)]
    exact ⟨⟨hfeed, rfl, rfl⟩, rfl, hfirst.trans (h.intake.consumed.trans hsecond.symm)⟩
  held := .of_release first hphase
  held' := .of_release second hphase
  settings := by rw [settings_release, settings_release, h.settings]
  phase := by rw [phase_release, phase_release]
  known := by rw [known_release, known_release, h.known]
  lifts hconnected := by
    rw [phase_release] at hconnected
    rw [hconnected] at hphase
    cases hphase

theorem fail (h : Peers first second) (failure : Failure) :
    Agree Peers (first.fail failure) (second.fail failure) := by
  have hreported : (first.fail failure).1 = (second.fail failure).1 := by
    rw [fail_fst, fail_fst, h.isCancelled]
  have hnoted := h.note (.sessionFailed (first.fail failure).1 first.phase)
    (.sessionFailed (second.fail failure).1 second.phase)
  exact ⟨hreported, hnoted.release rfl⟩

theorem failWith {α : Type} (h : Peers first second) (failure : Failure) :
    Agree Peers (first.failWith (α := α) failure) (second.failWith failure) := by
  obtain ⟨hreported, hpeers⟩ := h.fail failure
  exact ⟨congrArg Except.error hreported, hpeers⟩

theorem close (h : Peers first second) : Peers first.close second.close := by
  rw [Session.close, Session.close, ← h.phase]
  refine h.release ?_
  split
  · assumption
  · rfl

/-! ### Steps -/

/-- The handshake of peers: bounds that are refused, and bounds that are granted and lifted again,
leave the same stream to be read. -/
theorem openStream (h : Peers first second) (hphase : first.phase = .connected) :
    Agree Peers first.openStream second.openStream := by
  have hreader := h.held.reader_of_open (by rw [hphase]; rfl)
  have hreader' := h.held'.reader_of_open (by rw [← h.phase, hphase]; rfl)
  obtain ⟨hlifts, hlifts'⟩ := h.lifts hphase
  have hperform := Handshake.perform_twins h.intake.feed hlifts hlifts' first.settings
  have hfirst := Handshake.perform_sequel first.settings first.intake.feed
  have hsecond := Handshake.perform_sequel first.settings second.intake.feed
  have hconsumed := hfirst.consumed_eq hsecond h.intake.feed.signals h.intake.consumed
    hperform.twin.signals
  rw [openStream_eq hreader, openStream_eq hreader', ← h.isCancelled, ← h.settings]
  by_cases hcancelled : first.isCancelled = true
  · rw [if_pos hcancelled, if_pos hcancelled]
    exact h.failWith .closed
  · rw [if_neg hcancelled, if_neg hcancelled]
    rw [show first.feed = first.intake.feed from rfl,
      show second.feed = second.intake.feed from rfl]
    generalize Handshake.perform first.settings first.intake.feed = run at hperform hconsumed ⊢
    generalize Handshake.perform first.settings second.intake.feed = run' at hperform hconsumed ⊢
    obtain ⟨result, first'⟩ := run
    obtain ⟨result', second'⟩ := run'
    obtain ⟨rfl, htwin⟩ := hperform
    have hintake : Intake.Peers { first.intake with feed := first' }
        { second.intake with feed := second' } :=
      ⟨⟨htwin, h.intake.limit, h.intake.finished⟩, h.intake.delivered, hconsumed⟩
    cases result with
    | ok outcome => exact ⟨rfl, hintake, hreader, hreader', h.settings, rfl, rfl, nofun⟩
    | error failure =>
      have hpeers : Peers { first.withFeed first' with phase := .handshaking }
          { second.withFeed second' with phase := .handshaking } :=
        ⟨hintake, hreader, hreader', h.settings, rfl, h.known, nofun⟩
      exact hpeers.failWith failure

theorem pull (h : Peers first second) (hopen : first.phase.isTerminal = false)
    (hphase : first.phase ≠ .connected) : Agree Peers first.pull second.pull := by
  have hopen' : second.phase.isTerminal = false := by rw [← h.phase, hopen]
  obtain ⟨hresult, hintake⟩ := h.intake.next
  rw [pull_eq (h.held.reader_of_open hopen), pull_eq (h.held'.reader_of_open hopen'),
    ← h.isCancelled]
  by_cases hcancelled : first.isCancelled = true
  · rw [if_pos hcancelled, if_pos hcancelled]
    exact h.failWith .closed
  · rw [if_neg hcancelled, if_neg hcancelled]
    generalize first.intake.next = run at hresult hintake ⊢
    generalize second.intake.next = run' at hresult hintake ⊢
    obtain ⟨result, first'⟩ := run
    obtain ⟨result', second'⟩ := run'
    dsimp only at hresult hintake
    subst hresult
    have hpeers : Peers (first.withIntake first') (second.withIntake second') :=
      ⟨hintake, .withIntake hopen first', .withIntake hopen' second', h.settings, h.phase, h.known,
        fun hconnected => absurd hconnected hphase⟩
    rcases result with e | _ | frame
    · exact hpeers.failWith (.ofWire e)
    · -- A request to cancel that came with the end came on both channels.
      dsimp only
      rw [← hpeers.isCancelled]
      split
      · exact hpeers.failWith .closed
      · exact ⟨rfl, (hpeers.note (.streamEnded first'.delivered)
          (.streamEnded second'.delivered)).release rfl⟩
    · exact ⟨rfl, hpeers⟩

/-- **Peers answer alike, and stay peers.** -/
theorem agreement : Agreement Peers where
  view_eq := view_eq
  openStream := openStream
  pull := pull
  close := close
  cancel := cancel

/-! ### Fresh sessions -/

/-- Whether a channel can be closed from outside is only reported. -/
theorem start {feed : Feed} (hlifts : feed.waits.lifts = true) {capabilities : Capabilities}
    (hlifts' : capabilities.waits.lifts = true) (settings : Handshake.Settings) (limit : Nat) :
    Peers (start feed settings limit)
      (start (feed.withCapabilities capabilities) settings limit) := by
  have hfirst := start_sequel feed settings limit
  have hsecond := start_sequel (feed.withCapabilities capabilities) settings limit
  have htwin (feed : Feed) : Feed.Twin feed (Session.start feed settings limit).feed := by
    rcases feed_start feed settings limit with hfeed | ⟨notice, hfeed⟩
    · rw [hfeed]
      exact .refl feed
    · rw [hfeed]
      exact ⟨rfl, rfl, rfl⟩
  have hfeeds : Feed.Twin (Session.start feed settings limit).feed
      (Session.start (feed.withCapabilities capabilities) settings limit).feed :=
    (htwin feed).symm.trans ((twin_withCapabilities feed capabilities).trans (htwin _))
  have hconsumed := hfirst.consumed_eq hsecond rfl rfl hfeeds.signals
  refine ⟨⟨⟨hfeeds, rfl, rfl⟩, rfl, hconsumed⟩, rfl, rfl, rfl, rfl, rfl, fun _ => ?_⟩
  rw [start_waits, start_waits]
  exact ⟨hlifts, hlifts'⟩

end Peers

end Session

end Screencast
