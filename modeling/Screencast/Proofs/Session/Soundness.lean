/-
Why a session fails.

Every failure of a session that nobody cancelled tells what its channel did
(`Explains`): the stream ended inside the name, inside the picture block,
inside a header or inside a payload, and so many bytes of it had come; or a
frame declared too large a payload, of which nothing was read; or the channel
reported a fault, to a read or when it was to lift a bound. As the steps of a
session leave the channel, the settings and the limit that it was started with
intact (`Intact`), the failure of one step is explained by what the session was
started with (`perform_explained`).
-/
import Screencast.Proofs.Feed.Gathered
import Screencast.Proofs.Session.Accounts
import Screencast.Proofs.Session.Intact

namespace Screencast

namespace Session

open Feed

/-! ## What explains a failure -/

/-- What a session that is not over has ahead of it once its handshake is made. -/
def ahead (session : Session) : List Signal :=
  if session.phase = .connected then
    (Signal.handshake session.settings.expectProbe session.feed.signals).2
  else session.feed.signals

/-- What happened on the channel explains the failure of a session that was started over `feed`,
in a step from `session` to `last`. -/
inductive Explains (feed : Feed) (settings : Handshake.Settings) (limit : Nat)
    (session last : Session) : Failure → Prop
  /-- The stream ends inside the device name. -/
  | deviceName {field : List UInt8} {after : List Signal} (hphase : session.phase = .connected)
      (hlt : field.length < 64) (hends : Signal.Ends after)
      (hsignals : (Signal.probeStep settings.expectProbe session.feed.signals).2 =
        field.map .byte ++ after) :
      Explains feed settings limit session last (.handshake .deviceName 64 field.length)
  /-- The stream ends inside the picture block. -/
  | codecMeta {name field : List UInt8} {after : List Signal}
      (hphase : session.phase = .connected) (hname : name.length = 64)
      (hlt : field.length < 12) (hends : Signal.Ends after)
      (hsignals : (Signal.probeStep settings.expectProbe session.feed.signals).2 =
        (name ++ field).map .byte ++ after) :
      Explains feed settings limit session last (.handshake .codecMeta 12 field.length)
  /-- The stream ends inside the header of a frame. -/
  | header {part : List UInt8} {after : List Signal} (hpos : 0 < part.length)
      (hlt : part.length < 12) (hends : Signal.Ends after)
      (hsignals : session.ahead = part.map .byte ++ after) :
      Explains feed settings limit session last (.truncated 12 part.length)
  /-- The stream ends inside a payload of an accepted size. -/
  | payload {header : Frame.Header} {part : List UInt8} {after : List Signal}
      (hle : header.size.toNat ≤ limit) (hlt : part.length < header.size.toNat)
      (hends : Signal.Ends after)
      (hsignals : session.ahead = (header.encode ++ part).map .byte ++ after) :
      Explains feed settings limit session last (.truncated header.size.toNat part.length)
  /-- A frame declares too large a payload, and nothing is read behind its header. -/
  | tooLarge {header : Frame.Header} (hlt : limit < header.size.toNat)
      (hsignals : session.ahead = header.encode.map .byte ++ last.feed.signals) :
      Explains feed settings limit session last (.payloadTooLarge header.size.toNat limit)
  /-- The channel reports a fault to a read, which is the last one. -/
  | read {fault : Fault} (hfault : fault.isInterrupted = false)
      (hscript : .fault fault ∈ feed.script)
      (hsignals : .fault fault :: last.feed.signals <:+ session.feed.signals) :
      Explains feed settings limit session last (.io fault)
  /-- The channel grants the bound for the probe byte and reports a fault when it is to lift it. -/
  | unlifted {fault : Fault} {later : List (Option Fault)}
      (hphase : session.phase = .connected) (hprobe : settings.expectProbe = true)
      (hwaits : feed.waits = .answers (none :: some fault :: later)) :
      Explains feed settings limit session last (.io fault)

/-! ## The failure of one step -/

/-- A session that fails and was not cancelled fails for the reason that it has, and asks nothing
more of its channel. -/
theorem failWith_eq_error {α : Type} {session last : Session}
    (hreader : session.reader.isSome = true) {cause failure : Failure}
    (h : session.failWith (α := α) cause = (.error failure, last))
    (hcalm : last.isCancelled = false) :
    session.isCancelled = false ∧ failure = cause ∧
      last.feed.signals = session.feed.signals := by
  have hended := fail_ended session hreader cause
  have hreported := fail_fst session cause
  rw [failWith_eq] at h
  cases h
  have hbefore : session.isCancelled = false := hended.cancelled.symm.trans hcalm
  rw [hbefore] at hreported
  exact ⟨hbefore, hreported, hended.signals⟩

theorem failed_of_pull_error {session last : Session} {failure : Failure}
    (hreader : session.reader.isSome = true) (h : session.pull = (.error failure, last)) :
    last.phase = .failed := by
  rw [pull_eq hreader] at h
  split at h
  · exact (failWith_ends hreader h).1
  · split at h
    · cases h
    · split at h
      · exact (failWith_ends (by rfl) h).1
      · cases h
    · exact (failWith_ends (by rfl) h).1

theorem closed_of_pull_none {session last : Session} (hreader : session.reader.isSome = true)
    (h : session.pull = (.ok none, last)) : last.phase = .closed := by
  rw [pull_eq hreader, failWith_eq] at h
  split at h
  · cases h
  · split at h
    · cases h
    · next intake' hnext =>
      rw [failWith_eq] at h
      split at h
      · cases h
      · cases h
        exact phase_release _ .closed
    · cases h

/-- A handshake that fails fails as the handshake over its channel does. -/
theorem perform_of_openStream_error {session last : Session} {failure : Failure}
    (hreader : session.reader.isSome = true) (h : session.openStream = (.error failure, last))
    (hcalm : last.isCancelled = false) :
    ∃ feed', Handshake.perform session.settings session.feed = (.error failure, feed') ∧
      last.feed.signals = feed'.signals := by
  rw [openStream_eq hreader] at h
  split at h
  · next hcancelled =>
    obtain ⟨hbefore, -, -⟩ := failWith_eq_error hreader h hcalm
    rw [hbefore] at hcancelled
    cases hcancelled
  · split at h
    · cases h
    · next cause feed' hperform =>
      obtain ⟨-, rfl, hsignals⟩ := failWith_eq_error (by exact hreader) h hcalm
      exact ⟨feed', hperform, hsignals⟩

/-- Of a session that is to give a frame and fails, there is no frame in the signals. -/
theorem frame_of_pull_error {session last : Session} {failure : Failure}
    (hreader : session.reader.isSome = true) (hunfinished : session.intake.finished = false)
    (h : session.pull = (.error failure, last)) (hcalm : last.isCancelled = false) :
    ∃ e, failure = .ofWire e ∧
      Signal.frame session.intake.limit session.feed.signals = (.error e, last.feed.signals) := by
  obtain ⟨feed', -, hsignals, hnext⟩ := Intake.next_eq hunfinished
  have hframe : Signal.frame session.intake.limit session.feed.signals =
      ((Signal.frame session.intake.limit session.feed.signals).1, feed'.signals) := by
    rw [hsignals]
    rfl
  rw [pull_eq hreader] at h
  split at h
  · next hcancelled =>
    obtain ⟨hbefore, -, -⟩ := failWith_eq_error hreader h hcalm
    rw [hbefore] at hcancelled
    cases hcancelled
  · rw [hnext] at h
    rw [show session.intake.feed.signals = session.feed.signals from rfl] at h
    rcases hresult : (Signal.frame session.intake.limit session.feed.signals).1 with
      e | _ | frame
    · rw [hresult] at h hframe
      obtain ⟨-, rfl, hlast⟩ := failWith_eq_error (by rfl) h hcalm
      refine ⟨e, rfl, ?_⟩
      rw [hframe, hlast]
      rfl
    · rw [hresult] at h
      dsimp only at h
      split at h
      · -- A request that came with the end would have left the session cancelled.
        next hlate =>
        obtain ⟨hbefore, -, -⟩ := failWith_eq_error (by rfl) h hcalm
        rw [hbefore] at hlate
        cases hlate
      · cases h
    · rw [hresult] at h
      cases h

/-! ## Explanations -/

namespace Intact

variable {feed : Feed} {settings : Handshake.Settings} {limit : Nat} {session last : Session}

/-- A fault that a session met in its signals is one of its channel's. -/
theorem explains_io (h : Intact feed settings limit session) {fault : Fault}
    (hsuffix : .fault fault :: last.feed.signals <:+ session.feed.signals) :
    Explains feed settings limit session last (.io fault) := by
  have hmem : .fault fault ∈ signalsOf session.feed.script := hsuffix.subset List.mem_cons_self
  obtain ⟨hscript, hfault⟩ := fault_mem_signalsOf hmem
  exact .read hfault (h.fault_mem fault hscript) hsuffix

/-- What is ahead of a session whose handshake was made is what the handshake left. -/
theorem ahead_of_opens {opened : Session} (hopens : session.Opens opened) :
    opened.feed.signals = session.ahead := by
  cases hopens with
  | already hstreaming =>
    rw [ahead, if_neg]
    rw [hstreaming.phase_eq]
    nofun
  | @made told opened hconnected hopened =>
    obtain ⟨-, -, outcome, feed', hperform, -, rfl⟩ := openStream_eq_ok hopened
    -- A handshake that succeeds has lifted the bound that it set.
    have hlifts : session.settings.expectProbe = true → session.feed.waits.lifts = true := by
      intro hprobe
      cases hlifts : session.feed.waits.lifts with
      | true => rfl
      | false =>
        obtain ⟨fault, later, hwaits⟩ := Waits.eq_of_lifts_eq_false hlifts
        have hfailed := Handshake.perform_of_unlifted hprobe hwaits
        rw [hperform] at hfailed
        cases hfailed
    have hsignals := (Handshake.perform_finds hlifts).signals
    rw [hperform] at hsignals
    rw [ahead, if_pos hconnected.phase_eq]
    exact hsignals

theorem ahead_suffix (session : Session) : session.ahead <:+ session.feed.signals := by
  unfold ahead
  split
  · exact Signal.handshake_suffix _ _
  · exact List.suffix_rfl

/-- **A handshake that fails is explained.** -/
theorem explains_openStream (h : Intact feed settings limit session)
    (hphase : session.phase = .connected) {failure : Failure}
    (hopened : session.openStream = (.error failure, last)) (hcalm : last.isCancelled = false) :
    Explains feed settings limit session last failure := by
  have hopen : session.phase.isTerminal = false := by rw [hphase]; rfl
  obtain ⟨feed', hperform, hlast⟩ :=
    perform_of_openStream_error (h.lawful.held.reader_of_open hopen) hopened hcalm
  rw [h.settings_eq hopen] at hperform
  by_cases hlifts : settings.expectProbe = true → session.feed.waits.lifts = true
  · obtain ⟨hresult, hsignals, -⟩ := Handshake.perform_finds hlifts
    rw [hperform] at hresult hsignals
    dsimp only at hresult hsignals
    rw [← hlast] at hsignals
    have hprobe := Signal.probeStep_suffix settings.expectProbe session.feed.signals
    -- The probe byte cannot fail the handshake, so it is the announcement that is missing.
    have hannouncement : Signal.announcement
        (Signal.probeStep settings.expectProbe session.feed.signals).2 =
          (.error failure, last.feed.signals) := by
      unfold Signal.handshake at hresult hsignals
      dsimp only at hresult hsignals
      generalize Signal.announcement
        (Signal.probeStep settings.expectProbe session.feed.signals).2 = run at hresult hsignals ⊢
      obtain ⟨failure' | told, rest⟩ := run
      · cases hresult
        rw [hsignals]
      · cases hresult
    rcases Signal.announcement_eq_error hannouncement with
      ⟨field, after, hlt, hends, hfield, rfl⟩ |
      ⟨name, field, after, hname, hlt, hends, hfield, rfl⟩ | ⟨fault, rfl, hsuffix⟩
    · exact .deviceName hphase hlt hends hfield
    · exact .codecMeta hphase hname hlt hends hfield
    · exact h.explains_io (hsuffix.trans hprobe)
  · obtain ⟨hprobe, hunlifted⟩ := Classical.not_imp.mp hlifts
    obtain ⟨fault, later, hwaits⟩ := Waits.eq_of_lifts_eq_false (by simpa using hunlifted)
    have hfailed := Handshake.perform_of_unlifted hprobe hwaits
    rw [hperform] at hfailed
    cases hfailed
    exact .unlifted hphase hprobe ((h.waits_eq hphase).symm.trans hwaits)

/-- **A frame that is not given is explained.** -/
theorem explains_pull (h : Intact feed settings limit session) {opened : Session}
    (hopens : session.Opens opened) {failure : Failure}
    (hpull : opened.pull = (.error failure, last)) (hcalm : last.isCancelled = false) :
    Explains feed settings limit session last failure := by
  have hopened := h.opened hopens
  have hphase := hopens.phase_eq
  have hopen : opened.phase.isTerminal = false := by rw [hphase]; rfl
  obtain ⟨e, rfl, hframe⟩ :=
    frame_of_pull_error hopens.streaming.reader (hopened.unfinished hopen) hpull hcalm
  rw [hopened.limit_eq hopen, ahead_of_opens hopens] at hframe
  rcases Signal.frame_eq_error hframe with
    ⟨part, after, hpos, hlt, hends, hsignals, rfl⟩ |
    ⟨header, part, after, hle, hlt, hends, hsignals, rfl⟩ |
    ⟨header, hlt, hsignals, rfl⟩ | ⟨fault, rfl, hsuffix⟩
  · exact .header hpos hlt hends hsignals
  · exact .payload hle hlt hends hsignals
  · exact .tooLarge hlt hsignals
  · exact h.explains_io (hsuffix.trans (ahead_suffix session))

/-- A frame that is given is no larger than is accepted. -/
theorem length_payload_le (h : Intact feed settings limit session)
    (hopen : session.phase.isTerminal = false) {frame : Frame}
    (hpull : session.pull = (.ok (some frame), last)) : frame.payload.length ≤ limit := by
  obtain ⟨-, intake', hnext, -⟩ := pull_eq_frame hpull
  obtain ⟨hread, -, -⟩ := Intake.next_eq_frame hnext
  have hfinds :=
    Intake.readFrame_finds session.intake.limit session.intake.delivered session.intake.feed
  have hframe := hfinds.eq_found
  rw [hread, h.limit_eq hopen] at hframe
  exact (Signal.frame_eq_ok hframe).1.length_le

end Intact

/-- The failure in an answer. -/
def Answer.failure? : Answer → Option Failure
  | told (.error failure) | gave (.error failure) | yielded (some (.error failure)) => some failure
  | told _ | gave _ | yielded _ | done => none

/-- What may come of one operation on a session that was started over `feed`, in a step from
`session` to `last`. -/
structure Justified (feed : Feed) (settings : Handshake.Settings) (limit : Nat)
    (session last : Session) (answer : Answer) : Prop where
  /-- Only a failure that is told fails the session. -/
  failed : last.phase = .failed ↔ answer.failure?.isSome = true
  explained : ∀ failure, answer.failure? = some failure →
    Explains feed settings limit session last failure
  bounded : ∀ frame, answer.frame? = some frame → frame.payload.length ≤ limit

/-- An answer without a failure needs no explanation. -/
theorem Justified.of_no_failure {feed : Feed} {settings : Handshake.Settings} {limit : Nat}
    {session last : Session} {answer : Answer} (hphase : last.phase ≠ .failed)
    (hanswer : answer.failure? = none)
    (hbounded : ∀ frame, answer.frame? = some frame → frame.payload.length ≤ limit) :
    Justified feed settings limit session last answer where
  failed := iff_of_false hphase (by rw [hanswer]; nofun)
  explained failure hfailure := by
    rw [hanswer] at hfailure
    cases hfailure
  bounded := hbounded

namespace Intact

variable {feed : Feed} {settings : Handshake.Settings} {limit : Nat} {session : Session}

theorem justified_handshake (h : Intact feed settings limit session)
    (hopen : session.phase.isTerminal = false)
    (hcalm : session.handshake.2.isCancelled = false) :
    Justified feed settings limit session session.handshake.2 (.told session.handshake.1) := by
  rcases h.lawful.connected_or_streaming hopen with hconnected | hstreaming
  · rw [handshake_of_connected hconnected.phase_eq] at hcalm ⊢
    rcases hopened : session.openStream with ⟨failure | told, last⟩
    · rw [hopened] at hcalm
      obtain ⟨hfailed, -, -⟩ := openStream_eq_error hconnected.reader hopened
      refine ⟨iff_of_true hfailed rfl, ?_, nofun⟩
      rintro _ ⟨⟩
      exact h.explains_openStream hconnected.phase_eq hopened hcalm
    · have hphase := (Opens.made hconnected hopened).phase_eq
      exact .of_no_failure (by rw [hphase]; nofun) rfl nofun
  · obtain ⟨told, heq⟩ := handshake_of_streaming h.lawful hstreaming.phase_eq
    rw [heq]
    exact .of_no_failure (by rw [hstreaming.phase_eq]; nofun) rfl nofun

theorem justified_next (h : Intact feed settings limit session)
    (hopen : session.phase.isTerminal = false) (hcalm : session.next.2.isCancelled = false) :
    Justified feed settings limit session session.next.2 (.gave session.next.1) := by
  rcases next_cases h.lawful hopen with
    ⟨opened, hopens, heq⟩ | ⟨failure, last, hconnected, hfailed, heq⟩
  · have hstreaming := hopens.phase_eq
    have hreader := hopens.streaming.reader
    rw [heq] at hcalm ⊢
    rcases hpull : opened.pull with ⟨failure | _ | frame, last⟩
    · rw [hpull] at hcalm
      have hfailed := failed_of_pull_error hreader hpull
      refine ⟨iff_of_true hfailed rfl, ?_, nofun⟩
      rintro _ ⟨⟩
      exact h.explains_pull hopens hpull hcalm
    · have hclosed := closed_of_pull_none hreader hpull
      exact .of_no_failure (by rw [hclosed]; nofun) rfl nofun
    · have hgoes : opened.phase.isTerminal = false := by rw [hstreaming]; rfl
      have hle := (h.opened hopens).length_payload_le hgoes hpull
      obtain ⟨-, intake', -, rfl⟩ := pull_eq_frame hpull
      refine .of_no_failure ?_ rfl ?_
      · show opened.phase ≠ .failed
        rw [hstreaming]
        nofun
      · rintro _ ⟨⟩
        exact hle
  · rw [heq] at hcalm ⊢
    obtain ⟨hterminal, -, -⟩ := openStream_eq_error hconnected.reader hfailed
    refine ⟨iff_of_true hterminal rfl, ?_, nofun⟩
    rintro _ ⟨⟩
    exact h.explains_openStream hconnected.phase_eq hfailed hcalm

/-- **Whatever a session is asked that goes on and is not cancelled, what comes of it is
justified.** -/
theorem justified (h : Intact feed settings limit session)
    (hopen : session.phase.isTerminal = false) (operation : Operation)
    (hcalm : (session.perform operation).2.isCancelled = false) :
    Justified feed settings limit session (session.perform operation).2
      (session.perform operation).1 := by
  cases operation with
  | handshake => exact h.justified_handshake hopen hcalm
  | next => exact h.justified_next hopen hcalm
  | iterate =>
    have hnext := h.justified_next hopen hcalm
    have hfailure : (Answer.yielded (item session.next.1)).failure? =
        (Answer.gave session.next.1).failure? := by
      rcases session.next.1 with failure | _ | frame <;> rfl
    refine ⟨?_, fun failure hanswer => ?_, fun frame hanswer => ?_⟩
    · exact hnext.failed.trans (by rw [← hfailure]; rfl)
    · exact hnext.explained failure (hfailure.symm.trans hanswer)
    · exact hnext.bounded frame ((frame?_yielded session.next.1).symm.trans hanswer)
  | close =>
    have hclosed : session.close.phase = .closed := by rw [close_of_open hopen, phase_release]
    exact .of_no_failure (by show session.close.phase ≠ _; rw [hclosed]; nofun) rfl nofun
  | cancel =>
    have hcancelled : session.cancel.isCancelled = true := cancelled_cancel session.feed
    rw [show (session.perform .cancel).2 = session.cancel from rfl, hcancelled] at hcalm
    cases hcalm

end Intact

/-! ## The law -/

/-- **Failures are sound.** A session is started over any channel, and becomes whatever it becomes.
If it is not over, and has not been cancelled by the time that it has answered, it fails only with
what happened on its channel, and gives no frame that is larger than is accepted. -/
theorem perform_explained {feed : Feed} (hclosed : feed.history.closes = 0)
    (settings : Handshake.Settings) (limit : Nat) {session : Session}
    (h : Descends (start feed settings limit) session) (hopen : session.phase.isTerminal = false)
    (operation : Operation) (hcalm : (session.perform operation).2.isCancelled = false) :
    Justified feed settings limit session (session.perform operation).2
      (session.perform operation).1 :=
  (Intact.of_descends hclosed h).justified hopen operation hcalm

/-- A frame of two bytes of which one comes, asked for before the handshake is made. -/
theorem perform_explained_payload :
    let told : Announcement := ⟨"Pixel", ⟨.h264, 1280, 720⟩⟩
    let sent : Frame := ⟨⟨false, true, 7, 2⟩, [0xAB, 0xCD]⟩
    let feed : Feed := {
      script := [.data told.encode, .fault (.ofKind .interrupted),
        .data (sent.header.encode ++ [0xAB])]
      perRead := some ⟨7, by decide⟩ }
    let settings : Handshake.Settings := { expectProbe := false }
    let session := start feed settings 2
    (session.perform .next).2.phase = .failed ∧
      Explains feed settings 2 session (session.perform .next).2 (.truncated 2 1) := by
  intro told sent feed settings session
  have hclosed : feed.history.closes = 0 := rfl
  have hopen : session.phase.isTerminal = false := rfl
  have hcalm : (session.perform .next).2.isCancelled = false := by decide +kernel
  have hfailure : (session.perform .next).1.failure? = some (.truncated 2 1) := by decide +kernel
  have hjustified := perform_explained hclosed settings 2 .refl hopen .next hcalm
  have hfails := hjustified.failed.mpr (Option.isSome_iff_exists.mpr ⟨_, hfailure⟩)
  exact ⟨hfails, hjustified.explained _ hfailure⟩

end Session

end Screencast
