/-
A session that reads ahead answers like one that does not.

One session reads just what it needs and the other buffers whatever comes, but
both are a function of what is still pending: of the bytes in the buffer and
the signals behind them. On these, one call of either is `Signal.frame`
(`pull_finds`), so two sessions with the same pending signals answer alike and
stay so (`Follows.step`). Over one prompt feed they begin so, and they give the
same answers for ever (`answers_eq_of_start`), however far each read goes ahead.
-/
import Screencast.Session.Paced
import Screencast.Proofs.Frame.Reassembly
import Screencast.Proofs.Handshake.Paced
import Screencast.Proofs.Session
import Screencast.Proofs.Answers

namespace Screencast

namespace Feed.Signal

/-! ## Frames behind a buffer -/

/-- Whatever follows it, a header that declares too much is refused. -/
theorem frame_oversized {limit : Nat} {buffer : List UInt8}
    (hheader : Frame.Header.wireSize ≤ buffer.length)
    (hlimit : limit < Frame.Header.declared buffer) (after : List Signal) :
    (frame limit (buffer.map .byte ++ after)).1 =
      .error (.payloadTooLarge (Frame.Header.declared buffer) limit) := by
  obtain ⟨header, rest, hpts, rfl⟩ := Frame.Header.exists_encode_append hheader
  rw [Frame.Header.declared_encode_append] at hlimit ⊢
  rw [List.map_append, List.append_assoc, frame_header limit hpts, if_pos hlimit]

/-- A fault inside a frame is what the frame comes to. -/
theorem frame_fault {limit : Nat} {buffer : List UInt8} (h : Frame.Incomplete limit buffer)
    (cause : Fault) (rest : List Signal) :
    (frame limit (buffer.map .byte ++ .fault cause :: rest)).1 = .error (.io cause) := by
  by_cases hheader : Frame.Header.wireSize ≤ buffer.length
  · obtain ⟨hlimit, hpayload⟩ := h hheader
    obtain ⟨header, payload, hpts, rfl⟩ := Frame.Header.exists_encode_append hheader
    rw [Frame.Header.declared_encode_append] at hlimit hpayload
    rw [List.length_append, Frame.Header.length_encode] at hpayload
    rw [List.map_append, List.append_assoc, frame_header limit hpts, if_neg (by omega),
      gather_fault (by omega)]
  · rw [frame, gather_fault (by omega)]
    rfl

end Feed.Signal

namespace Session.Paced

open Feed

/-- What the session has not given yet: what is buffered, and what is still to come. -/
def pending (session : Session.Paced) : List Signal :=
  session.buffer.buffer.map .byte ++ session.channel.feed.signals

/-! ## One frame -/

/-- How an answer of a session, and what is left of the session, stand for a frame found in signals
and the signals that are left. Anything but a frame finishes the session. -/
inductive Gives (limit : Nat) :
    Except Failure (Option Frame) × Session.Paced →
      Except WireError (Option Frame) × List Signal → Prop
  | frame {frame : Frame} {last : Session.Paced} (hopen : last.finished = false)
      (hlimit : last.buffer.limit = limit) (hprompt : last.channel.feed.Prompt) :
      Gives limit (.ok (some frame), last) (.ok (some frame), last.pending)
  | ended {last : Session.Paced} {rest : List Signal} (hfinished : last.finished = true) :
      Gives limit (.ok none, last) (.ok none, rest)
  | failed {e : WireError} {last : Session.Paced} {rest : List Signal}
      (hfinished : last.finished = true) : Gives limit (.error (.ofWire e), last) (.error e, rest)

theorem Gives.of_error {limit : Nat} {e : WireError} {last : Session.Paced}
    {found : Except WireError (Option Frame) × List Signal} (hfound : found.1 = .error e)
    (hfinished : last.finished = true) : Gives limit (.error (.ofWire e), last) found := by
  obtain ⟨result, rest⟩ := found
  dsimp only at hfound
  subst hfound
  exact .failed hfinished

/-- A stream that has ended leaves what the buffer means. -/
theorem drain_gives (session : Session.Paced)
    (hincomplete : Frame.Incomplete session.buffer.limit session.buffer.buffer)
    {after : List Signal} (hends : Signal.Ends after) :
    Gives session.buffer.limit session.drain
      (Signal.frame session.buffer.limit (session.buffer.buffer.map .byte ++ after)) := by
  have hfound := Signal.frame_leftover hincomplete.leftover hends
  have hlast := Reassembly.last_of_incomplete hincomplete
  rw [← hfound] at hlast
  rw [drain, hlast]
  generalize Signal.frame session.buffer.limit _ = found at hfound ⊢
  obtain ⟨e | _ | frame, rest⟩ := found
  · exact .failed rfl
  · exact .ended rfl
  · exact absurd hfound.symm (Frame.ending_ne_ok_some _ _ _)

/-- **The next frame of a session that reads ahead is the next one in what is pending.** -/
theorem pull_gives {session : Session.Paced} (hprompt : session.channel.feed.Prompt)
    (hopen : session.finished = false) :
    Gives session.buffer.limit session.pull
      (Signal.frame session.buffer.limit session.pending) := by
  fun_induction pull session with
  | case1 session frame buffer hnext =>
    have hbegins := session.buffer.next_next
    rw [hnext] at hbegins
    cases hbegins with
    -- A frame is there already, and nothing is read.
    | @taken _ rest hbuffer hframe =>
      rw [pending, hbuffer, List.map_append, List.append_assoc,
        Signal.frame_encode_append hframe]
      exact .frame hopen rfl hprompt
  | case2 session e buffer hnext =>
    have hbegins := session.buffer.next_next
    rw [hnext] at hbegins
    cases hbegins with
    | refused hheader hlimit => exact .of_error (Signal.frame_oversized hheader hlimit _) rfl
  | case3 session buffer hnext channel hread =>
    have hbegins := session.buffer.next_next
    have hserved := Paced.served_of_read session.ahead.first_pos hread
    rw [hnext] at hbegins
    cases hbegins with
    | waiting hincomplete =>
      exact drain_gives { session with channel } hincomplete hserved.served.ends
  | case4 session buffer hnext bytes channel hread ih =>
    have hbegins := session.buffer.next_next
    have hserved := Paced.served_of_read session.ahead.first_pos hread
    rw [hnext] at hbegins
    cases hbegins with
    | waiting hincomplete =>
      -- Reading moves bytes from the signals into the buffer: what is pending stays as it was.
      have hpending : ({ session with
          channel, buffer := session.buffer.push bytes, ahead := session.ahead.later } :
          Session.Paced).pending = session.pending := by
        rw [pending, pending, Reassembly.push, List.map_append, List.append_assoc,
          hserved.served.bytes_eq]
      rw [← hpending]
      exact ih (hserved.prompt hprompt) hopen
  | case5 session buffer hnext cause channel hread =>
    have hbegins := session.buffer.next_next
    have hserved := Paced.served_of_read session.ahead.first_pos hread
    rw [hnext] at hbegins
    cases hbegins with
    | waiting hincomplete =>
      have hdone : cause.isInterrupted = false :=
        hserved.interruption.trans hprompt.startsInterrupted
      -- The frame is not whole, so without a buffer the fault would be met inside it.
      have hfound := Signal.frame_fault hincomplete cause channel.feed.signals
      rw [← hserved.served.fault_eq hdone] at hfound
      exact .of_error hfound rfl

theorem next_of_finished {session : Session.Paced} (h : session.finished = true) :
    session.next = (.ok none, session) := by
  rw [next, if_pos h]

theorem next_of_open {session : Session.Paced} (h : session.finished = false) :
    session.next = session.pull := by
  rw [next, if_neg (by simp [h])]

/-! ## Two sessions side by side -/

/-- A session that reads ahead and one that does not have the same frames ahead of them. -/
structure Follows (paced : Session.Paced) (session : Session) : Prop where
  calm : session.feed.Calm
  streaming : session.Open .streaming
  unfinished : session.intake.finished = false
  isOpen : paced.finished = false
  limit : paced.buffer.limit = session.intake.limit
  prompt : paced.channel.feed.Prompt
  pending : paced.pending = session.feed.signals

/-- Two sessions have the same ahead of them: the same frames, or nothing any more. -/
def Alike (paced : Session.Paced) (session : Session) : Prop :=
  paced.Follows session ∨ paced.finished = true ∧ session.phase.isTerminal = true

/-- What has the same frames ahead answers alike, and has then the same ahead again. -/
theorem Follows.step {paced : Session.Paced} {session : Session} (h : paced.Follows session) :
    paced.next.1 = session.next.1 ∧ Alike paced.next.2 session.next.2 := by
  have hgives := pull_gives h.prompt h.isOpen
  obtain ⟨feed', hsequel, hsignals, hpull⟩ := pull_finds session h.calm h.streaming.reader h.unfinished
  rw [next_of_open h.isOpen, next_of_streaming h.streaming.phase_eq]
  rw [h.pending, h.limit] at hgives
  generalize Signal.frame session.intake.limit session.feed.signals = found at hgives hsignals hpull
  generalize paced.pull = run at hgives ⊢
  cases hgives with
  | frame hopen hlimit hprompt =>
    dsimp only at hpull hsignals
    rw [hpull]
    exact ⟨rfl, .inl ⟨hsequel.calm h.calm, ⟨h.streaming.phase_eq, rfl⟩, h.unfinished, hopen, hlimit,
      hprompt, hsignals.symm⟩⟩
  | ended hfinished =>
    obtain ⟨last, hpull, hended⟩ := hpull
    rw [hpull]
    exact ⟨rfl, .inr ⟨hfinished, by rw [hended.phase_eq]; rfl⟩⟩
  | failed hfinished =>
    obtain ⟨last, hpull, hended⟩ := hpull
    rw [hpull]
    exact ⟨rfl, .inr ⟨hfinished, by rw [hended.phase_eq]; rfl⟩⟩

theorem Alike.step {paced : Session.Paced} {session : Session} (h : paced.Alike session) :
    paced.next.1 = session.next.1 ∧ Alike paced.next.2 session.next.2 := by
  rcases h with h | ⟨hfinished, hterminal⟩
  · exact h.step
  · rw [next_of_finished hfinished, next_of_terminal hterminal]
    exact ⟨rfl, .inr ⟨hfinished, hterminal⟩⟩

/-- **The two kinds of session agree.** Over one prompt channel, which nobody cancels and which
lifts the bound that it grants, either both fail to open, for the same reason, or both learn the
same announcement and the same of the probe byte, and from then on every call is answered alike,
however far the one reads ahead: the frames, the end, a failure with its numbers, and all that is
asked after these. -/
theorem answers_eq_of_start {channel : Feed.Paced} {settings : Handshake.Settings}
    (hprompt : channel.feed.Prompt) (hcancelled : channel.feed.cancelled = false)
    (hlifts : settings.expectProbe = true → channel.feed.waits.lifts = true) (limit : Nat)
    (ahead : ReadAhead) :
    match (start channel settings limit ahead).1 with
    | .error failure =>
      ((Session.start channel.feed settings limit).handshake).1 = .error failure
    | .ok paced => ∃ session,
        (Session.start channel.feed settings limit).handshake =
          (.ok paced.opening.announcement, session) ∧
        session.probe = some paced.opening.probe ∧
        ∀ calls, (answers next calls paced).1 = (answers Session.next calls session).1 := by
  have hcalm := hprompt.calm hcancelled
  have hstart := start_sequel channel.feed settings limit
  have hpaced := Handshake.performPaced_finds (Handshake.not_misses_of_prompt settings hprompt)
  obtain ⟨feed', hsequel, hsignals, hopen⟩ :=
    openStream_finds (Session.start channel.feed settings limit) (hstart.calm hcalm) rfl
      (by rw [start_waits]; exact hlifts)
  have hsettings : (Session.start channel.feed settings limit).settings = settings := rfl
  rw [hsettings, signals_start, hpaced.eq_found] at hsignals hopen
  unfold start
  -- Both handshakes are now the one on the signals of the channel, and they end alike.
  generalize Handshake.performPaced settings channel = run at hpaced hsignals hopen ⊢
  obtain ⟨failure | opening, channel'⟩ := run
  · obtain ⟨last, hopen, -⟩ := hopen
    exact congrArg Prod.fst hopen
  · refine ⟨_, hopen, rfl, fun calls => ?_⟩
    refine (answers_eq_of_related (fun _ _ => Alike.step) (.inl ?_) calls).1
    have hprompt' := hpaced.prompt hprompt
    exact ⟨hsequel.calm (hstart.calm hcalm), ⟨rfl, rfl⟩, rfl, rfl, rfl, hprompt', hsignals.symm⟩

/-- A frame in pieces of seven bytes, and a fault inside the header of another one. Every read goes
three bytes ahead, and on from there one more than the read before. -/
theorem answers_eq_of_start_pieces :
    let told : Announcement := ⟨"Pixel", ⟨.h264, 1280, 720⟩⟩
    let sent : Frame := ⟨⟨false, true, 7, 2⟩, [0xAB, 0xCD]⟩
    let channel : Feed.Paced := { feed := {
      script := [.data (0 :: told.encode), .data [], .data sent.encode, .data [0x80, 0, 0],
        .fault (.ofKind .connectionReset), .gap]
      perRead := some ⟨7, by decide⟩ } }
    let ahead : ReadAhead := fun reads => ⟨reads + 3, by omega⟩
    ∃ paced session, (start channel {} 2 ahead).1 = .ok paced ∧
      (Session.start channel.feed {} 2).handshake = (.ok paced.opening.announcement, session) ∧
      session.probe = some paced.opening.probe ∧
      (answers next 3 paced).1 = (answers Session.next 3 session).1 := by
  intro told sent channel ahead
  have hprompt : channel.feed.Prompt := by
    show ∀ item ∈ channel.feed.script, item.isPrompt = true
    decide +kernel
  have hopens : (start channel {} 2 ahead).1.isOk = true := by decide +kernel
  have hagree := @answers_eq_of_start channel {} hprompt rfl (fun _ => rfl) 2 ahead
  generalize (start channel {} 2 ahead).1 = opened at hopens hagree ⊢
  cases opened with
  | error failure => cases hopens
  | ok paced =>
    obtain ⟨session, hopen, hprobe, hanswers⟩ := hagree
    exact ⟨paced, session, rfl, hopen, hprobe, hanswers 3⟩

end Session.Paced

end Screencast
