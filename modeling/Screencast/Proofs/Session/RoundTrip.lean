/-
What a device sends is what a session gives.

A stream that was sent part by part says an announcement and a row of frames
(`handshake_stream`). A session over a channel that delivers it finds the
announcement, takes the frames off the row one by one (`answers_row`) and ends
at the boundary behind the last of them (`answers_end`). However the sending
side cut the stream when it wrote it, and however the channel cuts it again,
the two sides agree (`answers_of_sendEach`).
-/
import Screencast.Proofs.Answers
import Screencast.Proofs.Broadcast.Sender
import Screencast.Proofs.Session

namespace Screencast

namespace Feed.Signal

/-- The handshake on a stream that was sent leaves its frames. -/
theorem handshake_stream {expectProbe : Bool} {announcement : Announcement} {device : String}
    (h : DeviceName.decode (DeviceName.encode announcement.device) = .ok device)
    (frames : List Frame) (after : List Signal) :
    handshake expectProbe
        ((Broadcast.stream expectProbe announcement frames).map .byte ++ after) =
      (.ok ⟨⟨device, announcement.picture⟩, if expectProbe then .received 0 else .skipped⟩,
        (frames.flatMap Frame.encode).map .byte ++ after) := by
  have hannouncement := announcement_encode_append h
    ((frames.flatMap Frame.encode).map .byte ++ after)
  cases expectProbe with
  | false =>
    simp only [handshake, probeStep, Broadcast.stream, Bool.false_eq_true, if_false,
      List.nil_append, List.map_append, List.append_assoc]
    rw [hannouncement]
  | true =>
    simp only [handshake, probeStep, Broadcast.stream, if_true, List.map_append, List.map_cons,
      List.cons_append, List.nil_append, List.append_assoc, probe]
    rw [hannouncement]
    rfl

end Feed.Signal

namespace Session

open Feed

/-- As long as its reader gives frames, so does a session that nobody cancels. -/
theorem answers_of_intake (session : Session) {frames : List Frame} {last : Intake}
    (hcalm : session.feed.Calm) (hopen : session.Open .streaming)
    (h : answers Intake.next frames.length session.intake =
      (frames.map fun frame => .ok (some frame), last)) :
    answers next frames.length session =
      (frames.map fun frame => .ok (some frame), session.withIntake last) := by
  induction frames generalizing session with
  | nil =>
    obtain rfl : session.intake = last := congrArg Prod.snd h
    rw [withIntake_intake hopen.reader]
    rfl
  | cons frame more ih =>
    have hsequel : Sequel session.feed session.intake.next.2.feed := session.intake.next_sequel
    rw [List.length_cons, answers_succ, List.map_cons, Prod.mk.injEq, List.cons.injEq] at h
    obtain ⟨⟨hframe, hmore⟩, hlast⟩ := h
    -- Nobody cancels, so the session passes on what its reader gives.
    have hnext : session.next = (.ok (some frame), session.withIntake session.intake.next.2) := by
      have hcancelled : session.isCancelled = false := hcalm.1
      rw [next_of_streaming hopen.phase_eq, pull_eq hopen.reader, if_neg (by simp [hcancelled])]
      generalize session.intake.next = run at hframe ⊢
      obtain ⟨result, intake⟩ := run
      dsimp only at hframe
      rw [hframe]
    rw [List.length_cons, answers_succ, hnext,
      ih (session.withIntake session.intake.next.2) (hsequel.calm hcalm) ⟨hopen.phase_eq, rfl⟩
        (Prod.ext hmore hlast)]
    rfl

/-- At the end of a stream the session closes, and it answers `none` for ever. -/
theorem answers_end (session : Session) (hcalm : session.feed.Calm)
    (hopen : session.Open .streaming) (hunfinished : session.intake.finished = false)
    (hends : Signal.Ends session.feed.signals) (later : Nat) :
    ∃ last, answers next (1 + later) session = (List.replicate (1 + later) (.ok none), last) ∧
      last.phase = .closed ∧ last.feed.total = session.feed.total ∧
      Signal.bytes last.feed.signals = Signal.bytes session.feed.signals := by
  obtain ⟨feed', hsequel, hsignals, hpull⟩ := pull_finds session hcalm hopen.reader hunfinished
  rw [Signal.frame_ends _ hends] at hsignals hpull
  obtain ⟨last, hpull, hended⟩ := hpull
  refine ⟨last, ?_, hended.phase_eq, hended.total.trans hsequel.total, ?_⟩
  · have hterminal : last.phase.isTerminal = true := by rw [hended.phase_eq]; rfl
    rw [Nat.add_comm, answers_succ, next_of_streaming hopen.phase_eq, hpull,
      answers_of_fixed (next_of_terminal hterminal), List.replicate_succ]
  · rw [hended.signals, hsignals, Signal.bytes_tail hends]

/-- A session with a row of frames ahead gives these frames, and closes having read all of them. -/
theorem answers_row (session : Session) {frames : List Frame} {after : List Signal}
    (hframes : ∀ frame ∈ frames, frame.Accepted session.intake.limit)
    (hcalm : session.feed.Calm) (hopen : session.Open .streaming)
    (hunfinished : session.intake.finished = false) (hends : Signal.Ends after)
    (hsignals : session.feed.signals = (frames.flatMap Frame.encode).map .byte ++ after)
    (later : Nat) :
    ∃ last,
      answers next (frames.length + (1 + later)) session =
        ((frames.map fun frame => .ok (some frame)) ++ List.replicate (1 + later) (.ok none),
          last) ∧
      last.phase = .closed ∧ last.feed.total = session.feed.total ∧
      Signal.bytes last.feed.signals = Signal.bytes after := by
  obtain ⟨feed', hsequel, hafter, hrow⟩ :=
    Intake.answers_row session.intake hframes hunfinished hsignals
  obtain ⟨last, hend, hclosed, htotal, hbytes⟩ := answers_end
    (session.withIntake { session.intake with
      feed := feed', delivered := session.intake.delivered + frames.length })
    (hsequel.calm hcalm) ⟨hopen.phase_eq, rfl⟩ hunfinished
    (by show Signal.Ends feed'.signals; rw [hafter]; exact hends) later
  refine ⟨last, ?_, hclosed, htotal.trans hsequel.total, ?_⟩
  · rw [answers_add, answers_of_intake session hcalm hopen hrow, hend]
  · rw [hbytes, ← hafter]
    rfl

/-- **A session gives what was sent.** A sender sends frames after an announcement, and after the
probe byte where the session expects one, and reports no failure; however the bytes are cut when
they are written and again when they are read, and whichever reads are interrupted, the session
learns the announcement, with the name that its field holds, gives every frame in order and then
closes, having read every byte. -/
theorem answers_of_sendEach {settings : Handshake.Settings} {limit : Nat}
    {announcement : Announcement} {frames : List Frame} {sender : Broadcast.Sender} {feed : Feed}
    (hframes : ∀ frame ∈ frames,
      (∃ config keyframe pts payload, Frame.make config keyframe pts payload = .ok frame) ∧
        frame.payload.length ≤ limit)
    (hfresh : sender.drain.taken = []) {written : List UInt8}
    (hsent : ∀ result ∈ (sender.sendEach
      (Broadcast.parts settings.expectProbe announcement frames)).1, result = .ok ())
    (hwritten : (sender.sendEach
      (Broadcast.parts settings.expectProbe announcement frames)).2.drain.taken = written)
    (hfeed : feed.Delivers written) (hcalm : feed.Calm)
    (hlifts : settings.expectProbe = true → feed.waits.lifts = true) :
    ∃ device opened, DeviceName.decode (DeviceName.encode announcement.device) = .ok device ∧
      (start feed settings limit).handshake = (.ok ⟨device, announcement.picture⟩, opened) ∧
      opened.probe = some (if settings.expectProbe then .received 0 else .skipped) ∧
      ∀ later, ∃ last,
        answers next (frames.length + (1 + later)) opened =
          ((frames.map fun frame => .ok (some frame)) ++ List.replicate (1 + later) (.ok none),
            last) ∧
        last.phase = .closed ∧
        last.feed.history.consumed = feed.history.consumed + written.length := by
  have haccepted : ∀ frame ∈ frames, frame.Accepted limit := by
    intro frame hmem
    obtain ⟨⟨config, keyframe, pts, payload, hmake⟩, hle⟩ := hframes frame hmem
    exact ⟨.of_make hmake, hle⟩
  -- The sending side: the drain has taken the whole stream.
  have htaken : written = Broadcast.stream settings.expectProbe announcement frames := by
    rw [← hwritten, Broadcast.Sender.sendEach_taken hsent, hfresh, List.nil_append,
      Broadcast.flatMap_parts]
  obtain ⟨after, hends, hsignals⟩ := hfeed.signals_eq
  obtain ⟨device, hdevice⟩ := DeviceName.exists_decode_encode announcement.device
  -- The receiving side: the handshake finds the announcement and leaves the row of frames.
  have hstart := start_sequel feed settings limit
  obtain ⟨feed', hsequel, hsignals', hopen⟩ :=
    openStream_finds (start feed settings limit) (hstart.calm hcalm) rfl
      (by rw [start_waits]; exact hlifts)
  have hsettings : (start feed settings limit).settings = settings := rfl
  rw [hsettings, signals_start, hsignals, htaken,
    Signal.handshake_stream hdevice] at hsignals' hopen
  refine ⟨device, _, hdevice, hopen, rfl, ?_⟩
  intro later
  obtain ⟨last, hanswers, hclosed, htotal, hbytes⟩ := answers_row
    (((start feed settings limit).withFeed feed').learn ⟨⟨device, announcement.picture⟩,
      if settings.expectProbe then .received 0 else .skipped⟩)
    haccepted (hsequel.calm (hstart.calm hcalm)) ⟨rfl, rfl⟩ rfl hends hsignals' later
  refine ⟨last, hanswers, hclosed, ?_⟩
  -- The bytes consumed and to come add up to the same, and only those behind the end are to come.
  have hsame : last.feed.total = feed.total := htotal.trans (hsequel.total.trans hstart.total)
  rw [Feed.total, Feed.total, hbytes, hsignals, Signal.bytes_append, Signal.bytes_map_byte,
    List.length_append] at hsame
  omega

/-- A keyframe of two bytes, written in pieces with an interruption by a sender that has sent
something else before, and read seven bytes at a time with two. -/
theorem answers_of_sendEach_keyframe :
    let announcement : Announcement := ⟨"Pixel", ⟨.h264, 1280, 720⟩⟩
    let sent : Frame := ⟨⟨false, true, 7, 2⟩, [0xAB, 0xCD]⟩
    let drain : Drain := {
      writePlan := [.takes 1, .fails (.ofKind .interrupted), .takes 50, .takes 20]
      flushPlan := [some (.ofKind .interrupted)] }
    let run := ({ drain, buffer := [7, 7] } : Broadcast.Sender).sendEach
      [.probe, .announcement announcement, .frame sent]
    let bytes := Broadcast.stream true announcement [sent]
    let feed : Feed := {
      script := [.fault (.ofKind .interrupted), .data (bytes.take 40), .data [],
        .fault (.ofKind .interrupted), .data (bytes.drop 40)]
      perRead := some ⟨7, by decide⟩ }
    run.1 = [.ok (), .ok (), .ok ()] ∧ run.2.drain.taken = bytes ∧ feed.Delivers bytes ∧
      ∃ opened, (start feed {} 2).handshake = (.ok announcement, opened) ∧
        opened.probe = some (.received 0) ∧
        (answers next 3 opened).1 = [.ok (some sent), .ok none, .ok none] := by
  intro announcement sent drain run bytes feed
  have hresults : run.1 = [.ok (), .ok (), .ok ()] := by decide +kernel
  have hwritten : run.2.drain.taken = bytes := by decide +kernel
  have hdelivers : feed.Delivers bytes := by decide +kernel
  have hsent : ∀ result ∈ run.1, result = .ok () := by
    rw [hresults]
    simp
  have hname : DeviceName.decode (DeviceName.encode "Pixel") = .ok "Pixel" := by rfl
  obtain ⟨device, opened, hdevice, hopen, hprobe, hanswers⟩ :=
    @answers_of_sendEach {} 2 announcement [sent] { drain, buffer := [7, 7] } feed
      (List.forall_mem_singleton.mpr ⟨⟨false, true, 7, [0xAB, 0xCD], rfl⟩, by decide⟩) rfl bytes
      hsent hwritten hdelivers ⟨rfl, by decide⟩ (fun _ => rfl)
  obtain rfl : device = "Pixel" := Except.ok.inj (hdevice.symm.trans hname)
  obtain ⟨last, hframes, -⟩ := hanswers 1
  exact ⟨hresults, hwritten, hdelivers, opened, hopen, hprobe, congrArg Prod.fst hframes⟩

end Session

end Screencast
