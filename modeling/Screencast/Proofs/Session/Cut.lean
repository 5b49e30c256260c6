/-
Streams that break off.

The bytes of a whole stream may stop coming behind any of them. What a session
makes of that depends on where it is: inside the name, inside the picture block,
between two frames, inside a header or inside a payload. `Transmission.verdict`
says it of every place: the frames that have come whole, and the end. A session
over a channel that delivers no more than the first bytes comes to just that
(`answers_of_cut`). The frames are those that end before the cut, and the end is
clean only if the cut is between two frames (`verdict_whole`, `verdict_clean`).
-/
import Screencast.Proofs.Session.RoundTrip

namespace Screencast

/-! ## What is sent, and what comes of it -/

/-- A whole stream: what a device sends to a session that accepts payloads up to a limit. -/
structure Transmission (limit : Nat) where
  /-- The probe byte, where the transport carries one. -/
  probe : Option UInt8
  /-- The name field. -/
  name : List UInt8
  /-- The picture block. -/
  block : List UInt8
  frames : List Frame
  name_length : name.length = DeviceName.width
  block_length : block.length = Picture.wireSize
  accepted : ∀ frame ∈ frames, frame.Accepted limit

/-- What comes of a row of frames of which so many bytes arrive: the frames that are whole, and the
end. -/
def Frame.cutRow : List Frame → Nat → List Frame × Except Failure (Option Frame)
  | [], _ => ([], .ok none)
  | frame :: rest, left =>
    if frame.wireSize ≤ left then
      let (whole, ending) := cutRow rest (left - frame.wireSize)
      (frame :: whole, ending)
    else if left = 0 then ([], .ok none)
    else if left < Header.wireSize then ([], .error (.truncated Header.wireSize left))
    else ([], .error (.truncated frame.payload.length (left - Header.wireSize)))

namespace Transmission

variable {limit : Nat} (sent : Transmission limit)

/-- What follows the probe byte. -/
def body : List UInt8 := sent.name ++ (sent.block ++ sent.frames.flatMap Frame.encode)

/-- The stream. -/
def bytes : List UInt8 := sent.probe.toList ++ sent.body

/-- Where the first so many frames end. -/
def boundary (count : Nat) : Nat :=
  sent.probe.toList.length + DeviceName.width + Picture.wireSize +
    ((sent.frames.take count).flatMap Frame.encode).length

/-- What comes of a stream of which so many bytes arrive: the frames that are whole, and the end. -/
def verdict (cut : Nat) : List Frame × Except Failure (Option Frame) :=
  let named := cut - sent.probe.toList.length
  let described := named - DeviceName.width
  if named < DeviceName.width then
    ([], .error (.handshake .deviceName DeviceName.width named))
  else if described < Picture.wireSize then
    ([], .error (.handshake .codecMeta Picture.wireSize described))
  else Frame.cutRow sent.frames (described - Picture.wireSize)

end Transmission

/-- The phase of a session that has come to an end. -/
def Session.phaseAt : Except Failure (Option Frame) → Session.Phase
  | .ok _ => .closed
  | .error _ => .failed

/-! ## A row of frames -/

namespace Frame

variable {limit : Nat} {frame : Frame} {left : Nat}

theorem length_take_encode (hlt : left < frame.wireSize) :
    (frame.encode.take left).length = left := by
  rw [List.length_take, length_encode]
  omega

/-- The beginning of a frame that holds its header. -/
theorem take_encode (h : Header.wireSize ≤ left) :
    frame.encode.take left =
      frame.header.encode ++ frame.payload.take (left - Header.wireSize) := by
  have hheader : frame.header.encode.length ≤ left := by rwa [Header.length_encode]
  rw [encode, List.take_append, List.take_of_length_le hheader, Header.length_encode]

/-- The beginning of a frame is no frame. -/
theorem leftover_take (h : frame.Accepted limit) (hlt : left < frame.wireSize) :
    Leftover limit (frame.encode.take left) := by
  intro hheader _
  rw [length_take_encode hlt] at hheader ⊢
  rw [take_encode hheader, Header.declared_encode_append, h.wellFormed.size_eq]
  rw [wireSize] at hlt
  omega

/-- A row that breaks off in its first frame leaves what the reader makes of the beginning. -/
theorem cutRow_of_lt (h : frame.Accepted limit) (hlt : left < frame.wireSize)
    (rest : List Frame) :
    cutRow (frame :: rest) left =
      ([], (ending limit (frame.encode.take left)).mapError .ofWire) := by
  have hlength := length_take_encode hlt
  have hempty : frame.encode.take left = [] ↔ left = 0 := by
    rw [← List.length_eq_zero_iff, hlength]
  simp only [cutRow, if_neg (Nat.not_le.mpr hlt), ending, hempty, hlength]
  by_cases hzero : left = 0
  · rw [if_pos hzero, if_pos hzero]
    rfl
  · rw [if_neg hzero, if_neg hzero]
    by_cases hshort : left < Header.wireSize
    · rw [if_pos hshort, if_pos hshort]
      rfl
    · -- The header has come, and it declares the whole payload.
      have hdeclared : Header.declared (frame.encode.take left) = frame.payload.length := by
        rw [take_encode (Nat.not_lt.mp hshort), Header.declared_encode_append,
          h.wellFormed.size_eq]
      rw [if_neg hshort, if_neg hshort, hdeclared, if_neg (Nat.not_lt.mpr h.length_le)]
      rfl

theorem cutRow_of_le (hle : frame.wireSize ≤ left) (rest : List Frame) :
    cutRow (frame :: rest) left =
      (frame :: (cutRow rest (left - frame.wireSize)).1,
        (cutRow rest (left - frame.wireSize)).2) := by
  rw [cutRow, if_pos hle]

/-- A row that breaks off in its first frame has no whole one, and no clean end but in front of
it. -/
theorem cutRow_inside (hlt : left < frame.wireSize) (rest : List Frame) :
    (cutRow (frame :: rest) left).1 = [] ∧
      ((cutRow (frame :: rest) left).2 = .ok none ↔ left = 0) := by
  simp only [cutRow, if_neg (Nat.not_le.mpr hlt)]
  by_cases hzero : left = 0
  · rw [if_pos hzero]
    exact ⟨rfl, fun _ => hzero, fun _ => rfl⟩
  · rw [if_neg hzero]
    split
    · exact ⟨rfl, nofun, fun h => absurd h hzero⟩
    · exact ⟨rfl, nofun, fun h => absurd h hzero⟩

theorem wireSize_pos (frame : Frame) : 0 < frame.wireSize := by
  rw [wireSize, Header.wireSize]
  omega

theorem length_take_succ (frame : Frame) (rest : List Frame) (count : Nat) :
    (((frame :: rest).take (count + 1)).flatMap encode).length =
      frame.wireSize + ((rest.take count).flatMap encode).length := by
  rw [List.take_succ_cons, List.flatMap_cons, List.length_append, length_encode]

/-- **The frames that come whole are those that end before the cut.** -/
theorem cutRow_whole (frames : List Frame) (left : Nat) :
    (cutRow frames left).1 = frames.take (cutRow frames left).1.length ∧
      ∀ count, 0 < count → count ≤ frames.length →
        (count ≤ (cutRow frames left).1.length ↔
          ((frames.take count).flatMap encode).length ≤ left) := by
  -- Behind a whole frame the rest of the row is cut, so much of it being left as it does not take.
  induction frames generalizing left with
  | nil => exact ⟨rfl, fun count hpos hle => absurd hle (Nat.not_le.mpr hpos)⟩
  | cons frame rest ih =>
    by_cases hle : frame.wireSize ≤ left
    · obtain ⟨hwhole, hcount⟩ := ih (left - frame.wireSize)
      rw [cutRow_of_le hle]
      refine ⟨?_, fun count hpos hlength => ?_⟩
      · rw [List.length_cons, List.take_succ_cons, ← hwhole]
      · obtain ⟨count, rfl⟩ := Nat.exists_eq_succ_of_ne_zero (Nat.ne_of_gt hpos)
        rw [Nat.succ_eq_add_one] at hlength ⊢
        rw [length_take_succ, List.length_cons, Nat.add_le_add_iff_right]
        rw [List.length_cons, Nat.add_le_add_iff_right] at hlength
        cases count with
        | zero => simpa using hle
        | succ count =>
          rw [hcount (count + 1) (Nat.succ_pos count) hlength]
          omega
    · obtain ⟨hnone, -⟩ := cutRow_inside (Nat.not_le.mp hle) rest
      rw [hnone]
      refine ⟨rfl, fun count hpos _ => ?_⟩
      obtain ⟨count, rfl⟩ := Nat.exists_eq_succ_of_ne_zero (Nat.ne_of_gt hpos)
      rw [Nat.succ_eq_add_one, length_take_succ, List.length_nil]
      omega

/-- **The end is clean only between two frames.** -/
theorem cutRow_clean (frames : List Frame) {left : Nat}
    (h : left ≤ (frames.flatMap encode).length) :
    (cutRow frames left).2 = .ok none ↔
      ∃ count ≤ frames.length, left = ((frames.take count).flatMap encode).length := by
  induction frames generalizing left with
  | nil =>
    have hzero : left = 0 := Nat.le_zero.mp h
    subst hzero
    exact ⟨fun _ => ⟨0, Nat.le_refl 0, rfl⟩, fun _ => rfl⟩
  | cons frame rest ih =>
    rw [List.flatMap_cons, List.length_append, length_encode] at h
    by_cases hle : frame.wireSize ≤ left
    · rw [cutRow_of_le hle]
      dsimp only
      rw [ih (by omega)]
      constructor
      · rintro ⟨count, hcount, heq⟩
        refine ⟨count + 1, Nat.succ_le_succ hcount, ?_⟩
        rw [length_take_succ]
        omega
      · rintro ⟨count, hcount, heq⟩
        cases count with
        | zero =>
          -- The first frame is whole, so the cut is not in front of it.
          have hpos := frame.wireSize_pos
          simp only [List.take_zero, List.flatMap_nil, List.length_nil] at heq
          omega
        | succ count =>
          rw [length_take_succ] at heq
          exact ⟨count, Nat.le_of_succ_le_succ hcount, by omega⟩
    · obtain ⟨-, hclean⟩ := cutRow_inside (Nat.not_le.mp hle) rest
      rw [hclean]
      constructor
      · rintro rfl
        exact ⟨0, Nat.zero_le _, rfl⟩
      · rintro ⟨count, hcount, heq⟩
        cases count with
        | zero => simpa using heq
        | succ count =>
          rw [length_take_succ] at heq
          omega

end Frame

/-! ## The handshake -/

namespace Feed.Signal

variable {limit : Nat} (sent : Transmission limit)

/-- The probe byte is taken where it has come, and what follows it is left. -/
theorem probeStep_cut (cut gaps : Nat) :
    ∃ probe gaps', probeStep sent.probe.isSome
        ((sent.bytes.take cut).map .byte ++ List.replicate gaps .gap) =
      (probe, (sent.body.take (cut - sent.probe.toList.length)).map .byte ++
        List.replicate gaps' .gap) := by
  rw [Transmission.bytes]
  cases sent.probe with
  | none => exact ⟨.skipped, gaps, rfl⟩
  | some value =>
    cases cut with
    | succ cut => exact ⟨.received value, gaps, rfl⟩
    | zero =>
      -- The probe byte is missing, and the read that waits for it meets the end.
      cases gaps with
      | zero => exact ⟨.notReceived, 0, rfl⟩
      | succ gaps => exact ⟨.notReceived, gaps, rfl⟩

/-- What is left when the stream breaks off in the name. -/
theorem announcement_of_named_lt {named : Nat} (h : named < DeviceName.width)
    {after : List Signal} (hends : Ends after) :
    announcement ((sent.body.take named).map .byte ++ after) =
      (.error (.handshake .deviceName DeviceName.width named), after.tail) := by
  have hlength : (sent.body.take named).length = named := by
    rw [List.length_take, Transmission.body, List.length_append, sent.name_length]
    omega
  have hgather := gather_short (by rw [hlength]; exact h) hends
  rw [hlength] at hgather
  rw [announcement, name, hgather]
  rfl

/-- The name is taken where it has come. -/
theorem name_of_le {named : Nat} (h : DeviceName.width ≤ named) (after : List Signal) :
    ∃ device, name ((sent.body.take named).map .byte ++ after) =
      (.ok device, ((sent.block ++ sent.frames.flatMap Frame.encode).take
        (named - DeviceName.width)).map .byte ++ after) := by
  obtain ⟨device, hdevice⟩ := DeviceName.exists_decode (Nat.le_of_eq sent.name_length.symm)
  have hname : sent.name.length ≤ named := by rwa [sent.name_length]
  have hgather := gather_map_byte sent.name
    (((sent.block ++ sent.frames.flatMap Frame.encode).take
      (named - DeviceName.width)).map .byte ++ after)
  rw [sent.name_length] at hgather
  refine ⟨device, ?_⟩
  rw [Transmission.body, List.take_append, List.take_of_length_le hname, sent.name_length,
    List.map_append, List.append_assoc, name, hgather]
  dsimp only
  rw [hdevice]
  rfl

/-- What is left when the stream breaks off in the picture block. -/
theorem announcement_of_described_lt {named : Nat} (hnamed : DeviceName.width ≤ named)
    (h : named - DeviceName.width < Picture.wireSize) {after : List Signal}
    (hends : Ends after) :
    announcement ((sent.body.take named).map .byte ++ after) =
      (.error (.handshake .codecMeta Picture.wireSize (named - DeviceName.width)),
        after.tail) := by
  obtain ⟨device, hname⟩ := name_of_le sent hnamed after
  have hlength : ((sent.block ++ sent.frames.flatMap Frame.encode).take
      (named - DeviceName.width)).length = named - DeviceName.width := by
    rw [List.length_take, List.length_append, sent.block_length]
    omega
  have hgather := gather_short (by rw [hlength]; exact h) hends
  rw [hlength] at hgather
  rw [announcement, hname]
  dsimp only
  rw [picture, hgather]
  rfl

/-- The announcement is taken where it has come, and the beginning of a row of frames is left. -/
theorem announcement_of_le {named : Nat}
    (h : DeviceName.width + Picture.wireSize ≤ named) (after : List Signal) :
    ∃ told, announcement ((sent.body.take named).map .byte ++ after) =
      (.ok told, ((sent.frames.flatMap Frame.encode).take
        (named - DeviceName.width - Picture.wireSize)).map .byte ++ after) := by
  obtain ⟨device, hname⟩ := name_of_le sent (by omega : DeviceName.width ≤ named) after
  obtain ⟨told, htold⟩ := Picture.exists_decode (Nat.le_of_eq sent.block_length.symm)
  have hblock : sent.block.length ≤ named - DeviceName.width := by
    rw [sent.block_length]
    omega
  have hgather := gather_map_byte sent.block (((sent.frames.flatMap Frame.encode).take
    (named - DeviceName.width - Picture.wireSize)).map .byte ++ after)
  rw [sent.block_length] at hgather
  refine ⟨⟨device, told⟩, ?_⟩
  rw [announcement, hname]
  dsimp only
  rw [List.take_append, List.take_of_length_le hblock, sent.block_length, List.map_append,
    List.append_assoc, picture, hgather]
  dsimp only
  rw [htold]
  rfl

/-- A handshake comes to what is read behind the probe byte. -/
theorem handshake_of_probeStep {expectProbe : Bool} {signals behind rest : List Signal}
    {probe : Probe} {result : Except Failure Announcement}
    (hprobe : probeStep expectProbe signals = (probe, behind))
    (hfound : announcement behind = (result, rest)) :
    handshake expectProbe signals = (result.map (⟨·, probe⟩), rest) := by
  rw [handshake, hprobe]
  dsimp only
  rw [hfound]
  cases result with
  | error failure => rfl
  | ok told => rfl

/-- The end of a stream is met as often as it is asked for. -/
theorem ends_replicate (gaps : Nat) : Ends (List.replicate gaps .gap) := by
  cases gaps with
  | zero => exact .inl rfl
  | succ gaps => exact .inr ⟨List.replicate gaps .gap, rfl⟩

end Feed.Signal

/-! ## Sessions -/

namespace Session

open Feed

/-- What is left over of a stream is the last answer but for `none`. -/
theorem answers_leftover (session : Session) {bytes : List UInt8} {after : List Signal}
    (hcalm : session.feed.Calm) (hopen : session.Open .streaming)
    (hunfinished : session.intake.finished = false)
    (hleftover : Frame.Leftover session.intake.limit bytes) (hends : Signal.Ends after)
    (hsignals : session.feed.signals = bytes.map .byte ++ after) (later : Nat) :
    ∃ last, answers next (1 + later) session =
        ((Frame.ending session.intake.limit bytes).mapError .ofWire ::
          List.replicate later (.ok none), last) ∧
      last.phase = phaseAt ((Frame.ending session.intake.limit bytes).mapError .ofWire) := by
  obtain ⟨feed', hsequel, -, hpull⟩ := pull_finds session hcalm hopen.reader hunfinished
  have hending := Signal.frame_leftover hleftover hends
  rw [← hsignals] at hending
  rw [hending] at hpull
  have hstop {answer : Except Failure (Option Frame)} {last : Session} {phase : Phase}
      (heq : session.pull = (answer, last)) (hended : Ended session.known phase feed' last)
      (hterminal : phase.isTerminal = true) :
      answers next (1 + later) session = (answer :: List.replicate later (.ok none), last) := by
    have hover : last.phase.isTerminal = true := by rw [hended.phase_eq, hterminal]
    rw [Nat.add_comm, answers_succ, next_of_streaming hopen.phase_eq, heq,
      answers_of_fixed (next_of_terminal hover)]
  rcases hresult : Frame.ending session.intake.limit bytes with e | _ | frame
  · rw [hresult] at hpull
    obtain ⟨last, heq, hended⟩ := hpull
    exact ⟨last, hstop heq hended rfl, hended.phase_eq⟩
  · rw [hresult] at hpull
    obtain ⟨last, heq, hended⟩ := hpull
    exact ⟨last, hstop heq hended rfl, hended.phase_eq⟩
  -- A leftover is never taken for a frame.
  · exact absurd hresult (Frame.ending_ne_ok_some _ _ _)

/-- A session with the beginning of a row of frames ahead gives those that are whole. -/
theorem answers_cutRow (session : Session) {frames : List Frame} {left : Nat}
    {after : List Signal} (hframes : ∀ frame ∈ frames, frame.Accepted session.intake.limit)
    (hcalm : session.feed.Calm) (hopen : session.Open .streaming)
    (hunfinished : session.intake.finished = false) (hends : Signal.Ends after)
    (hsignals : session.feed.signals =
      ((frames.flatMap Frame.encode).take left).map .byte ++ after) (later : Nat) :
    ∃ last, answers next ((Frame.cutRow frames left).1.length + (1 + later)) session =
        (((Frame.cutRow frames left).1.map fun frame => .ok (some frame)) ++
          (Frame.cutRow frames left).2 :: List.replicate later (.ok none), last) ∧
      last.phase = phaseAt (Frame.cutRow frames left).2 := by
  induction frames generalizing session left with
  | nil =>
    have hnothing : session.feed.signals = ([] : List UInt8).map .byte ++ after := by
      rw [hsignals, List.flatMap_nil, List.take_nil]
    obtain ⟨last, hanswers, hlast⟩ := answers_leftover session hcalm hopen hunfinished
      (fun hle => absurd hle (by decide)) hends hnothing later
    refine ⟨last, ?_, hlast⟩
    rw [Frame.cutRow, List.length_nil, Nat.zero_add, hanswers]
    rfl
  | cons frame rest ih =>
    obtain ⟨hframe, hrest⟩ := List.forall_mem_cons.mp hframes
    rw [List.flatMap_cons] at hsignals
    by_cases hle : frame.wireSize ≤ left
    · -- The first frame is whole, and the session goes on behind it.
      have hencode : frame.encode.length ≤ left := by rwa [Frame.length_encode]
      rw [List.take_append, List.take_of_length_le hencode, Frame.length_encode, List.map_append,
        List.append_assoc] at hsignals
      obtain ⟨feed', hsequel, hsignals', hpull⟩ := pull_finds session hcalm hopen.reader hunfinished
      rw [hsignals, Signal.frame_encode_append hframe] at hsignals' hpull
      obtain ⟨last, hanswers, hlast⟩ := ih
        (session.withIntake
          { session.intake with feed := feed', delivered := session.intake.delivered + 1 })
        hrest (hsequel.calm hcalm) ⟨hopen.phase_eq, rfl⟩ hunfinished hsignals'
      refine ⟨last, ?_, ?_⟩
      · rw [Frame.cutRow_of_le hle, List.length_cons, Nat.add_right_comm, answers_succ,
          next_of_streaming hopen.phase_eq, hpull, hanswers]
        rfl
      · rw [Frame.cutRow_of_le hle]
        exact hlast
    · have hlt : left < frame.wireSize := Nat.not_le.mp hle
      have hencode : left ≤ frame.encode.length := by
        rw [Frame.length_encode]
        omega
      rw [List.take_append_of_le_length hencode] at hsignals
      obtain ⟨last, hanswers, hlast⟩ := answers_leftover session hcalm hopen hunfinished
        (Frame.leftover_take hframe hlt) hends hsignals later
      refine ⟨last, ?_, ?_⟩
      · rw [Frame.cutRow_of_lt hframe hlt, List.length_nil, Nat.zero_add, hanswers]
        rfl
      · rw [Frame.cutRow_of_lt hframe hlt]
        exact hlast

/-- What a session makes of a stream: frames, the end, and then nothing. -/
def ComesTo (session : Session) (verdict : List Frame × Except Failure (Option Frame)) : Prop :=
  ∀ later, ∃ last,
    answers next (verdict.1.length + (1 + later)) session =
      ((verdict.1.map fun frame => .ok (some frame)) ++
        verdict.2 :: List.replicate later (.ok none), last) ∧
    last.phase = phaseAt verdict.2

theorem ComesTo.of_error {session last : Session} {failure : Failure}
    (h : session.next = (.error failure, last)) (hfailed : last.phase = .failed) :
    ComesTo session ([], .error failure) := by
  intro later
  have hover : last.phase.isTerminal = true := by rw [hfailed]; rfl
  refine ⟨last, ?_, hfailed⟩
  rw [List.length_nil, Nat.zero_add, Nat.add_comm, answers_succ, h,
    answers_of_fixed (next_of_terminal hover)]
  rfl

theorem ComesTo.of_next {session session' : Session}
    {verdict : List Frame × Except Failure (Option Frame)} (h : ComesTo session verdict)
    (hnext : session'.next = session.next) : ComesTo session' verdict := by
  intro later
  obtain ⟨last, hanswers, hlast⟩ := h later
  refine ⟨last, ?_, hlast⟩
  rw [← hanswers, Nat.add_comm 1 later, ← Nat.add_assoc]
  exact answers_succ_of_next hnext _

end Session

/-! ## Every cut -/

namespace Transmission

open Feed Session

variable {limit : Nat} (sent : Transmission limit)

theorem verdict_of_boundary_le {cut : Nat} (h : sent.boundary 0 ≤ cut) :
    sent.verdict cut = Frame.cutRow sent.frames (cut - sent.boundary 0) := by
  simp only [boundary, List.take_zero, List.flatMap_nil, List.length_nil, Nat.add_zero] at h ⊢
  rw [verdict, if_neg (by omega), if_neg (by omega), Nat.sub_sub, Nat.sub_sub, Nat.add_assoc]

/-- Before the announcement is whole, there is only a failure. -/
theorem verdict_of_lt_boundary {cut : Nat} (h : cut < sent.boundary 0) :
    ∃ failure, sent.verdict cut = ([], .error failure) := by
  simp only [boundary, List.take_zero, List.flatMap_nil, List.length_nil, Nat.add_zero] at h
  have hsize : 0 < Picture.wireSize := by decide
  rw [verdict]
  split
  · exact ⟨_, rfl⟩
  · rw [if_pos (by omega)]
    exact ⟨_, rfl⟩

theorem boundary_eq (count : Nat) :
    sent.boundary count =
      sent.boundary 0 + ((sent.frames.take count).flatMap Frame.encode).length := rfl

/-- **The frames are those that end before the cut.** -/
theorem verdict_whole (cut : Nat) :
    (sent.verdict cut).1 = sent.frames.take (sent.verdict cut).1.length ∧
      ∀ count, 0 < count → count ≤ sent.frames.length →
        (count ≤ (sent.verdict cut).1.length ↔ sent.boundary count ≤ cut) := by
  by_cases h : sent.boundary 0 ≤ cut
  · obtain ⟨hwhole, hcount⟩ := Frame.cutRow_whole sent.frames (cut - sent.boundary 0)
    rw [verdict_of_boundary_le sent h]
    refine ⟨hwhole, fun count hpos hle => ?_⟩
    rw [hcount count hpos hle, boundary_eq sent count]
    omega
  · obtain ⟨failure, hverdict⟩ := verdict_of_lt_boundary sent (Nat.not_le.mp h)
    rw [hverdict]
    refine ⟨rfl, fun count hpos _ => ?_⟩
    rw [boundary_eq sent count, List.length_nil]
    omega

theorem length_bytes : sent.bytes.length = sent.boundary sent.frames.length := by
  rw [bytes, body, boundary, List.take_length, List.length_append, List.length_append,
    List.length_append, sent.name_length, sent.block_length]
  omega

/-- **The end is clean only between two frames.** -/
theorem verdict_clean {cut : Nat} (h : cut ≤ sent.bytes.length) :
    (sent.verdict cut).2 = .ok none ↔
      ∃ count ≤ sent.frames.length, cut = sent.boundary count := by
  by_cases hle : sent.boundary 0 ≤ cut
  · have hrow : cut - sent.boundary 0 ≤ (sent.frames.flatMap Frame.encode).length := by
      rw [length_bytes, boundary_eq sent sent.frames.length, List.take_length] at h
      omega
    rw [verdict_of_boundary_le sent hle, Frame.cutRow_clean sent.frames hrow]
    refine exists_congr fun count => and_congr_right fun _ => ?_
    rw [boundary_eq sent count]
    omega
  · obtain ⟨failure, hverdict⟩ := verdict_of_lt_boundary sent (Nat.not_le.mp hle)
    rw [hverdict]
    refine ⟨nofun, ?_⟩
    rintro ⟨count, -, rfl⟩
    rw [boundary_eq sent count] at hle
    omega

/-- What the handshake comes to over a channel that delivers the beginning of a stream. -/
theorem openStream_of_cut {settings : Handshake.Settings}
    (hprobe : settings.expectProbe = sent.probe.isSome) {cut gaps : Nat} {feed : Feed}
    (hsignals : feed.signals = (sent.bytes.take cut).map .byte ++ List.replicate gaps .gap)
    (hcalm : feed.Calm) (hlifts : settings.expectProbe = true → feed.waits.lifts = true) :
    (∃ failure last, sent.verdict cut = ([], .error failure) ∧ cut < sent.boundary 0 ∧
        (start feed settings limit).openStream = (.error failure, last) ∧
        last.phase = .failed) ∨
      ∃ told opened after, sent.boundary 0 ≤ cut ∧
        (start feed settings limit).openStream = (.ok told, opened) ∧
        opened.feed.Calm ∧ opened.Open .streaming ∧ opened.intake.finished = false ∧
        opened.intake.limit = limit ∧ Signal.Ends after ∧
        opened.feed.signals = ((sent.frames.flatMap Frame.encode).take
          (cut - sent.boundary 0)).map .byte ++ after := by
  have hstart := start_sequel feed settings limit
  obtain ⟨feed', hsequel, hsignals', hopen⟩ := openStream_finds (start feed settings limit)
    (hstart.calm hcalm) rfl (by rw [start_waits]; exact hlifts)
  have hsettings : (start feed settings limit).settings = settings := rfl
  rw [hsettings, hprobe, signals_start, hsignals] at hsignals' hopen
  obtain ⟨probe, gaps', hprobed⟩ := Signal.probeStep_cut sent cut gaps
  have hends := Signal.ends_replicate gaps'
  have hboundary : sent.boundary 0 =
      sent.probe.toList.length + (DeviceName.width + Picture.wireSize) := by
    rw [boundary, List.take_zero, List.flatMap_nil, List.length_nil, Nat.add_zero, Nat.add_assoc]
  -- The announcement breaks off in the name, or in the picture block, or it is whole.
  by_cases hnamed : cut - sent.probe.toList.length < DeviceName.width
  · rw [Signal.handshake_of_probeStep hprobed
      (Signal.announcement_of_named_lt sent hnamed hends)] at hopen
    obtain ⟨last, heq, hended⟩ := hopen
    refine .inl ⟨_, last, ?_, by omega, heq, hended.phase_eq⟩
    rw [verdict, if_pos hnamed]
  · have hnamed' := Nat.not_lt.mp hnamed
    by_cases hdescribed :
        cut - sent.probe.toList.length - DeviceName.width < Picture.wireSize
    · rw [Signal.handshake_of_probeStep hprobed
        (Signal.announcement_of_described_lt sent hnamed' hdescribed hends)] at hopen
      obtain ⟨last, heq, hended⟩ := hopen
      refine .inl ⟨_, last, ?_, by omega, heq, hended.phase_eq⟩
      rw [verdict, if_neg hnamed, if_pos hdescribed]
    · obtain ⟨told, htold⟩ := Signal.announcement_of_le sent
        (by omega : DeviceName.width + Picture.wireSize ≤ cut - sent.probe.toList.length)
        (List.replicate gaps' .gap)
      have hsize : 0 < Picture.wireSize := by decide
      have hleft : cut - sent.probe.toList.length - DeviceName.width - Picture.wireSize =
          cut - sent.boundary 0 := by omega
      rw [Signal.handshake_of_probeStep hprobed htold] at hopen hsignals'
      rw [hleft] at hsignals'
      have hcalm' := hsequel.calm (hstart.calm hcalm)
      exact .inr ⟨told, _, List.replicate gaps' .gap, by omega, hopen, hcalm', ⟨rfl, rfl⟩, rfl, rfl,
        hends, hsignals'⟩

/-- **Every cut of a stream is told apart.** Over a channel that delivers the first bytes of a whole
stream and then finds its end, a session gives the frames that have come whole, in order, and then
the end that the place of the cut means, and it closes only if that end is clean; before the
announcement has come whole the handshake fails in that way, and after that it is made. Of the
frames those are given that end before the cut, and the end is clean only between two frames. -/
theorem answers_of_cut {settings : Handshake.Settings}
    (hprobe : settings.expectProbe = sent.probe.isSome) {cut gaps : Nat}
    (hcut : cut ≤ sent.bytes.length) {feed : Feed}
    (hsignals : feed.signals = (sent.bytes.take cut).map .byte ++ List.replicate gaps .gap)
    (hcalm : feed.Calm) (hlifts : settings.expectProbe = true → feed.waits.lifts = true) :
    (start feed settings limit).ComesTo (sent.verdict cut) ∧
      (cut < sent.boundary 0 → ∃ failure last, (sent.verdict cut).2 = .error failure ∧
        (start feed settings limit).handshake = (.error failure, last) ∧ last.phase = .failed) ∧
      (sent.boundary 0 ≤ cut → ∃ told opened,
        (start feed settings limit).handshake = (.ok told, opened) ∧
          opened.ComesTo (sent.verdict cut)) ∧
      (sent.verdict cut).1 = sent.frames.take (sent.verdict cut).1.length ∧
      (∀ count, 0 < count → count ≤ sent.frames.length →
        (count ≤ (sent.verdict cut).1.length ↔ sent.boundary count ≤ cut)) ∧
      ((sent.verdict cut).2 = .ok none ↔
        ∃ count ≤ sent.frames.length, cut = sent.boundary count) := by
  obtain ⟨hwhole, hcount⟩ := sent.verdict_whole cut
  have hclean := sent.verdict_clean hcut
  have hconnected : (start feed settings limit).phase = .connected := rfl
  have hhandshake : (start feed settings limit).handshake =
      (start feed settings limit).openStream := rfl
  rw [hhandshake]
  rcases sent.openStream_of_cut hprobe hsignals hcalm hlifts with
    ⟨failure, last, hverdict, hlt, hopened, hfailed⟩ |
    ⟨told, opened, after, hle, hopened, hcalm', hopen, hunfinished, hlimit, hends, hrow⟩
  · have hnext : (start feed settings limit).next = (.error failure, last) := by
      rw [next, hconnected]
      dsimp only
      rw [hopened]
    have hcomes : (start feed settings limit).ComesTo (sent.verdict cut) := by
      rw [hverdict]
      exact .of_error hnext hfailed
    refine ⟨hcomes, fun _ => ?_, fun hle => absurd hle (Nat.not_le.mpr hlt), hwhole, hcount, hclean⟩
    exact ⟨failure, last, by rw [hverdict], hopened, hfailed⟩
  · have hpulled : (start feed settings limit).next = opened.next := by
      rw [next, hconnected, next_of_streaming hopen.phase_eq]
      dsimp only
      rw [hopened]
    have hcomes : opened.ComesTo (sent.verdict cut) := by
      intro later
      rw [verdict_of_boundary_le sent hle]
      exact answers_cutRow opened (by rw [hlimit]; exact sent.accepted) hcalm' hopen hunfinished
        hends hrow later
    refine ⟨hcomes.of_next hpulled, fun hlt => absurd hle (Nat.not_le.mpr hlt), fun _ => ?_, hwhole,
      hcount, hclean⟩
    exact ⟨told, opened, hopened, hcomes⟩

/-- A stream of two frames that breaks off before the last byte of the second one. -/
theorem answers_of_cut_payload :
    let told : Announcement := ⟨"Pixel", ⟨.h264, 1280, 720⟩⟩
    let frame : Frame := ⟨⟨false, true, 7, 2⟩, [0xAB, 0xCD]⟩
    let sent : List UInt8 := 0 :: (told.encode ++ frame.encode ++ frame.encode)
    let feed : Feed := {
      script := [.fault (.ofKind .interrupted), .data (sent.take 70), .data [],
        .fault (.ofKind .interrupted), .data ((sent.drop 70).dropLast), .gap]
      perRead := some ⟨7, by decide⟩ }
    ∃ last, answers next 4 (start feed {} 2) =
        ([.ok (some frame), .error (.truncated 2 1), .ok none, .ok none], last) ∧
      last.phase = .failed := by
  intro told frame sent feed
  let whole : Transmission 2 := {
    probe := some 0
    name := DeviceName.encode told.device
    block := told.picture.encode
    frames := [frame, frame]
    name_length := DeviceName.length_encode told.device
    block_length := Picture.length_encode told.picture
    accepted := by
      have hframe : frame.Accepted 2 := ⟨⟨rfl, by decide⟩, by decide⟩
      exact List.forall_mem_cons.mpr ⟨hframe, List.forall_mem_singleton.mpr hframe⟩ }
  have hsignals : feed.signals = (whole.bytes.take 104).map .byte ++ List.replicate 1 .gap := by
    decide +kernel
  have hcalm : feed.Calm := ⟨rfl, by decide +kernel⟩
  have hcut : 104 ≤ whole.bytes.length := by decide +kernel
  obtain ⟨hcomes, -⟩ := @answers_of_cut 2 whole {} rfl 104 1 hcut feed hsignals hcalm (fun _ => rfl)
  have hverdict : whole.verdict 104 = ([frame], .error (.truncated 2 1)) := by rfl
  rw [hverdict] at hcomes
  exact hcomes 2

end Transmission

end Screencast
