/-
An intake accepts exactly the grammar of frames.

`Signal.frame` reads one frame off signals, and reading a frame from a feed is
that (`readFrame_finds`). On a row of frames it takes them off one by one
(`frame_encode_append`), and on a leftover it ends as the grammar says
(`frame_leftover`). So the answers of an intake over a feed that delivers some
bytes are the frames into which these bytes can be taken apart, in order, then
the end that their leftover means, and nothing ever after
(`answers_eq_grammar`).
-/
import Screencast.Intake
import Screencast.Proofs.Answers
import Screencast.Proofs.Feed.Gather
import Screencast.Proofs.Frame.Grammar

namespace Screencast

namespace Feed

/-- Before the stream of a feed ends it delivers just these bytes, however they are cut and however
often reads are interrupted. -/
def Delivers (feed : Feed) (bytes : List UInt8) : Prop :=
  feed.signals.takeWhile (· ≠ .gap) = bytes.map .byte

instance (feed : Feed) (bytes : List UInt8) : Decidable (feed.Delivers bytes) :=
  inferInstanceAs (Decidable (_ = _))

theorem Signal.ends_dropWhile (signals : List Signal) :
    Signal.Ends (signals.dropWhile (· ≠ .gap)) := by
  induction signals with
  | nil => exact .inl rfl
  | cons signal rest ih =>
    by_cases h : signal = .gap
    · exact .inr ⟨rest, by simp [h]⟩
    · simpa [h] using ih

/-- What delivers bytes says them and then finds its end. -/
theorem Delivers.signals_eq {feed : Feed} {bytes : List UInt8} (h : feed.Delivers bytes) :
    ∃ after, Signal.Ends after ∧ feed.signals = bytes.map .byte ++ after := by
  refine ⟨feed.signals.dropWhile (· ≠ .gap), Signal.ends_dropWhile _, ?_⟩
  rw [← h, List.takeWhile_append_dropWhile]

namespace Signal

/-- Reads one frame off signals; `none` is the clean end. -/
def frame (limit : Nat) (signals : List Signal) :
    Except WireError (Option Frame) × List Signal :=
  match gather Frame.Header.wireSize signals with
  | (.error e, rest) => if e.isCleanEnd then (.ok none, rest) else (.error e, rest)
  | (.ok raw, rest) =>
    match Frame.Header.decode raw with
    | .error e => (.error e, rest)
    | .ok header =>
      if limit < header.size.toNat then (.error (.payloadTooLarge header.size.toNat limit), rest)
      else
        match gather header.size.toNat rest with
        | (.error e, rest) => (.error e, rest)
        | (.ok payload, rest) => (.ok (some ⟨header, payload⟩), rest)

/-- Behind a header, what is declared and fits under the limit is gathered. -/
theorem frame_header (limit : Nat) {header : Frame.Header}
    (hpts : header.pts.toNat < Frame.Header.ptsBound) (rest : List Signal) :
    frame limit (header.encode.map .byte ++ rest) =
      if limit < header.size.toNat then (.error (.payloadTooLarge header.size.toNat limit), rest)
      else
        match gather header.size.toNat rest with
        | (.error e, rest) => (.error e, rest)
        | (.ok payload, rest) => (.ok (some ⟨header, payload⟩), rest) := by
  have hgather := gather_map_byte header.encode rest
  have hdecode := Frame.Header.decode_encode_append header []
  rw [Frame.Header.length_encode] at hgather
  rw [List.append_nil, Frame.Header.sent_of_lt hpts] at hdecode
  rw [frame, hgather]
  simp only [hdecode]

/-- A frame that is accepted is taken off. -/
theorem frame_encode_append {limit : Nat} {sent : Frame} (h : sent.Accepted limit)
    (rest : List Signal) :
    frame limit (sent.encode.map .byte ++ rest) = (.ok (some sent), rest) := by
  have hgather := gather_map_byte sent.payload rest
  have hlimit : ¬ limit < sent.header.size.toNat := by
    rw [h.wellFormed.size_eq]
    exact Nat.not_lt.mpr h.length_le
  rw [← h.wellFormed.size_eq] at hgather
  rw [Frame.encode, List.map_append, List.append_assoc, frame_header limit h.wellFormed.pts_lt,
    if_neg hlimit, hgather]

/-- What is taken off is a whole frame, and one that is accepted. -/
theorem frame_eq_ok {limit : Nat} {sent : Frame} {signals rest : List Signal}
    (h : frame limit signals = (.ok (some sent), rest)) :
    sent.Accepted limit ∧ signals = sent.encode.map .byte ++ rest := by
  unfold frame at h
  split at h
  · split at h <;> cases h
  · next raw behind hraw =>
    obtain ⟨hlength, hsignals⟩ := gather_eq_ok hraw
    obtain ⟨header, hdecode, hencode, hpts⟩ := Frame.Header.decode_eq (Nat.le_of_eq hlength.symm)
    -- The header that is read from these bytes is the one that they are the writing of.
    rw [← hlength, List.take_length] at hencode
    rw [hdecode] at h
    dsimp only at h
    split at h
    · cases h
    · next hlimit =>
      split at h
      · cases h
      · next payload later hpayload =>
        obtain ⟨hsize, hbehind⟩ := gather_eq_ok hpayload
        cases h
        refine ⟨⟨⟨hsize.symm, hpts⟩, ?_⟩, ?_⟩
        · show payload.length ≤ limit
          omega
        · rw [hsignals, hbehind, ← hencode, Frame.encode, List.map_append, List.append_assoc]

/-- The end of a stream is met at a boundary between frames. -/
theorem frame_ends (limit : Nat) {after : List Signal} (hends : Ends after) :
    frame limit after = (.ok none, after.tail) := by
  have hgather : gather Frame.Header.wireSize after =
      (.error (.truncated Frame.Header.wireSize 0), after.tail) :=
    gather_short (show ([] : List UInt8).length < Frame.Header.wireSize by decide) hends
  rw [frame, hgather]
  rfl

/-- A leftover ends the stream as the grammar says. -/
theorem frame_leftover {limit : Nat} {bytes : List UInt8} (h : Frame.Leftover limit bytes)
    {after : List Signal} (hends : Ends after) :
    (frame limit (bytes.map .byte ++ after)).1 = Frame.ending limit bytes := by
  by_cases hshort : bytes.length < Frame.Header.wireSize
  · -- Not even a header is there; only if there is nothing at all is the end clean.
    rw [frame, gather_short hshort hends]
    cases bytes with
    | nil => rfl
    | cons b more =>
      rw [Frame.ending, if_neg (List.cons_ne_nil _ _), if_pos hshort]
      rfl
  · have hheader : Frame.Header.wireSize ≤ bytes.length := Nat.not_lt.mp hshort
    have hcut := h hheader
    obtain ⟨header, payload, hpts, rfl⟩ := Frame.Header.exists_encode_append hheader
    have hne : header.encode ++ payload ≠ [] := by
      intro hnil
      rw [hnil] at hheader
      exact absurd hheader (by decide)
    rw [Frame.Header.declared_encode_append, List.length_append,
      Frame.Header.length_encode] at hcut
    rw [Frame.ending, if_neg hne, if_neg hshort, Frame.Header.declared_encode_append,
      List.map_append, List.append_assoc, frame_header limit hpts]
    by_cases hlimit : limit < header.size.toNat
    · rw [if_pos hlimit, if_pos hlimit]
    · -- The header is accepted, so it is the payload that the leftover breaks off in.
      have hpayload : payload.length < header.size.toNat := by
        have := hcut (Nat.not_lt.mp hlimit)
        omega
      rw [if_neg hlimit, if_neg hlimit, gather_short hpayload hends, List.length_append,
        Frame.Header.length_encode, Nat.add_sub_cancel_left]

end Signal

end Feed

namespace Intake

open Feed

/-! ## One frame -/

/-- **Reading a frame from a feed is reading it off its signals.** -/
theorem readFrame_finds (limit delivered : Nat) (feed : Feed) :
    Finds feed (readFrame limit delivered feed) (Signal.frame limit feed.signals) := by
  -- Both sides read and branch alike; what the feed has besides are notices.
  have hheader := feed.gather_finds Frame.Header.wireSize
  unfold readFrame Signal.frame
  rw [hheader.eq_found]
  generalize feed.gather Frame.Header.wireSize = run at hheader ⊢
  obtain ⟨raw, feed'⟩ := run
  cases raw with
  | error e =>
    dsimp only
    split
    · exact ⟨rfl, rfl, hheader.sequel.trans (.note _ _)⟩
    · exact ⟨rfl, rfl, hheader.sequel⟩
  | ok raw =>
    dsimp only
    cases Frame.Header.decode raw with
    | error e => exact ⟨rfl, rfl, hheader.sequel⟩
    | ok header =>
      dsimp only
      split
      · exact ⟨rfl, rfl, hheader.sequel⟩
      · have hpayload := feed'.exactly_finds header.size.toNat
        rw [hpayload.eq_found]
        generalize feed'.exactly header.size.toNat = run at hpayload ⊢
        obtain ⟨payload, feed''⟩ := run
        cases payload with
        | error e => exact ⟨rfl, rfl, hheader.sequel.trans hpayload.sequel⟩
        | ok payload =>
          exact ⟨rfl, rfl, (hheader.sequel.trans hpayload.sequel).trans (.note _ _)⟩

/-! ## One frame after another -/

theorem next_of_finished {intake : Intake} (h : intake.finished = true) :
    intake.next = (.ok none, intake) := by
  rw [next, if_pos h]

/-- The next answer of an intake that is not finished is the next frame in the signals of its feed.
Any other answer finishes it. -/
theorem next_eq {intake : Intake} (h : intake.finished = false) :
    ∃ feed', intake.feed.Sequel feed' ∧
      feed'.signals = (Signal.frame intake.limit intake.feed.signals).2 ∧
      intake.next =
        match (Signal.frame intake.limit intake.feed.signals).1 with
        | .ok (some frame) =>
          (.ok (some frame), { intake with feed := feed', delivered := intake.delivered + 1 })
        | result => (result, { intake with feed := feed', finished := true }) := by
  have hfinds := readFrame_finds intake.limit intake.delivered intake.feed
  refine ⟨_, hfinds.sequel, hfinds.signals, ?_⟩
  rw [next, if_neg (by simp [h]), ← hfinds.result]
  rcases readFrame intake.limit intake.delivered intake.feed with ⟨result, feed'⟩
  rcases result with e | _ | frame <;> rfl

/-- An intake that gives a frame counts it, and reads it off its feed. -/
theorem next_eq_frame {intake intake' : Intake} {frame : Frame}
    (h : intake.next = (.ok (some frame), intake')) :
    (readFrame intake.limit intake.delivered intake.feed).1 = .ok (some frame) ∧
      intake'.delivered = intake.delivered + 1 ∧ intake'.limit = intake.limit := by
  unfold next at h
  split at h
  · cases h
  · split at h
    · next hread =>
      cases h
      exact ⟨congrArg Prod.fst hread, rfl, rfl⟩
    · next hne hread =>
      cases h
      exact absurd rfl (hne frame)

/-- A frame that an intake gives is whole, and small enough. -/
theorem accepted_of_next {intake intake' : Intake} {frame : Frame}
    (h : intake.next = (.ok (some frame), intake')) : frame.Accepted intake.limit := by
  obtain ⟨hread, -, -⟩ := next_eq_frame h
  rw [(readFrame_finds _ _ _).result] at hread
  exact (Signal.frame_eq_ok (Prod.ext hread rfl)).1

theorem next_sequel (intake : Intake) : Sequel intake.feed intake.next.2.feed := by
  have hsequel := (readFrame_finds intake.limit intake.delivered intake.feed).sequel
  unfold next
  split
  · exact .refl _
  · split
    · next heq => rwa [heq] at hsequel
    · next heq => rwa [heq] at hsequel

/-- A row of frames is answered frame by frame, and nothing behind it is touched. -/
theorem answers_row (intake : Intake) {frames : List Frame} {after : List Signal}
    (hframes : ∀ frame ∈ frames, frame.Accepted intake.limit) (hopen : intake.finished = false)
    (hsignals : intake.feed.signals = (frames.flatMap Frame.encode).map .byte ++ after) :
    ∃ feed', intake.feed.Sequel feed' ∧ feed'.signals = after ∧
      answers next frames.length intake =
        (frames.map fun frame => .ok (some frame),
          { intake with feed := feed', delivered := intake.delivered + frames.length }) := by
  induction frames generalizing intake with
  | nil => exact ⟨intake.feed, .refl _, by simpa using hsignals, rfl⟩
  | cons frame more ih =>
    obtain ⟨hframe, hmore⟩ := List.forall_mem_cons.mp hframes
    rw [List.flatMap_cons, List.map_append, List.append_assoc] at hsignals
    obtain ⟨feed', hsequel, hsignals', hnext⟩ := next_eq hopen
    rw [hsignals, Signal.frame_encode_append hframe] at hsignals' hnext
    -- The intake that has given the first frame has the rest of the row ahead.
    obtain ⟨feed'', hsequel', hsignals'', hanswers⟩ :=
      ih { intake with feed := feed', delivered := intake.delivered + 1 } hmore hopen hsignals'
    refine ⟨feed'', hsequel.trans hsequel', hsignals'', ?_⟩
    rw [List.length_cons, answers_succ, hnext, hanswers]
    simp only [List.map_cons, Nat.add_assoc, Nat.add_comm 1]

/-- What comes at the end of a stream is the last answer but for `none`. -/
theorem answers_end (intake : Intake) {bytes : List UInt8} {after : List Signal}
    (hleftover : Frame.Leftover intake.limit bytes) (hopen : intake.finished = false)
    (hends : Signal.Ends after) (hsignals : intake.feed.signals = bytes.map .byte ++ after)
    (later : Nat) :
    ∃ feed', intake.feed.Sequel feed' ∧
      answers next (1 + later) intake =
        (Frame.ending intake.limit bytes :: List.replicate later (.ok none),
          { intake with feed := feed', finished := true }) := by
  obtain ⟨feed', hsequel, -, hnext⟩ := next_eq hopen
  have hending : (Signal.frame intake.limit intake.feed.signals).1 =
      Frame.ending intake.limit bytes := by
    rw [hsignals, Signal.frame_leftover hleftover hends]
  have hnext' : intake.next =
      (Frame.ending intake.limit bytes, { intake with feed := feed', finished := true }) := by
    rw [hnext, hending]
    cases hresult : Frame.ending intake.limit bytes with
    | error e => rfl
    | ok frame? =>
      cases frame? with
      | none => rfl
      -- A leftover is never taken for a frame.
      | some frame => exact absurd hresult (Frame.ending_ne_ok_some _ _ _)
  refine ⟨feed', hsequel, ?_⟩
  rw [Nat.add_comm, answers_succ, hnext', answers_of_fixed (next_of_finished rfl)]

/-- **An intake accepts exactly the grammar of frames.** Whatever bytes its feed delivers, and
however it delivers them, the answers are the frames of the only way to take these bytes apart, in
order, then the end that their leftover means, then `none` for ever. The end is clean if and only
if the bytes are accepted frames and nothing else. -/
theorem answers_eq_grammar {feed : Feed} {bytes : List UInt8} (h : feed.Delivers bytes)
    (limit : Nat) :
    ∃ frames rest, Frame.Parse limit bytes frames rest ∧
      (∀ frames' rest', Frame.Parse limit bytes frames' rest' → frames' = frames ∧ rest' = rest) ∧
      (∀ later, ∃ last : Intake,
        answers next (frames.length + (1 + later)) { feed, limit } =
          ((frames.map fun frame => .ok (some frame)) ++
            Frame.ending limit rest :: List.replicate later (.ok none), last) ∧
        last.delivered = frames.length) ∧
      (Frame.ending limit rest = .ok none ↔
        ∃ frames' : List Frame, bytes = frames'.flatMap Frame.encode ∧
          ∀ frame ∈ frames', frame.Accepted limit) := by
  obtain ⟨frames, rest, hparse⟩ := Frame.Parse.exists limit bytes
  obtain ⟨after, hends, hsignals⟩ := h.signals_eq
  refine ⟨frames, rest, hparse, fun _ _ h' => h'.unique hparse, ?_, ?_⟩
  · intro later
    rw [hparse.bytes_eq, List.map_append, List.append_assoc] at hsignals
    obtain ⟨feed', -, hsignals', hrow⟩ :=
      answers_row { feed, limit } hparse.accepted rfl hsignals
    obtain ⟨feed'', -, hend⟩ :=
      answers_end { feed := feed', limit, delivered := 0 + frames.length }
        hparse.leftover rfl hends hsignals' later
    refine ⟨{ feed := feed'', limit, finished := true, delivered := 0 + frames.length }, ?_,
      Nat.zero_add _⟩
    rw [answers_add, hrow, hend]
  · -- A clean end means that nothing is left over, and there is only one thing to be left over.
    rw [Frame.ending_eq_ok_none_iff]
    constructor
    · rintro rfl
      exact ⟨frames, by simpa using hparse.bytes_eq, hparse.accepted⟩
    · rintro ⟨frames', rfl, hframes'⟩
      exact (hparse.unique (.of_flatMap hframes')).2

/-- A frame of two bytes that comes in three pieces with an interruption, and four bytes of another
one's header. -/
theorem answers_two_pieces :
    let feed : Feed := {
      script := [.data [0x80, 0, 0, 0, 0], .fault (.ofKind .interrupted), .data [],
        .data [0, 0, 7, 0, 0, 0, 2, 0xAB], .data [0xCD, 1, 2, 3, 4]]
      perRead := some ⟨3, by decide⟩ }
    feed.Delivers [0x80, 0, 0, 0, 0, 0, 0, 7, 0, 0, 0, 2, 0xAB, 0xCD, 1, 2, 3, 4] ∧
      (answers next 3 { feed, limit := 2 }).1 =
        [.ok (some ⟨⟨true, false, 7, 2⟩, [0xAB, 0xCD]⟩), .error (.truncated 12 4), .ok none] := by
  intro feed
  have hdelivers :
      feed.Delivers [0x80, 0, 0, 0, 0, 0, 0, 7, 0, 0, 0, 2, 0xAB, 0xCD, 1, 2, 3, 4] := by decide
  obtain ⟨frames, rest, -, hunique, hanswers, -⟩ := answers_eq_grammar hdelivers 2
  obtain ⟨rfl, rfl⟩ := hunique [⟨⟨true, false, 7, 2⟩, [0xAB, 0xCD]⟩] [1, 2, 3, 4] {
    bytes_eq := by decide
    accepted := by simpa using ⟨⟨rfl, by decide⟩, by decide⟩
    leftover := by simp [Frame.Leftover, Frame.Header.wireSize] }
  obtain ⟨last, hlast, -⟩ := hanswers 1
  exact ⟨hdelivers, congrArg Prod.fst hlast⟩

end Intake

end Screencast
