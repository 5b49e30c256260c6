/-
Frames taken off a buffer while it fills up.

A stream comes in pieces, and frames may be asked for after any of them. What is
learnt in this way is there in the stream from the beginning: its frames one
after another and, if it comes to that, the refusal of one that is too large
(`findings`). One operation leaves the findings alone or takes one off them
(`perform_tells`). Hence what is learnt at any time is an opening part of the
findings (`told_front`), and all of them once the stream has come and no frame
is given any more (`told_of_drained`). So no schedule learns what another one
does not (`schedules_agree`).
-/
import Screencast.Proofs.Frame.Conservation

namespace Screencast

namespace Frame

/-! ## Beginnings of streams -/

/-- A byte string that begins with a header which declares more than is accepted. -/
def Oversized (limit : Nat) (bytes : List UInt8) : Prop :=
  Header.wireSize ≤ bytes.length ∧ limit < Header.declared bytes

instance (limit : Nat) (bytes : List UInt8) : Decidable (Oversized limit bytes) :=
  inferInstanceAs (Decidable (_ ∧ _))

/-- What is declared does not depend on what follows the header. -/
theorem Header.declared_append {bytes : List UInt8} (h : wireSize ≤ bytes.length)
    (more : List UInt8) : declared (bytes ++ more) = declared bytes := by
  obtain ⟨header, rest, -, rfl⟩ := exists_encode_append h
  rw [List.append_assoc, declared_encode_append, declared_encode_append]

theorem Oversized.append {limit : Nat} {bytes : List UInt8} (h : Oversized limit bytes)
    (more : List UInt8) : Oversized limit (bytes ++ more) := by
  obtain ⟨hheader, hlimit⟩ := h
  refine ⟨?_, ?_⟩
  · rw [List.length_append]
    omega
  · rwa [Header.declared_append hheader]

theorem Oversized.leftover {limit : Nat} {bytes : List UInt8} (h : Oversized limit bytes) :
    Leftover limit bytes := by
  intro _ hle
  have := h.2
  omega

theorem Incomplete.not_oversized {limit : Nat} {bytes : List UInt8} (h : Incomplete limit bytes) :
    ¬ Oversized limit bytes := by
  rintro ⟨hheader, hlimit⟩
  have := (h hheader).1
  omega

/-- The frame in front of a byte string is the first of its frames. -/
theorem Parse.uncons {limit : Nat} {frame : Frame} {bytes : List UInt8} {frames : List Frame}
    {rest : List UInt8} (h : Parse limit (frame.encode ++ bytes) frames rest)
    (hframe : frame.Accepted limit) :
    ∃ later, frames = frame :: later ∧ Parse limit bytes later rest := by
  obtain ⟨later, rest', hlater⟩ := Parse.exists limit bytes
  have hwhole : Parse limit (frame.encode ++ bytes) (frame :: later) rest' := by
    refine ⟨?_, List.forall_mem_cons.mpr ⟨hframe, hlater.accepted⟩, hlater.leftover⟩
    rw [List.flatMap_cons, List.append_assoc, ← hlater.bytes_eq]
  obtain ⟨rfl, rfl⟩ := h.unique hwhole
  exact ⟨later, rfl, hlater⟩

/-- A byte string that begins with no accepted frame is all left over. -/
theorem Parse.of_leftover {limit : Nat} {bytes : List UInt8} {frames : List Frame}
    {rest : List UInt8} (h : Parse limit bytes frames rest) (hleftover : Leftover limit bytes) :
    frames = [] ∧ rest = bytes :=
  h.unique ⟨rfl, by simp, hleftover⟩

/-- What there is to be learnt from a stream: its frames, and that another one is too large. -/
def findings (limit : Nat) (frames : List Frame) (rest : List UInt8) :
    List (Except WireError Frame) :=
  frames.map .ok ++
    if Oversized limit rest then [.error (.payloadTooLarge (Header.declared rest) limit)] else []

end Frame

namespace Reassembly

/-! ## What is learnt -/

/-- What comes of one operation after another. -/
def replies (r : Reassembly) (operations : List Operation) : List Answer :=
  (r.history operations).map Event.answer

/-- What is learnt from answers: frames, and errors. That no frame is there yet says nothing, and
neither does an error that is only said again. -/
def told : List Answer → List (Except WireError Frame)
  | [] => []
  | .done :: later | .gave (.ok none) :: later => told later
  | .gave (.ok (some frame)) :: later => .ok frame :: told later
  | .gave (.error e) :: later => .error e :: (told later).dropWhile (· = .error e)

theorem replies_cons (r : Reassembly) (operation : Operation) (later : List Operation) :
    r.replies (operation :: later) =
      (r.perform operation).1 :: (r.perform operation).2.replies later := rfl

theorem performAll_cons (r : Reassembly) (operation : Operation) (later : List Operation) :
    r.performAll (operation :: later) = (r.perform operation).2.performAll later := rfl

theorem limit_perform (r : Reassembly) (operation : Operation) :
    (r.perform operation).2.limit = r.limit := by
  cases operation with
  | push bytes | pushFrame frame => rfl
  | next =>
    have hnext := r.next_next
    simp only [perform]
    generalize r.next = run at hnext ⊢
    cases hnext <;> rfl
  | last =>
    have hlast := r.last_last
    simp only [perform]
    generalize r.last = run at hlast ⊢
    cases hlast <;> rfl

/-- What an answer takes off the findings. A refusal stays, as it is the answer from then on. -/
inductive Tells : List (Except WireError Frame) → Answer → List (Except WireError Frame) → Prop
  | added (all : List (Except WireError Frame)) : Tells all .done all
  | waiting (all : List (Except WireError Frame)) : Tells all (.gave (.ok none)) all
  | frame (frame : Frame) (later : List (Except WireError Frame)) :
      Tells (.ok frame :: later) (.gave (.ok (some frame))) later
  | refusal (e : WireError) : Tells [.error e] (.gave (.error e)) [.error e]

/-- An operation tells the first of the findings or nothing, whatever is still to come. -/
theorem perform_tells {r : Reassembly} {operation : Operation} (hopen : operation ≠ .last)
    {more : List UInt8} {frames : List Frame} {rest : List UInt8}
    (h : Frame.Parse r.limit (r.buffer ++ operation.added ++ more) frames rest) :
    ∃ later, Frame.Parse r.limit ((r.perform operation).2.buffer ++ more) later rest ∧
      Tells (Frame.findings r.limit frames rest) (r.perform operation).1
        (Frame.findings r.limit later rest) := by
  cases operation with
  | push bytes => exact ⟨frames, h, .added _⟩
  | pushFrame frame => exact ⟨frames, h, .added _⟩
  | last => exact absurd rfl hopen
  | next =>
    have hnext := r.next_next
    rw [Operation.added, List.append_nil] at h
    simp only [perform]
    generalize r.next = run at hnext ⊢
    cases hnext with
    | @taken frame buffer hbuffer hframe =>
      rw [hbuffer, List.append_assoc] at h
      obtain ⟨later, rfl, hlater⟩ := h.uncons hframe
      exact ⟨later, hlater, .frame frame _⟩
    | refused hheader hlimit =>
      have hlarge : Frame.Oversized r.limit r.buffer := ⟨hheader, hlimit⟩
      obtain ⟨rfl, rfl⟩ := h.of_leftover (hlarge.append more).leftover
      refine ⟨[], h, ?_⟩
      -- Both sides find nothing but that the frame in front is too large.
      rw [Frame.findings, if_pos (hlarge.append more), Frame.Header.declared_append hheader]
      exact .refusal _
    | waiting hincomplete => exact ⟨frames, h, .waiting _⟩

/-- Once a refusal is all that there is to be told, it is told once. -/
theorem dropWhile_of_refusal {e : WireError} {later : List (Except WireError Frame)}
    (h : later <+: [.error e]) : later.dropWhile (· = .error e) = [] := by
  rcases List.prefix_cons_iff.mp h with rfl | ⟨rest, rfl, hrest⟩
  · rfl
  · rw [List.prefix_nil.mp hrest]
    simp

/-- **What is learnt of a stream at any time is an opening part of its findings.** -/
theorem told_front {r : Reassembly} {operations : List Operation} (hopen : .last ∉ operations)
    {more : List UInt8} {frames : List Frame} {rest : List UInt8}
    (h : Frame.Parse r.limit (r.buffer ++ operations.flatMap Operation.added ++ more) frames rest) :
    told (r.replies operations) <+: Frame.findings r.limit frames rest := by
  induction operations generalizing r frames with
  | nil => exact List.nil_prefix
  | cons operation later ih =>
    rw [List.flatMap_cons, ← List.append_assoc, List.append_assoc (_ ++ _)] at h
    obtain ⟨frames', h', htells⟩ := perform_tells (List.ne_of_not_mem_cons hopen).symm h
    rw [← List.append_assoc, ← limit_perform r operation] at h'
    have hlater := ih (List.not_mem_of_not_mem_cons hopen) h'
    rw [limit_perform] at hlater
    rw [replies_cons]
    generalize (r.perform operation).1 = answer at htells ⊢
    generalize Frame.findings r.limit frames rest = all at htells ⊢
    generalize Frame.findings r.limit frames' rest = left at htells hlater
    cases htells with
    | added | waiting => exact hlater
    | frame frame => exact List.cons_prefix_cons.mpr ⟨rfl, hlater⟩
    | refusal e =>
      -- Later on nothing can be learnt but the same refusal once more.
      have hrest := dropWhile_of_refusal hlater
      rw [told]
      exact List.cons_prefix_cons.mpr ⟨rfl, hrest ▸ List.nil_prefix⟩

/-! ## Draining -/

/-- The last of some operations asks for a frame and is given none. -/
def Drained (r : Reassembly) (operations : List Operation) : Prop :=
  ∃ front, operations = front ++ [.next] ∧
    ∀ frame, (r.performAll front).next.1 ≠ .ok (some frame)

/-- A buffer that gives no frame holds what the grammar leaves over, and says what is found in it. -/
theorem told_next {r : Reassembly} (hnone : ∀ frame, r.next.1 ≠ .ok (some frame))
    {frames : List Frame} {rest : List UInt8} (h : Frame.Parse r.limit r.buffer frames rest) :
    told [.gave r.next.1] = Frame.findings r.limit frames rest ∧ r.next.2.buffer = rest := by
  have hnext := r.next_next
  generalize r.next = run at hnext hnone ⊢
  cases hnext with
  | taken => exact absurd rfl (hnone _)
  | refused hheader hlimit =>
    have hlarge : Frame.Oversized r.limit r.buffer := ⟨hheader, hlimit⟩
    obtain ⟨rfl, rfl⟩ := h.of_leftover hlarge.leftover
    rw [Frame.findings, if_pos hlarge]
    exact ⟨rfl, rfl⟩
  | waiting hincomplete =>
    obtain ⟨rfl, rfl⟩ := h.of_leftover hincomplete.leftover
    rw [Frame.findings, if_neg hincomplete.not_oversized]
    exact ⟨rfl, rfl⟩

/-- **Once a stream has come and no frame is given any more, all its findings have been learnt, and
what the grammar leaves over is still in the buffer.** -/
theorem told_of_drained {r : Reassembly} {operations : List Operation}
    (hopen : .last ∉ operations) (hdrained : r.Drained operations) {frames : List Frame}
    {rest : List UInt8}
    (h : Frame.Parse r.limit (r.buffer ++ operations.flatMap Operation.added) frames rest) :
    told (r.replies operations) = Frame.findings r.limit frames rest ∧
      (r.performAll operations).buffer = rest := by
  obtain ⟨front, rfl, hnone⟩ := hdrained
  induction front generalizing r frames with
  | nil =>
    have hsame : r.buffer ++ ([] ++ [Operation.next]).flatMap Operation.added = r.buffer :=
      List.append_nil _
    rw [hsame] at h
    exact told_next hnone h
  | cons operation later ih =>
    rw [List.cons_append] at hopen
    rw [List.cons_append, List.flatMap_cons, ← List.append_assoc] at h
    obtain ⟨frames', h', htells⟩ := perform_tells (List.ne_of_not_mem_cons hopen).symm h
    rw [← limit_perform r operation] at h'
    rw [performAll_cons] at hnone
    obtain ⟨hlater, hbuffer⟩ := ih hnone (List.not_mem_of_not_mem_cons hopen) h'
    refine ⟨?_, hbuffer⟩
    rw [limit_perform] at hlater
    rw [List.cons_append, replies_cons]
    generalize (r.perform operation).1 = answer at htells ⊢
    generalize Frame.findings r.limit frames rest = all at htells ⊢
    generalize Frame.findings r.limit frames' rest = left at htells hlater
    cases htells with
    | added | waiting => exact hlater
    | frame frame => rw [told, hlater]
    | refusal e => rw [told, hlater, dropWhile_of_refusal List.prefix_rfl]

/-- Asking often enough drains a buffer: every frame that is given makes it shorter. -/
theorem exists_drained (r : Reassembly) :
    ∃ count, ∀ frame, (r.performAll (List.replicate count .next)).next.1 ≠ .ok (some frame) := by
  have hnext := r.next_next
  rcases hrun : r.next with ⟨answer, after⟩
  rw [hrun] at hnext
  cases hnext with
  | refused | waiting => exact ⟨0, fun frame h => by cases (congrArg Prod.fst hrun).symm.trans h⟩
  | @taken frame rest hbuffer hframe =>
    have hshorter : rest.length < r.buffer.length := by
      rw [hbuffer, List.length_append, Frame.length_encode, Frame.wireSize, Frame.Header.wireSize]
      omega
    obtain ⟨count, hcount⟩ := exists_drained { r with buffer := rest }
    refine ⟨count + 1, ?_⟩
    have hperform : (r.perform .next).2 = { r with buffer := rest } := congrArg Prod.snd hrun
    rw [List.replicate_succ, performAll_cons, hperform]
    exact hcount
termination_by r.buffer.length

/-! ## Refusals -/

/-- Whatever is added to a header that declares too much, it is refused. -/
theorem replies_of_oversized {r : Reassembly} (h : Frame.Oversized r.limit r.buffer)
    {operations : List Operation} (hopen : .last ∉ operations) :
    ∀ answer ∈ r.replies operations, answer = .done ∨
      answer = .gave (.error (.payloadTooLarge (Frame.Header.declared r.buffer) r.limit)) := by
  induction operations generalizing r with
  | nil => simp [replies, history]
  | cons operation later ih =>
    have hlater := List.not_mem_of_not_mem_cons hopen
    have hpush (bytes : List UInt8) := ih (r := r.push bytes) (h.append bytes) hlater
    simp only [push, Frame.Header.declared_append h.1] at hpush
    intro answer hmem
    rw [replies_cons] at hmem
    rcases List.mem_cons.mp hmem with rfl | hmem
    · cases operation with
      | push | pushFrame => exact .inl rfl
      | last => exact absurd List.mem_cons_self hopen
      | next =>
        right
        rw [perform, next, Frame.split?_oversized h.1 h.2]
    · cases operation with
      | push bytes => exact hpush bytes answer hmem
      | pushFrame frame => exact hpush frame.encode answer hmem
      | last => exact absurd List.mem_cons_self hopen
      | next =>
        rw [perform, next, Frame.split?_oversized h.1 h.2] at hmem
        exact ih h hlater answer hmem

/-- **A refusal is the answer from then on.** -/
theorem refusal_lasts {r : Reassembly} {operations : List Operation} (hopen : .last ∉ operations)
    {front back : List Answer} {e : WireError}
    (h : r.replies operations = front ++ .gave (.error e) :: back) :
    (∃ size, e = .payloadTooLarge size r.limit) ∧
      ∀ answer ∈ back, answer = .done ∨ answer = .gave (.error e) := by
  induction operations generalizing r front with
  | nil => simp [replies, history] at h
  | cons operation later ih =>
    have hlater := List.not_mem_of_not_mem_cons hopen
    rw [replies_cons] at h
    cases front with
    | cons first front =>
      have htail := (List.cons.inj h).2
      rw [← limit_perform r operation]
      exact ih hlater htail
    | nil =>
      obtain ⟨hanswer, rfl⟩ := List.cons.inj h
      cases operation with
      | push | pushFrame => cases hanswer
      | last => exact absurd List.mem_cons_self hopen
      | next =>
        have hnext := r.next_next
        simp only [perform] at hanswer ⊢
        generalize r.next = run at hnext hanswer ⊢
        cases hnext with
        | taken | waiting => cases hanswer
        | refused hheader hlimit =>
          cases hanswer
          exact ⟨⟨_, rfl⟩, replies_of_oversized ⟨hheader, hlimit⟩ hlater⟩

/-! ## Schedules -/

/-- Operations that add an opening part of a stream to a buffer, and ask for frames in between, while
more may come. -/
structure Schedules (bytes : List UInt8) (operations : List Operation) : Prop where
  unended : .last ∉ operations
  opening : operations.flatMap Operation.added <+: bytes

/-- **What is learnt of a stream does not depend on the schedule.** Whatever pieces a stream is cut
into, and whenever frames are asked for, of two who have come to any points of it one has learnt what
the other has, and perhaps more. When both have all of it and have asked until no frame was given,
which asking often enough brings about, they have learnt the same and hold the same in their buffers.
Errors are refusals only, and a refusal is the answer from then on. -/
theorem schedules_agree {limit : Nat} {bytes : List UInt8} {first second : List Operation}
    (hfirst : Schedules bytes first) (hsecond : Schedules bytes second) :
    let start : Reassembly := { limit }
    (told (start.replies first) <+: told (start.replies second) ∨
        told (start.replies second) <+: told (start.replies first)) ∧
      (first.flatMap Operation.added = bytes → second.flatMap Operation.added = bytes →
        start.Drained first → start.Drained second →
          told (start.replies first) = told (start.replies second) ∧
            (start.performAll first).buffer = (start.performAll second).buffer) ∧
      (∃ count, start.Drained (first ++ List.replicate count .next)) ∧
      ∀ front e back, start.replies first = front ++ .gave (.error e) :: back →
        (∃ size, e = .payloadTooLarge size limit) ∧
          ∀ answer ∈ back, answer = .done ∨ answer = .gave (.error e) := by
  intro start
  obtain ⟨frames, rest, hparse⟩ := Frame.Parse.exists limit bytes
  have hopening {operations : List Operation} (h : Schedules bytes operations) :
      told (start.replies operations) <+: Frame.findings limit frames rest := by
    obtain ⟨more, hmore⟩ := h.opening
    exact told_front (r := start) h.unended (by rw [← hmore] at hparse; exact hparse)
  refine ⟨?_, ?_, ?_, ?_⟩
  · exact List.prefix_or_prefix_of_prefix (hopening hfirst) (hopening hsecond)
  · intro hwhole hwhole' hdrained hdrained'
    have hall := told_of_drained (r := start) hfirst.unended hdrained (by rw [hwhole]; exact hparse)
    have hall' := told_of_drained (r := start) hsecond.unended hdrained'
      (by rw [hwhole']; exact hparse)
    exact ⟨hall.1.trans hall'.1.symm, hall.2.trans hall'.2.symm⟩
  · obtain ⟨count, hcount⟩ := (start.performAll first).exists_drained
    refine ⟨count + 1, first ++ List.replicate count .next, ?_, ?_⟩
    · rw [List.replicate_succ', List.append_assoc]
    · rwa [performAll, List.foldl_append]
  · intro front e back hreplies
    exact refusal_lasts hfirst.unended hreplies

/-- A frame and the header of one that is too large, in one piece and in four. -/
theorem schedules_agree_refusal :
    let sent : Frame := ⟨⟨false, true, 7, 2⟩, [0xAB, 0xCD]⟩
    let large : Frame.Header := ⟨false, false, 8, 3⟩
    let bytes := sent.encode ++ large.encode
    let first : List Operation := [.push bytes, .next, .next, .next, .next]
    let second : List Operation :=
      [.next, .push (bytes.take 5), .next, .push ((bytes.drop 5).take 15), .next, .next,
        .push ((bytes.drop 20).take 5), .next, .push (bytes.drop 25), .next]
    let start : Reassembly := { limit := 2 }
    Schedules bytes first ∧ Schedules bytes second ∧
      first.flatMap Operation.added = bytes ∧ second.flatMap Operation.added = bytes ∧
      start.Drained first ∧ start.Drained second ∧
      told (start.replies first) = [.ok sent, .error (.payloadTooLarge 3 2)] ∧
      told (start.replies second) = told (start.replies first) ∧
      (start.performAll second).buffer = (start.performAll first).buffer := by
  intro sent large bytes first second start
  have hwhole : first.flatMap Operation.added = bytes := by decide +kernel
  have hwhole' : second.flatMap Operation.added = bytes := by decide +kernel
  have hfirst : Schedules bytes first := ⟨by decide +kernel, hwhole ▸ List.prefix_rfl⟩
  have hsecond : Schedules bytes second := ⟨by decide +kernel, hwhole' ▸ List.prefix_rfl⟩
  have hrefused (operations : List Operation)
      (h : (start.performAll operations).next.1 = .error (.payloadTooLarge 3 2)) :
      ∀ frame, (start.performAll operations).next.1 ≠ .ok (some frame) := by
    intro frame
    rw [h]
    simp
  have hdrained : start.Drained first := ⟨first.dropLast, rfl, hrefused _ (by decide +kernel)⟩
  have hdrained' : start.Drained second := ⟨second.dropLast, rfl, hrefused _ (by decide +kernel)⟩
  obtain ⟨-, hagree, -⟩ := @schedules_agree 2 bytes first second hfirst hsecond
  obtain ⟨htold, hbuffer⟩ := hagree hwhole hwhole' hdrained hdrained'
  exact ⟨hfirst, hsecond, hwhole, hwhole', hdrained, hdrained', by decide +kernel, htold.symm,
    hbuffer.symm⟩

end Reassembly

end Screencast
