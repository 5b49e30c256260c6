/-
Sessions that differ in what was reported.

Two intakes over twin feeds take the same frames (`Intake.Twin.next`). So a
session on which its sink has left marks gives the frames that it would have
given without them (`Session.Twin.pull`).
-/
import Screencast.Proofs.Feed.Twin
import Screencast.Proofs.Session

namespace Screencast

open Feed

/-! ## Intakes -/

theorem Intake.readFrame_twins {first second : Feed} (h : Twin first second) (limit : Nat)
    (delivered delivered' : Nat) :
    Twins (readFrame limit delivered first) (readFrame limit delivered' second) := by
  -- Both find the same header, so both go on in the same way.
  have hheader := h.gather Frame.Header.wireSize
  unfold readFrame
  generalize first.gather Frame.Header.wireSize = run at hheader ⊢
  generalize second.gather Frame.Header.wireSize = run' at hheader ⊢
  obtain ⟨raw, first'⟩ := run
  obtain ⟨raw', second'⟩ := run'
  obtain ⟨rfl, htwin⟩ := hheader
  cases raw with
  | error e =>
    dsimp only
    split
    · exact ⟨rfl, htwin.note _ _⟩
    · exact ⟨rfl, htwin⟩
  | ok raw =>
    dsimp only
    cases Frame.Header.decode raw with
    | error e => exact ⟨rfl, htwin⟩
    | ok header =>
      dsimp only
      split
      · exact ⟨rfl, htwin⟩
      · have hpayload := Twin.exactly htwin header.size.toNat
        dsimp only at hpayload
        generalize first'.exactly header.size.toNat = run at hpayload ⊢
        generalize second'.exactly header.size.toNat = run' at hpayload ⊢
        obtain ⟨payload, first''⟩ := run
        obtain ⟨payload', second''⟩ := run'
        obtain ⟨rfl, htwin'⟩ := hpayload
        cases payload with
        | error e => exact ⟨rfl, htwin'⟩
        | ok payload => exact ⟨rfl, Twin.note htwin' _ _⟩

/-- Two intakes that take the same frames. -/
structure Intake.Twin (first second : Intake) : Prop where
  feed : first.feed.Twin second.feed
  limit : first.limit = second.limit
  finished : first.finished = second.finished

theorem Intake.Twin.next {first second : Intake} (h : Intake.Twin first second) :
    first.next.1 = second.next.1 ∧ Intake.Twin first.next.2 second.next.2 := by
  have hread := readFrame_twins h.feed first.limit first.delivered second.delivered
  unfold Intake.next
  rw [← h.finished, ← h.limit]
  by_cases hfinished : first.finished = true
  · rw [if_pos hfinished, if_pos hfinished]
    exact ⟨rfl, h⟩
  · rw [if_neg hfinished, if_neg hfinished]
    generalize readFrame first.limit first.delivered first.feed = run at hread ⊢
    generalize readFrame first.limit second.delivered second.feed = run' at hread ⊢
    obtain ⟨result, first'⟩ := run
    obtain ⟨result', second'⟩ := run'
    obtain ⟨rfl, htwin⟩ := hread
    rcases result with e | _ | frame
    · exact ⟨rfl, htwin, rfl, rfl⟩
    · exact ⟨rfl, htwin, rfl, rfl⟩
    · exact ⟨rfl, htwin, rfl, rfl⟩

/-! ## Sessions -/

namespace Session

/-- Two sessions in the middle of the same stream, whatever was reported on them. -/
structure Twin (first second : Session) : Prop where
  intake : Intake.Twin first.intake second.intake
  reader : first.reader.isSome = second.reader.isSome

theorem Twin.refl (session : Session) : Twin session session := ⟨⟨.refl _, rfl, rfl⟩, rfl⟩

theorem Twin.isCancelled {first second : Session} (h : Twin first second) :
    first.isCancelled = second.isCancelled := h.intake.feed.cancelled

theorem Twin.failWith {α : Type} {first second : Session} (h : Twin first second)
    (failure : Failure) :
    (first.failWith (α := α) failure).1 = (second.failWith failure).1 := by
  show Except.error (first.fail failure).1 = Except.error (second.fail failure).1
  rw [fail_fst, fail_fst, h.isCancelled]

/-- Twins answer alike, and as long as they give frames they remain twins. -/
theorem Twin.pull {first second : Session} (h : Twin first second)
    (hreader : first.reader.isSome = true) :
    first.pull.1 = second.pull.1 ∧
      ∀ frame, first.pull.1 = .ok (some frame) → Twin first.pull.2 second.pull.2 := by
  obtain ⟨hresult, htwin⟩ := h.intake.next
  rw [pull_eq hreader, pull_eq (h.reader.symm.trans hreader), ← h.isCancelled]
  by_cases hcancelled : first.isCancelled = true
  · rw [if_pos hcancelled, if_pos hcancelled]
    exact ⟨h.failWith .closed, nofun⟩
  · rw [if_neg hcancelled, if_neg hcancelled]
    generalize first.intake.next = run at hresult htwin ⊢
    generalize second.intake.next = run' at hresult htwin ⊢
    obtain ⟨result, first'⟩ := run
    obtain ⟨result', second'⟩ := run'
    dsimp only at hresult htwin
    subst hresult
    have hnext : Twin (first.withIntake first') (second.withIntake second') := ⟨htwin, rfl⟩
    -- A failure and the end depend on whether a request to cancel has come, and that they share.
    rcases result with e | _ | frame
    · exact ⟨hnext.failWith (.ofWire e), nofun⟩
    · dsimp only
      rw [← hnext.isCancelled]
      split
      · exact ⟨hnext.failWith .closed, nofun⟩
      · exact ⟨rfl, nofun⟩
    · exact ⟨rfl, fun _ _ => hnext⟩

end Session

end Screencast
