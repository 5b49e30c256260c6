/-
What is read as time passes is what is read at once.

Waiting through pauses leaves what a script says as it was (`await_signals`),
so a read that is not abandoned is served out of the same signals (`readBy_eq`),
and what is gathered is gathered from them (`gather_finds`). Where there are no
pauses ahead no deadline passes (`await_of_steady`).

A feed is prompt if its script has no pauses, no interruptions and no requests
to cancel. It stays prompt, and no read of one is abandoned or interrupted.
-/
import Screencast.Feed.Paced
import Screencast.Proofs.Feed.Gather

namespace Screencast.Feed

/-! ## Interruptions -/

/-- The first thing that a script has to say is an interruption. -/
def startsInterrupted : List Item → Bool
  | .data [] :: rest | .pause _ :: rest | .cancel :: rest => startsInterrupted rest
  | .fault cause :: _ => cause.isInterrupted
  | .data (_ :: _) :: _ | .gap :: _ | [] => false

/-- What is found is an interruption. -/
def Outcome.isInterruption : Outcome → Bool
  | fault cause => cause.isInterrupted
  | bytes _ | nothing => false

/-- A read is interrupted if the script starts with an interruption, and not otherwise. -/
theorem isInterruption_serve (room : Nat) (script : List Item) :
    (serve room script).1.isInterruption = startsInterrupted script := by
  fun_induction serve room script with
  | case1 | case3 | case4 | case5 => rfl
  | case2 rest ih | case6 millis rest ih => exact ih
  | case7 rest outcome cancels left hserve ih =>
    rw [hserve] at ih
    exact ih

/-! ## Prompt feeds -/

/-- An item that is neither an interruption nor a pause nor a request to cancel. -/
def Item.isPrompt : Item → Bool
  | .data _ | .gap => true
  | .fault cause => !cause.isInterrupted
  | .pause _ | .cancel => false

/-- All that a feed has still to say is bytes, reads that find nothing, and faults that are no
interruptions. -/
def Prompt (feed : Feed) : Prop := ∀ item ∈ feed.script, item.isPrompt = true

namespace Prompt

variable {feed : Feed}

theorem calm (h : feed.Prompt) (hcancelled : feed.cancelled = false) : feed.Calm := by
  refine ⟨hcancelled, fun hmem => ?_⟩
  have := h _ hmem
  cases this

/-- A prompt script has no pauses. -/
theorem steady (h : feed.Prompt) (millis : Nat) : .pause millis ∉ feed.script := by
  intro hmem
  have := h _ hmem
  cases this

theorem startsInterrupted (h : feed.Prompt) : startsInterrupted feed.script = false := by
  unfold Prompt at h
  generalize feed.script = script at h ⊢
  fun_induction Feed.startsInterrupted script with
  | case1 rest ih => exact ih fun item hmem => h item (List.mem_cons_of_mem _ hmem)
  | case2 millis rest => cases h _ List.mem_cons_self
  | case3 rest => cases h _ List.mem_cons_self
  | case4 cause rest => simpa [Item.isPrompt] using h _ List.mem_cons_self
  | case5 | case6 | case7 => rfl

theorem read (h : feed.Prompt) (wanted : Nat) : (feed.read wanted).2.Prompt := by
  intro item hmem
  rw [read_script] at hmem
  -- Only data can be left that was not in the script: the rest of a piece.
  cases hitem : item with
  | data bytes => rfl
  | gap | fault cause | pause millis | cancel =>
    rw [← hitem]
    exact h item (mem_of_mem_serve (by simp [hitem]) hmem)

end Prompt

namespace Paced

/-! ## Waiting -/

/-- Waiting passes over nothing that says anything. -/
theorem await_signals (deadline : Option Nat) (now : Nat) (wake : Option Nat)
    (script : List Item) :
    signalsOf (await deadline now wake script).2.2.2 = signalsOf script := by
  fun_induction await deadline now wake script with
  | case1 | case5 => rfl
  | case2 now wake millis rest due hpast ih => simpa using ih
  | case3 now wake rest ih => simpa using ih
  | case4 now wake rest ih => simpa using ih

theorem startsInterrupted_await (deadline : Option Nat) (now : Nat) (wake : Option Nat)
    (script : List Item) :
    startsInterrupted (await deadline now wake script).2.2.2 = startsInterrupted script := by
  fun_induction await deadline now wake script with
  | case1 | case5 => rfl
  | case2 now wake millis rest due hpast ih => exact ih
  | case3 now wake rest ih | case4 now wake rest ih => exact ih

theorem mem_of_mem_await {deadline : Option Nat} {now : Nat} {wake : Option Nat}
    {script : List Item} {item : Item} (h : item ∈ (await deadline now wake script).2.2.2) :
    item ∈ script := by
  fun_induction await deadline now wake script with
  | case1 | case5 => exact h
  | case2 now wake millis rest due hpast ih => exact List.mem_cons_of_mem _ (ih h)
  | case3 now wake rest ih => exact List.mem_cons_of_mem _ (ih h)
  | case4 now wake rest ih => exact List.mem_cons_of_mem _ (ih h)

/-- Where there are no pauses ahead no deadline passes. -/
theorem await_of_steady {script : List Item} (h : ∀ millis, .pause millis ∉ script)
    (deadline : Option Nat) (now : Nat) (wake : Option Nat) :
    (await deadline now wake script).1 = false := by
  fun_induction await deadline now wake script with
  | case1 now wake millis rest | case2 now wake millis rest =>
    exact absurd List.mem_cons_self (h millis)
  | case3 now wake rest ih | case4 now wake rest ih =>
    exact ih fun millis hmem => h millis (List.mem_cons_of_mem _ hmem)
  | case5 => rfl

/-! ## Reading -/

/-- A read with the deadline is abandoned. -/
def Abandons (paced : Paced) (deadline : Option Nat) : Prop :=
  (await deadline paced.now paced.wake paced.feed.script).1 = true

theorem not_abandons_of_steady {paced : Paced} (h : ∀ millis, .pause millis ∉ paced.feed.script)
    (deadline : Option Nat) : ¬ paced.Abandons deadline := by
  rw [Abandons, await_of_steady h]
  nofun

/-- What is known of a read once it has been made. -/
structure Served (wanted : Nat) (paced : Paced) (outcome : Outcome) (paced' : Paced) : Prop where
  served : Signal.Served wanted paced.feed.signals outcome paced'.feed.signals
  prompt : paced.feed.Prompt → paced'.feed.Prompt
  interruption : outcome.isInterruption = startsInterrupted paced.feed.script

/-- A read after waiting. -/
theorem served_of_await {wanted : Nat} (hwanted : 0 < wanted) (paced : Paced)
    (deadline : Option Nat) (now : Nat) (wake : Option Nat) :
    let rest := { paced.feed with
      script := (await deadline paced.now paced.wake paced.feed.script).2.2.2 }
    Served wanted paced (rest.read wanted).1 { feed := (rest.read wanted).2, now, wake } := by
  intro rest
  have hsignals : rest.signals = paced.feed.signals := await_signals ..
  refine ⟨?_, fun h => Prompt.read (fun item hmem => h item (mem_of_mem_await hmem)) wanted, ?_⟩
  · rw [← hsignals]
    exact read_served hwanted rest
  · rw [read_fst, isInterruption_serve]
    exact startsInterrupted_await ..

theorem served_of_read {wanted : Nat} (hwanted : 0 < wanted) {paced paced' : Paced}
    {outcome : Outcome} (hread : paced.read wanted = (outcome, paced')) :
    Served wanted paced outcome paced' := by
  have hserved := served_of_await hwanted paced none
    (await none paced.now paced.wake paced.feed.script).2.1
    (await none paced.now paced.wake paced.feed.script).2.2.1
  unfold read at hread
  cases hread
  exact hserved

/-- A read that is abandoned takes nothing. -/
theorem readBy_of_abandons {paced : Paced} {deadline : Option Nat} (h : paced.Abandons deadline)
    (wanted : Nat) : ∃ paced', paced.readBy deadline wanted = (none, paced') ∧
      paced'.feed.signals = paced.feed.signals ∧ (paced.feed.Prompt → paced'.feed.Prompt) := by
  have hsignals := await_signals deadline paced.now paced.wake paced.feed.script
  have hmem := @mem_of_mem_await deadline paced.now paced.wake paced.feed.script
  unfold Abandons at h
  unfold readBy
  generalize await deadline paced.now paced.wake paced.feed.script = waited at h hsignals hmem ⊢
  obtain ⟨late, now, wake, script⟩ := waited
  dsimp only at h
  subst h
  exact ⟨_, rfl, hsignals, fun hprompt item hleft => hprompt item (hmem hleft)⟩

/-- A read that is not abandoned is served as any other. -/
theorem readBy_of_not_abandons {wanted : Nat} (hwanted : 0 < wanted) {paced : Paced}
    {deadline : Option Nat} (h : ¬ paced.Abandons deadline) :
    ∃ outcome paced', paced.readBy deadline wanted = (some outcome, paced') ∧
      Served wanted paced outcome paced' := by
  have hserved := served_of_await hwanted paced deadline
    (await deadline paced.now paced.wake paced.feed.script).2.1
    (await deadline paced.now paced.wake paced.feed.script).2.2.1
  rw [Abandons, Bool.not_eq_true] at h
  unfold readBy
  generalize await deadline paced.now paced.wake paced.feed.script = waited at h hserved
  obtain ⟨late, now, wake, script⟩ := waited
  dsimp only at h
  subst h
  exact ⟨_, _, rfl, hserved⟩

/-! ## Gathering -/

/-- What an operation came to is what `found` says of the signals: its result, and the signals that
are left. A prompt feed stays prompt. -/
structure Finds {α : Type} (paced : Paced) (run : α × Paced) (found : α × List Signal) :
    Prop where
  result : run.1 = found.1
  signals : run.2.feed.signals = found.2
  prompt : paced.feed.Prompt → run.2.feed.Prompt

namespace Finds

variable {α : Type} {paced : Paced} {run : α × Paced} {found : α × List Signal}

theorem eq_found (h : Finds paced run found) : found = (run.1, run.2.feed.signals) := by
  rw [h.result, h.signals]

/-- What comes after a feed that stayed prompt comes after the feed. -/
theorem after {before : Paced} (hprompt : before.feed.Prompt → paced.feed.Prompt)
    (h : Finds paced run found) : Finds before run found :=
  ⟨h.result, h.signals, fun hbefore => h.prompt (hprompt hbefore)⟩

end Finds

theorem gatherFrom_finds (wanted filled : Nat) (sofar : List UInt8) (paced : Paced) :
    Finds paced (paced.gatherFrom wanted filled sofar)
      (Signal.gatherFrom wanted filled sofar paced.feed.signals) := by
  fun_induction gatherFrom wanted filled sofar paced with
  | case1 filled sofar paced hlt paced' hread =>
    have hserved := served_of_read (by omega) hread
    rw [Signal.gatherFrom_served hlt sofar hserved.served]
    exact ⟨rfl, rfl, hserved.prompt⟩
  | case2 filled sofar paced hlt bytes paced' hread ih =>
    have hserved := served_of_read (by omega) hread
    rw [Signal.gatherFrom_served hlt sofar hserved.served]
    exact ih.after hserved.prompt
  | case3 filled sofar paced hlt cause paced' hread hcause ih =>
    have hserved := served_of_read (by omega) hread
    rw [Signal.gatherFrom_served hlt sofar hserved.served]
    -- The interrupted read has taken nothing and is made again.
    simp only [hcause, if_true]
    exact ih.after hserved.prompt
  | case4 filled sofar paced hlt cause paced' hread hcause =>
    have hserved := served_of_read (by omega) hread
    rw [Signal.gatherFrom_served hlt sofar hserved.served]
    simp only [hcause]
    exact ⟨rfl, rfl, hserved.prompt⟩
  | case5 filled sofar paced hlt =>
    rw [Signal.gatherFrom_done hlt]
    exact ⟨rfl, rfl, id⟩

/-- **Gathering as time passes is gathering from the signals.** -/
theorem gather_finds (paced : Paced) (wanted : Nat) :
    Finds paced (paced.gather wanted) (Signal.gather wanted paced.feed.signals) :=
  gatherFrom_finds wanted 0 [] paced

end Paced

end Screencast.Feed
