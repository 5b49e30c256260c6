/-
The answers of something that is asked again and again.

Intakes and sessions are asked for one frame after another. `answers` asks a
given number of times and collects what comes, together with what has become of
the one that was asked. Two that answer alike and stay related give the same
answers for ever (`answers_eq_of_related`).
-/

namespace Screencast

section

variable {σ α : Type} (next : σ → α × σ)

/-- The answers to so many calls in a row, and the state after them. -/
def answers : Nat → σ → List α × σ
  | 0, state => ([], state)
  | calls + 1, state =>
    let (answer, state) := next state
    let (later, state) := answers calls state
    (answer :: later, state)

variable {next}

theorem answers_succ (calls : Nat) (state : σ) :
    answers next (calls + 1) state =
      ((next state).1 :: (answers next calls (next state).2).1,
        (answers next calls (next state).2).2) := rfl

/-- Answers depend on the state only by what the next call does. -/
theorem answers_fst_of_next {state state' : σ} (h : next state = next state') (calls : Nat) :
    (answers next calls state).1 = (answers next calls state').1 := by
  cases calls with
  | zero => rfl
  | succ calls => rw [answers_succ, answers_succ, h]

theorem answers_succ_of_next {state state' : σ} (h : next state = next state') (calls : Nat) :
    answers next (calls + 1) state = answers next (calls + 1) state' := by
  rw [answers_succ, answers_succ, h]

/-- Calls may be counted in two parts. -/
theorem answers_add (first second : Nat) (state : σ) :
    answers next (first + second) state =
      ((answers next first state).1 ++ (answers next second (answers next first state).2).1,
        (answers next second (answers next first state).2).2) := by
  induction first generalizing state with
  | zero => rw [Nat.zero_add]; rfl
  | succ first ih =>
    rw [show first + 1 + second = first + second + 1 by omega, answers_succ, answers_succ, ih]
    rfl

/-- What does not change when it is asked always answers the same. -/
theorem answers_of_fixed {state : σ} {answer : α} (h : next state = (answer, state))
    (calls : Nat) : answers next calls state = (List.replicate calls answer, state) := by
  induction calls with
  | zero => rfl
  | succ calls ih => rw [answers_succ, h, ih, List.replicate_succ]

/-- What answers alike, and stays related while it does, answers alike for ever. -/
theorem answers_eq_of_related {τ : Type} {next' : τ → α × τ} {related : σ → τ → Prop}
    (hstep : ∀ state state', related state state' →
      (next state).1 = (next' state').1 ∧ related (next state).2 (next' state').2)
    {state : σ} {state' : τ} (h : related state state') (calls : Nat) :
    (answers next calls state).1 = (answers next' calls state').1 ∧
      related (answers next calls state).2 (answers next' calls state').2 := by
  induction calls generalizing state state' with
  | zero => exact ⟨rfl, h⟩
  | succ calls ih =>
    obtain ⟨hanswer, hrelated⟩ := hstep state state' h
    obtain ⟨hlater, hlast⟩ := ih hrelated
    rw [answers_succ, answers_succ, hanswer, hlater]
    exact ⟨rfl, hlast⟩

end

end Screencast
