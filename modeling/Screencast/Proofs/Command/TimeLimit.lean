/-
Time limits are read by their grammar.

A time limit is a numeral and a mark, `ms`, `s` or none (`Span.Written`), with
blanks around it. The marks overlap, since one ends in the other and the last is
empty; but no numeral ends in a letter, so there is one way only to take a text
apart into a numeral and a mark (`splitUnit_append`). Whatever is not written
like that is refused as wrong use of the program.
-/
import Mathlib.Algebra.Group.Nat.Defs
import Screencast.Command
import Screencast.Proofs.Text.Ends
import Screencast.Proofs.Text.Numeral

namespace Screencast

namespace Span

/-! ## The grammar -/

/-- A mark behind a number, and what the number counts. -/
inductive Mark : List Char → (Nat → Span) → Prop
  | millis : Mark ['m', 's'] ofMillis
  | seconds : Mark ['s'] ofSeconds
  | none : Mark [] ofSeconds

/-- A text that names a span: a numeral that is neither zero nor too large for 64 bits, and a
mark. -/
inductive Written : List Char → Span → Prop
  | counted {number mark : List Char} {unit : Nat → Span} {n : Nat}
      (hnumber : Numeral.Written number n) (hmark : Mark mark unit) (hpos : 0 < n)
      (hlt : n < 2 ^ 64) : Written (number ++ mark) (unit n)

theorem Written.bare {text : List Char} {span : Span} (h : Written text span) :
    Blank.Bare text := by
  obtain ⟨hnumber, hmark⟩ := h
  apply Blank.Bare.of_forall
  intro c hc
  rcases List.mem_append.mp hc with hnumeral | hletter
  · exact hnumber.isBlank_eq_false c hnumeral
  · have hms : c = 'm' ∨ c = 's' := by
      cases hmark with
      | millis => simpa using hletter
      | seconds => simpa using .inr (List.mem_singleton.mp hletter)
      | none => cases hletter
    rcases hms with rfl | rfl
    · decide
    · decide

/-- The whole seconds of a span that can be named fit in 64 bits. -/
theorem Written.seconds_lt {text : List Char} {span : Span} (h : Written text span) :
    span.micros / 1000000 < 2 ^ 64 := by
  obtain ⟨-, hmark, -, hlt⟩ := h
  next number mark unit n =>
  cases hmark with
  | millis =>
    show n * 1000 / 1000000 < 2 ^ 64
    omega
  | seconds | none =>
    show n * 1000000 / 1000000 < 2 ^ 64
    omega

/-! ## Reading -/

/-- Taking the unit off loses nothing. -/
theorem splitUnit_mark (text : List Char) :
    ∃ mark, Mark mark (splitUnit text).2 ∧ text = (splitUnit text).1 ++ mark := by
  unfold splitUnit
  split
  · next number hnumber => exact ⟨_, .millis, Affix.before?_eq_some_iff.mp hnumber⟩
  · split
    · next number hnumber => exact ⟨_, .seconds, Affix.before?_eq_some_iff.mp hnumber⟩
    · exact ⟨[], .none, (List.append_nil text).symm⟩

/-- Behind a numeral the mark is found that stands there. -/
theorem splitUnit_append {number mark : List Char} {unit : Nat → Span} {n : Nat}
    (hnumber : Numeral.Written number n) (hmark : Mark mark unit) :
    splitUnit (number ++ mark) = (number, unit) := by
  have hm : 'm' ∉ number := hnumber.not_mem (by decide) (by decide)
  have hs : 's' ∉ number := hnumber.not_mem (by decide) (by decide)
  unfold splitUnit
  cases hmark with
  | millis => rw [Affix.before?_eq_some_iff.mpr rfl]
  | seconds =>
    -- The longer mark is looked for first, and it ends in this one.
    have hlong : Affix.before? ['m', 's'] (number ++ ['s']) = .none := by
      apply Affix.before?_eq_none
      simpa using hm
    rw [hlong, Affix.before?_eq_some_iff.mpr rfl]
  | none => rw [List.append_nil, Affix.before?_eq_none hm, Affix.before?_eq_none hs]

/-- **A text is read as a span if and only if it names one.** -/
theorem parse_eq_ok_iff {input : String} {span : Span} :
    parse input = .ok span ↔ Written (Blank.trim input.toList) span := by
  unfold parse
  generalize Blank.trim input.toList = text
  constructor
  · intro h
    obtain ⟨mark, hmark, htext⟩ := splitUnit_mark text
    dsimp only at h
    split at h
    · cases h
    · split at h
      · cases h
      · cases h
      · next n hzero hparse =>
        cases h
        obtain ⟨hnumber, hle⟩ := Numeral.parse?_eq_some_iff.mp hparse
        have hpos : 0 < n := Nat.pos_of_ne_zero hzero
        have hlt : n < 2 ^ 64 := by
          simp only [Numeral.max64] at hle
          omega
        have hwritten := Written.counted hnumber hmark hpos hlt
        rwa [← htext] at hwritten
  · rintro ⟨hnumber, hmark, hpos, hlt⟩
    next number mark unit n =>
    have hne : (number ++ mark).isEmpty = false := by simp [hnumber.ne_nil]
    have hparse : Numeral.parse? Numeral.max64 number = some n := by
      apply Numeral.parse?_eq_some_iff.mpr
      refine ⟨hnumber, ?_⟩
      simp only [Numeral.max64]
      omega
    simp only [hne, splitUnit_append hnumber hmark, hparse]
    cases n with
    | zero => cases hpos
    | succ n => rfl

end Span

namespace Command

theorem timeLimit_eq_ok_iff {input : String} {span : Span} :
    timeLimit input = .ok span ↔ Span.parse input = .ok span := by
  unfold timeLimit
  cases Span.parse input with
  | error e => simp [Except.mapError]
  | ok found => simp [Except.mapError]

theorem exit_of_timeLimit {input : String} {complaint : Complaint}
    (h : timeLimit input = .error complaint) : complaint.exit = .usage := by
  unfold timeLimit at h
  cases hparse : Span.parse input with
  | error e =>
    rw [hparse] at h
    cases h
    rfl
  | ok span =>
    rw [hparse] at h
    cases h

/-- **A time limit is what its grammar says, and everything else is wrong use.** A text is read as a
limit if and only if it is, between blanks, a numeral from 1 to 2^64 - 1 and a mark; the limit is
then that many milliseconds or seconds, and its whole seconds still fit in 64 bits. Every other text
is refused with the code 64. -/
theorem timeLimit_grammar (input : String) :
    (∀ span, timeLimit input = .ok span ↔
      ∃ text, Blank.Between text input.toList ∧ Span.Written text span) ∧
    (∀ span, timeLimit input = .ok span → span.micros / 1000000 < 2 ^ 64) ∧
    ((¬ ∃ text span, Blank.Between text input.toList ∧ Span.Written text span) →
      ∃ complaint, timeLimit input = .error complaint ∧ complaint.exit.code = 64) := by
  have hgrammar : ∀ span, timeLimit input = .ok span ↔
      ∃ text, Blank.Between text input.toList ∧ Span.Written text span := by
    intro span
    rw [timeLimit_eq_ok_iff, Span.parse_eq_ok_iff]
    constructor
    · intro h
      exact ⟨_, Blank.between_trim _, h⟩
    · rintro ⟨text, hbetween, hwritten⟩
      -- A text of the grammar has no blanks at its ends, so it is the one that trimming finds.
      rwa [Blank.trim_eq_iff.mpr ⟨hbetween, hwritten.bare⟩]
  refine ⟨hgrammar, ?_, ?_⟩
  · intro span h
    obtain ⟨text, -, hwritten⟩ := (hgrammar span).mp h
    exact hwritten.seconds_lt
  · intro hno
    cases hlimit : timeLimit input with
    | ok span =>
      obtain ⟨text, hbetween, hwritten⟩ := (hgrammar span).mp hlimit
      exact absurd ⟨text, span, hbetween, hwritten⟩ hno
    | error complaint =>
      refine ⟨complaint, rfl, ?_⟩
      rw [exit_of_timeLimit hlimit]
      rfl

/-- A sign and zeros in front count as little as the blanks around, but a blank before the mark does
count, and so does a number that is one too large. -/
theorem timeLimit_grammar_signed :
    timeLimit "\t +00150ms " = .ok (.ofMillis 150) ∧
    (Span.ofMillis 150).micros / 1000000 < 2 ^ 64 ∧
    (∃ complaint, timeLimit "5 s" = .error complaint ∧ complaint.exit.code = 64) ∧
    ∃ complaint, timeLimit "18446744073709551616" = .error complaint ∧
      complaint.exit.code = 64 := by
  have hnumber : Numeral.Written ['+', '0', '0', '1', '5', '0'] 150 :=
    .signed (by simp) (by simp)
  have hbetween : Blank.Between ['+', '0', '0', '1', '5', '0', 'm', 's'] "\t +00150ms ".toList :=
    ⟨['\t', ' '], [' '], rfl, by simp [Blank.isBlank], by simp [Blank.isBlank]⟩
  have hlimit : timeLimit "\t +00150ms " = .ok (.ofMillis 150) :=
    ((timeLimit_grammar _).1 _).mpr
      ⟨_, hbetween, .counted hnumber .millis (by decide) (by decide)⟩
  refine ⟨hlimit, (timeLimit_grammar _).2.1 _ hlimit, ?_, ?_⟩
  · apply (timeLimit_grammar _).2.2
    rintro ⟨text, span, hinner⟩
    cases ((timeLimit_grammar "5 s").1 span).mpr ⟨text, hinner⟩
  · apply (timeLimit_grammar _).2.2
    rintro ⟨text, span, hlarge⟩
    cases ((timeLimit_grammar "18446744073709551616").1 span).mpr ⟨text, hlarge⟩

end Command

end Screencast
