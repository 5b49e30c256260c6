/-
Decimal numerals.

A numeral is one digit or more, which a plus sign may precede, and it stands for
the number that its digits write to base 10 (`Written`), zeros in front included.
Reading finds these and no others, up to the largest number that is allowed
(`parse?_eq_some_iff`). The digits of a number are among them
(`parse?_toDigits`).
-/
import Screencast.Text.Blank
import Screencast.Text.Numeral

namespace Screencast.Numeral

/-- A decimal numeral, and the number that it stands for. -/
inductive Written : List Char → Nat → Prop
  | plain {digits : List Char} (hne : digits ≠ []) (hdigits : ∀ c ∈ digits, c.isDigit = true) :
      Written digits (Nat.ofDigitChars 10 digits 0)
  | signed {digits : List Char} (hne : digits ≠ []) (hdigits : ∀ c ∈ digits, c.isDigit = true) :
      Written ('+' :: digits) (Nat.ofDigitChars 10 digits 0)

namespace Written

variable {text : List Char} {n : Nat}

theorem ne_nil (h : Written text n) : text ≠ [] := by
  cases h with
  | plain hne => exact hne
  | signed => exact List.cons_ne_nil _ _

/-- A numeral holds nothing but digits and its sign. -/
theorem mem (h : Written text n) : ∀ c ∈ text, c = '+' ∨ c.isDigit = true := by
  intro c hc
  cases h with
  | plain _ hdigits => exact .inr (hdigits c hc)
  | signed _ hdigits =>
    rcases List.mem_cons.mp hc with rfl | hmem
    · exact .inl rfl
    · exact .inr (hdigits c hmem)

/-- What is neither a digit nor a plus sign is in no numeral. -/
theorem not_mem (h : Written text n) {c : Char} (hsign : c ≠ '+') (hdigit : c.isDigit = false) :
    c ∉ text := by
  intro hc
  rcases h.mem c hc with hplus | hisDigit
  · exact hsign hplus
  · rw [hdigit] at hisDigit
    cases hisDigit

/-- Neither a digit nor a sign is a blank. -/
theorem isBlank_eq_false (h : Written text n) : ∀ c ∈ text, Blank.isBlank c = false := by
  intro c hc
  rcases h.mem c hc with rfl | hdigit
  · decide
  · have hrange : 48 ≤ c.toNat ∧ c.toNat ≤ 57 := by
      simpa [Char.isDigit, UInt32.le_iff_toNat_le] using hdigit
    simp only [Blank.isBlank, Bool.or_eq_false_iff, Bool.and_eq_false_iff, decide_eq_false_iff_not,
      beq_eq_false_iff_ne]
    omega

theorem toDigits (n : Nat) : Written (Nat.toDigits 10 n) n := by
  have hdigits : ∀ c ∈ Nat.toDigits 10 n, c.isDigit = true := by
    intro c hc
    exact Nat.isDigit_of_mem_toDigits (by decide) (by decide) hc
  have hplain := plain Nat.toDigits_ne_nil hdigits
  rwa [Nat.ofDigitChars_ten_toDigits] at hplain

end Written

theorem ofDigits?_eq_some_iff {digits : List Char} {n : Nat} :
    ofDigits? digits = some n ↔
      digits ≠ [] ∧ (∀ c ∈ digits, c.isDigit = true) ∧ Nat.ofDigitChars 10 digits 0 = n := by
  -- The library has the base in front of what has been read so far.
  have hvalue : digits.foldl (fun n c => n * 10 + (c.toNat - '0'.toNat)) 0 =
      Nat.ofDigitChars 10 digits 0 := by
    simp only [Nat.ofDigitChars, Nat.mul_comm]
  have hpasses : (digits.isEmpty || digits.any fun c => !c.isDigit) = false ↔
      digits ≠ [] ∧ ∀ c ∈ digits, c.isDigit = true := by simp
  rw [ofDigits?, hvalue]
  cases hstop : digits.isEmpty || digits.any fun c => !c.isDigit with
  | true =>
    rw [if_pos rfl]
    constructor
    · nofun
    · rintro ⟨hne, hdigits, -⟩
      rw [hpasses.mpr ⟨hne, hdigits⟩] at hstop
      cases hstop
  | false =>
    obtain ⟨hne, hdigits⟩ := hpasses.mp hstop
    rw [if_neg Bool.false_ne_true, Option.some.injEq]
    exact ⟨fun hn => ⟨hne, hdigits, hn⟩, fun hn => hn.2.2⟩

theorem filter_le_eq_some_iff {max n : Nat} {read : Option Nat} :
    read.filter (· ≤ max) = some n ↔ read = some n ∧ n ≤ max := by
  simp [Option.filter_eq_some_iff]

/-- **Reading finds the numerals up to the largest number, and nothing else.** -/
theorem parse?_eq_some_iff {max : Nat} {text : List Char} {n : Nat} :
    parse? max text = some n ↔ Written text n ∧ n ≤ max := by
  unfold parse?
  dsimp only
  rw [filter_le_eq_some_iff, ofDigits?_eq_some_iff]
  refine and_congr_left fun _ => ?_
  split
  · next digits =>
    constructor
    · rintro ⟨hne, hdigits, rfl⟩
      exact .signed hne hdigits
    · rintro (⟨-, hdigits⟩ | ⟨hne, hdigits⟩)
      · -- A plus sign is no digit.
        cases hdigits '+' List.mem_cons_self
      · exact ⟨hne, hdigits, rfl⟩
  · next hunsigned =>
    constructor
    · rintro ⟨hne, hdigits, rfl⟩
      exact .plain hne hdigits
    · rintro (⟨hne, hdigits⟩ | ⟨hne, hdigits⟩)
      · exact ⟨hne, hdigits, rfl⟩
      · exact absurd rfl (hunsigned _)

theorem parse?_toDigits {max n : Nat} (h : n ≤ max) : parse? max (Nat.toDigits 10 n) = some n :=
  parse?_eq_some_iff.mpr ⟨.toDigits n, h⟩

end Screencast.Numeral
