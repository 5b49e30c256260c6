/-
What stands at the ends of a text, and what is left without it.

Trimming takes off the blanks at both ends and nothing else: what is left stands
between blanks and neither begins nor ends with one, and it is the only such
part (`trim_eq_iff`). A character that is dropped from an end, however often it
stands there, is gone from that end (`head?_dropStart`, `getLast?_dropEnd`), and
the rest is as it was. The text behind the last separator is the one that holds
none (`splitLast?_eq_some_iff`).
-/
import Mathlib.Data.List.DropRight
import Screencast.Text.Affix
import Screencast.Text.Blank

namespace Screencast

/-- What is left of a list without the end that has some property does not end with it. -/
theorem getLast?_rdropWhile_not {α : Type} (p : α → Bool) (list : List α) :
    ∀ x ∈ (list.rdropWhile p).getLast?, p x = false := by
  intro x hx
  have hne : list.rdropWhile p ≠ [] := by
    intro hnil
    rw [hnil] at hx
    cases hx
  rw [List.getLast?_eq_some_getLast hne] at hx
  obtain rfl := Option.some.inj hx
  exact Bool.eq_false_iff.mpr (List.rdropWhile_last_not p list hne)

namespace Blank

/-- A text that stands between blanks in a whole one. -/
def Between (text whole : List Char) : Prop :=
  ∃ front back, whole = front ++ text ++ back ∧ (∀ c ∈ front, isBlank c = true) ∧
    ∀ c ∈ back, isBlank c = true

/-- A text that neither begins nor ends with a blank. -/
structure Bare (text : List Char) : Prop where
  first : ∀ c ∈ text.head?, isBlank c = false
  last : ∀ c ∈ text.getLast?, isBlank c = false

theorem Bare.of_forall {text : List Char} (h : ∀ c ∈ text, isBlank c = false) :
    Bare text where
  first := fun c hc => h c (List.mem_of_mem_head? hc)
  last := fun c hc => h c (List.mem_of_mem_getLast? hc)

theorem trimEnd_eq (text : List Char) : trimEnd text = text.rdropWhile isBlank := rfl

/-- What is left does not end with a blank, and what does not is left as it is. -/
theorem trimEnd_eq_self_iff {text : List Char} :
    trimEnd text = text ↔ ∀ c ∈ text.getLast?, isBlank c = false := by
  constructor
  · intro h
    rw [← h]
    exact getLast?_rdropWhile_not isBlank text
  · intro hlast
    rw [trimEnd_eq]
    apply List.rdropWhile_eq_self_iff.mpr
    intro hne
    have hc := hlast _ (List.getLast?_eq_some_getLast hne)
    simp [hc]

/-- Blanks behind a text that ends with none are taken off. -/
theorem trimEnd_append {text back : List Char} (hlast : ∀ c ∈ text.getLast?, isBlank c = false)
    (hback : ∀ c ∈ back, isBlank c = true) : trimEnd (text ++ back) = text := by
  have hblank : ∀ c ∈ back.reverse, isBlank c = true := by
    intro c hc
    exact hback c (List.mem_reverse.mp hc)
  calc trimEnd (text ++ back)
      = trimEnd text := by
        rw [trimEnd, List.reverse_append, List.dropWhile_append_of_pos hblank, ← trimEnd]
    _ = text := trimEnd_eq_self_iff.mpr hlast

/-- What is taken off the end of a text is blanks. -/
theorem exists_trimEnd (text : List Char) :
    ∃ back, text = trimEnd text ++ back ∧ ∀ c ∈ back, isBlank c = true := by
  refine ⟨text.rtakeWhile isBlank, ?_, fun c hc => List.mem_rtakeWhile_imp hc⟩
  rw [trimEnd_eq, List.rdropWhile_append_rtakeWhile]

theorem between_trim (whole : List Char) : Between (trim whole) whole := by
  obtain ⟨back, hwhole, hback⟩ := exists_trimEnd (whole.dropWhile isBlank)
  refine ⟨whole.takeWhile isBlank, back, ?_, fun c hc => List.mem_takeWhile_imp hc, hback⟩
  rw [trim, List.append_assoc, ← hwhole, List.takeWhile_append_dropWhile]

theorem bare_trim (whole : List Char) : Bare (trim whole) where
  first := by
    intro c hc
    -- What is left begins as the text does behind the blanks in front of it.
    have hhead : (whole.dropWhile isBlank).head? = some c := by
      obtain ⟨rest, hrest⟩ := List.head?_eq_some_iff.mp hc
      obtain ⟨back, hwhole, -⟩ := exists_trimEnd (whole.dropWhile isBlank)
      rw [hwhole, ← trim, hrest]
      rfl
    have hnot := List.head?_dropWhile_not isBlank whole
    rwa [hhead] at hnot
  last := getLast?_rdropWhile_not isBlank _

/-- **Trimming finds the only part of a text that stands between blanks and has none at its
ends.** -/
theorem trim_eq_iff {whole text : List Char} :
    trim whole = text ↔ Between text whole ∧ Bare text := by
  constructor
  · rintro rfl
    exact ⟨between_trim whole, bare_trim whole⟩
  · rintro ⟨⟨front, back, rfl, hfront, hback⟩, hbare⟩
    rw [trim, List.append_assoc, List.dropWhile_append_of_pos hfront]
    cases text with
    | nil =>
      have hnone : back.dropWhile isBlank = [] := List.dropWhile_eq_nil_iff.mpr hback
      rw [List.nil_append, hnone]
      rfl
    | cons c rest =>
      have hc : isBlank c = false := hbare.first c rfl
      rw [List.cons_append, List.dropWhile_cons_of_neg (by simp [hc]), ← List.cons_append]
      exact trimEnd_append hbare.last hback

/-- Behind an opening with no blanks at its ends, trimming takes off only what is at the end. -/
theorem trim_append {opening : List Char} (hne : opening ≠ []) (hopening : Bare opening)
    (text : List Char) : trim (opening ++ text) = opening ++ trimEnd text := by
  obtain ⟨back, htext, hback⟩ := exists_trimEnd text
  have hwhole : opening ++ text = [] ++ (opening ++ trimEnd text) ++ back := by
    rw [List.nil_append, List.append_assoc, ← htext]
  apply trim_eq_iff.mpr
  refine ⟨⟨[], back, hwhole, nofun, hback⟩, ?_, ?_⟩
  · intro c hc
    rw [List.head?_append_of_ne_nil _ hne] at hc
    exact hopening.first c hc
  · intro c hc
    rw [List.getLast?_append, Option.mem_def, Option.or_eq_some_iff] at hc
    rcases hc with hleft | ⟨-, hlast⟩
    · exact getLast?_rdropWhile_not isBlank text c hleft
    · exact hopening.last c hlast

end Blank

namespace Affix

/-- A text without some character does not end with what begins with it. -/
theorem before?_eq_none {c : Char} {rest text : List Char} (h : c ∉ text) :
    before? (c :: rest) text = none := by
  rw [Option.eq_none_iff_forall_ne_some]
  intro front hfront
  rw [before?_eq_some_iff.mp hfront] at h
  simp at h

/-! ## Characters dropped from an end -/

section Drop

variable {c : Char} {text : List Char}

theorem head?_dropStart (c : Char) (text : List Char) : (dropStart c text).head? ≠ some c := by
  intro h
  have hnot := List.head?_dropWhile_not (· == c) text
  rw [dropStart] at h
  rw [h] at hnot
  simp at hnot

theorem dropStart_of_head? (h : text.head? ≠ some c) : dropStart c text = text := by
  cases text with
  | nil => rfl
  | cons d rest =>
    have hd : d ≠ c := by simpa using h
    rw [dropStart, List.dropWhile_cons_of_neg (by simpa using hd)]

theorem dropStart_cons (c : Char) (text : List Char) : dropStart c (c :: text) = dropStart c text := by
  rw [dropStart, dropStart, List.dropWhile_cons_of_pos (by simp)]

theorem dropStart_concat {d : Char} (h : d ≠ c) (text : List Char) :
    dropStart c (text ++ [d]) = dropStart c text ++ [d] := by
  induction text with
  | nil => exact dropStart_of_head? (by simpa using h)
  | cons a rest ih =>
    by_cases ha : a = c
    · subst ha
      rw [List.cons_append, dropStart_cons, dropStart_cons, ih]
    · rw [dropStart_of_head? (by simpa using ha), dropStart_of_head? (by simpa using ha)]

theorem dropEnd_eq (c : Char) (text : List Char) : dropEnd c text = text.rdropWhile (· == c) := rfl

theorem getLast?_dropEnd (c : Char) (text : List Char) : (dropEnd c text).getLast? ≠ some c := by
  intro h
  simpa using getLast?_rdropWhile_not (· == c) text c h

theorem dropEnd_of_getLast? (h : text.getLast? ≠ some c) : dropEnd c text = text := by
  have hreverse : text.reverse.head? ≠ some c := by rwa [List.head?_reverse]
  rw [dropEnd, dropStart_of_head? hreverse, List.reverse_reverse]

theorem dropEnd_concat (c : Char) (text : List Char) : dropEnd c (text ++ [c]) = dropEnd c text := by
  rw [dropEnd_eq, dropEnd_eq, List.rdropWhile_concat_pos _ _ _ (by simp)]

/-- What is left of a text without its end begins as the text does. -/
theorem head?_dropEnd (h : dropEnd c text ≠ []) : (dropEnd c text).head? = text.head? := by
  obtain ⟨back, hback⟩ := List.rdropWhile_prefix (· == c) text
  obtain ⟨d, rest, hleft⟩ := List.exists_cons_of_ne_nil h
  rw [hleft, ← hback, ← dropEnd_eq, hleft]
  rfl

end Drop

/-! ## The last separator -/

theorem splitLast?_append {separator : Char} {back : List Char} (h : separator ∉ back)
    (front : List Char) : splitLast? separator (front ++ separator :: back) = some (front, back) := by
  have hback : ∀ c ∈ back.reverse, (c != separator) = true := by
    intro c hc
    rw [bne_iff_ne]
    rintro rfl
    exact h (List.mem_reverse.mp hc)
  have hreverse : (front ++ separator :: back).reverse =
      back.reverse ++ separator :: front.reverse := by simp
  have hdrop : (back.reverse ++ separator :: front.reverse).dropWhile (· != separator) =
      separator :: front.reverse := by
    rw [List.dropWhile_append_of_pos hback, List.dropWhile_cons_of_neg (by simp)]
  have htake : (back.reverse ++ separator :: front.reverse).takeWhile (· != separator) =
      back.reverse := by
    rw [List.takeWhile_append_of_pos hback, List.takeWhile_cons_of_neg (by simp),
      List.append_nil]
  rw [splitLast?, hreverse, hdrop, htake]
  simp

/-- **A text is split where the text behind holds no separator.** -/
theorem splitLast?_eq_some_iff {separator : Char} {text front back : List Char} :
    splitLast? separator text = some (front, back) ↔
      text = front ++ separator :: back ∧ separator ∉ back := by
  constructor
  · intro h
    exact ⟨eq_of_splitLast? h, not_mem_of_splitLast? h⟩
  · rintro ⟨rfl, h⟩
    exact splitLast?_append h front

end Affix

end Screencast
