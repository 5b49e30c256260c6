/-
Text taken apart at its ends and at its last separator.
-/

namespace Screencast.Affix

/-- What follows a given opening; `none` if the text does not open so. -/
def after? : List Char → List Char → Option (List Char)
  | [], text => some text
  | _ :: _, [] => none
  | a :: opening, c :: text => if a = c then after? opening text else none

/-- What precedes a given ending; `none` if the text does not end so. -/
def before? (ending text : List Char) : Option (List Char) :=
  (after? ending.reverse text.reverse).map List.reverse

/-- The text before and after the last occurrence of a separator. -/
def splitLast? (separator : Char) (text : List Char) : Option (List Char × List Char) :=
  match text.reverse.dropWhile (· != separator) with
  | [] => none
  | _ :: front => some (front.reverse, (text.reverse.takeWhile (· != separator)).reverse)

/-- A text without the given character at its start, however often it stands there. -/
def dropStart (c : Char) (text : List Char) : List Char := text.dropWhile (· == c)

/-- A text without the given character at its end, however often it stands there. -/
def dropEnd (c : Char) (text : List Char) : List Char := (dropStart c text.reverse).reverse

theorem after?_eq_some_iff {opening text rest : List Char} :
    after? opening text = some rest ↔ text = opening ++ rest := by
  induction opening generalizing text with
  | nil => simp [after?, eq_comm]
  | cons a opening ih =>
    cases text with
    | nil => simp [after?]
    | cons c text =>
      by_cases h : a = c
      · simp [after?, h, ih]
      · simp only [after?, if_neg h, List.cons_append, List.cons.injEq]
        exact ⟨nofun, fun hc => absurd hc.1.symm h⟩

theorem before?_eq_some_iff {ending text front : List Char} :
    before? ending text = some front ↔ text = front ++ ending := by
  simp only [before?, Option.map_eq_some_iff, after?_eq_some_iff]
  constructor
  · rintro ⟨back, hback, rfl⟩
    rw [← List.reverse_inj, hback]
    simp
  · rintro rfl
    exact ⟨front.reverse, by simp, by simp⟩

/-- Nothing is lost at the last separator. -/
theorem eq_of_splitLast? {separator : Char} {text front back : List Char}
    (h : splitLast? separator text = some (front, back)) : text = front ++ separator :: back := by
  have hparts := text.reverse.takeWhile_append_dropWhile (p := (· != separator))
  unfold splitLast? at h
  split at h
  · cases h
  · next c rest hrest =>
    have hc : c = separator := by
      have := List.head?_dropWhile_not (· != separator) text.reverse
      simpa [hrest] using this
    cases h
    rw [hrest, hc] at hparts
    have hback := congrArg List.reverse hparts
    simpa using hback.symm

/-- No separator stands behind the last one. -/
theorem not_mem_of_splitLast? {separator : Char} {text front back : List Char}
    (h : splitLast? separator text = some (front, back)) : separator ∉ back := by
  unfold splitLast? at h
  split at h
  · cases h
  · cases h
    intro hmem
    have := List.all_takeWhile (l := text.reverse) (p := (· != separator))
    rw [List.all_eq_true] at this
    simpa using this separator (List.mem_reverse.1 hmem)

end Screencast.Affix
