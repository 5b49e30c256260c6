/-
Spans of time read from text.

A span is a number of milliseconds, marked `ms`, or of seconds, marked `s` or
not at all. It cannot be zero.
-/
import Screencast.Span
import Screencast.Text.Affix
import Screencast.Text.Blank
import Screencast.Text.Numeral

namespace Screencast.Span

/-- Why a text is no span. -/
inductive ParseError
  | empty
  /-- The text, without the white space around it, is no number with a unit. -/
  | invalid (text : String)
  | zero
  deriving DecidableEq, Repr

/-- The text shown for an error. -/
def ParseError.message : ParseError → String
  | empty => "timeout must not be empty"
  | invalid text => s!"invalid timeout value: {text}"
  | zero => "timeout must be greater than zero"

/-- The number in a text and what it counts. -/
def splitUnit (text : List Char) : List Char × (Nat → Span) :=
  -- The longer mark ends in the shorter one and is looked for first.
  match Affix.before? ['m', 's'] text with
  | some number => (number, ofMillis)
  | none =>
    match Affix.before? ['s'] text with
    | some number => (number, ofSeconds)
    | none => (text, ofSeconds)

/-- The span that a text names. -/
def parse (input : String) : Except ParseError Span :=
  let text := Blank.trim input.toList
  if text.isEmpty then .error .empty
  else
    let (number, span) := splitUnit text
    match Numeral.parse? Numeral.max64 number with
    | none => .error (.invalid (String.ofList text))
    | some 0 => .error .zero
    | some n => .ok (span n)

end Screencast.Span
