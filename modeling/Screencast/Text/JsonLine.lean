/-
JSON objects, each on one line.

Text is quoted: a quote, a backslash and the control characters below the
blank are escaped, everything else stands for itself. Numbers that need not be
whole are written with the fewest digits that read back, positionally from
0.00001 up to 10^16 and with an exponent beyond; what is no finite number is
written as `null`.
-/
import Screencast.Decimal.Shortest
import Screencast.Text.Numeral

namespace Screencast.JsonLine

/-- The value of a member of an object. -/
inductive Value
  | text (value : String)
  | whole (value : Nat)
  | real (value : Float)
  | flag (value : Bool)

/-! ## Text -/

/-- A character as it stands in quotes. -/
def escape (c : Char) : String :=
  match c with
  | '"' => "\\\""
  | '\\' => "\\\\"
  | '\x08' => "\\b"
  | '\x0c' => "\\f"
  | '\n' => "\\n"
  | '\r' => "\\r"
  | '\t' => "\\t"
  | c => if c.toNat < 0x20 then "\\u" ++ Numeral.hex 4 c.toNat else String.ofList [c]

/-- A text in quotes. -/
def quote (text : String) : String := "\"" ++ String.join (text.toList.map escape) ++ "\""

/-! ## Numbers -/

/-- The exponents of the leading digit with which a number is written positionally. -/
def plainFrom : Int := -5
def plainBelow : Int := 16

/-- The digits of a decimal with a point after the first. -/
def mantissa : List Char → String
  | [] => ""
  | [c] => String.ofList [c]
  | c :: rest => String.ofList (c :: '.' :: rest)

/-- An exponent with its sign. -/
def exponent (e : Int) : String := if e < 0 then s!"e-{e.natAbs}" else s!"e+{e.natAbs}"

/-- A decimal as it is written. -/
def decimal (s : Decimal.Scaled) : String :=
  let digits := Decimal.digits s.d
  let e := s.k + digits.length - 1
  if plainFrom ≤ e ∧ e < plainBelow then
    if 0 ≤ s.k then Decimal.positional 1 (s.d * Nat.pow 10 (s.k.toNat + 1))
    else Decimal.positional (-s.k).toNat s.d
  else mantissa digits ++ exponent e

/-- A number as it is written. -/
def real (x : Float) : String :=
  match Decimal.Datum.ofFloat x with
  | .nan | .infinite _ => "null"
  | .finite negative m q =>
    Decimal.signed negative (if m = 0 then "0.0" else decimal (Decimal.shortest m q))

/-! ## Objects -/

def Value.render : Value → String
  | text value => quote value
  | whole value => toString value
  | real value => JsonLine.real value
  | flag value => if value then "true" else "false"

/-- A member of an object. -/
def member (name : String) (value : Value) : String := quote name ++ ":" ++ value.render

/-- An object with its members in order. -/
def object (members : List (String × Value)) : String :=
  "\x7b" ++ ",".intercalate (members.map fun (name, value) => member name value) ++ "\x7d"

end Screencast.JsonLine
