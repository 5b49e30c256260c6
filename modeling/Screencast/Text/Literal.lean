/-
Text as a string literal.

The characters are those of one byte each, U+0000 to U+00FF. What cannot be
shown on a line is escaped: the control characters, the no-break space and the
soft hyphen; so are the quote and the backslash.
-/
import Screencast.Text.Numeral

namespace Screencast.Literal

/-- A character that leaves no plain mark where it is printed. -/
def isInvisible (c : Char) : Bool :=
  let n := c.toNat
  n < 0x20 || (0x7F ≤ n && n ≤ 0xA0) || n == 0xAD

/-- A character as it stands between the quotes of a literal. -/
def escape (c : Char) : String :=
  match c with
  | '\x00' => "\\0"
  | '\t' => "\\t"
  | '\n' => "\\n"
  | '\r' => "\\r"
  | '"' => "\\\""
  | '\\' => "\\\\"
  | c =>
    if isInvisible c then "\\u\x7b" ++ Numeral.hex 1 c.toNat ++ "\x7d" else String.ofList [c]

/-- A text in quotes. -/
def quote (text : String) : String :=
  "\"" ++ String.join (text.toList.map escape) ++ "\""

end Screencast.Literal
