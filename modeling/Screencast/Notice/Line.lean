/-
Notices as lines of text.

A line shows how much its notice matters, the message and the named values. In
the other form it is an object with the same fields.
-/
import Screencast.Notice
import Screencast.Text.JsonLine

namespace Screencast.Notice

/-- The form of the notices that are shown. -/
inductive Form
  | text
  | json
  deriving DecidableEq, Repr

/-- A level as it is shown. -/
def Level.text : Level → String
  | trace => "TRACE"
  | debug => "DEBUG"
  | info => "INFO"
  | warn => "WARN"
  | error => "ERROR"

/-- The levels in the order of how much they matter. -/
def Level.rank : Level → Nat
  | trace => 0
  | debug => 1
  | info => 2
  | warn => 3
  | error => 4

/-- A value after its name. -/
def Value.line (name : String) : Value → String
  | .flag value => s!" {name}={value}"
  | .text value => s!" {name}={value}"

/-- A value in an object. -/
def Value.json : Value → JsonLine.Value
  | .flag value => .flag value
  | .text value => .text value

/-- A notice as a line. -/
def line (notice : Notice) : Form → String
  | .text =>
    let values := notice.fields.map fun (name, value) => value.line name
    s!"{notice.level.text} {notice.message}{String.join values}"
  | .json => JsonLine.object <|
    [("level", .text notice.level.text), ("message", .text notice.message)] ++
      notice.fields.map fun (name, value) => (name, value.json)

/-- The lines of the notices that matter at least as much as `least`. -/
def lines (notices : List Notice) (form : Form) (least : Level) : List String :=
  (notices.filter fun notice => least.rank ≤ notice.level.rank).map fun notice => notice.line form

end Screencast.Notice
