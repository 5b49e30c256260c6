/-
The parameters that can be given on the command line.

A parameter is given by name, with or without a value, or by its place. Those
for the form of the output are known everywhere, the others to some commands
only. No parameter can be given twice in one place.
-/
import Screencast.Command

namespace Screencast.CommandLine

/-- Why a command line is not carried out. -/
inductive Problem
  /-- Nothing was given; the help text is shown. -/
  | nothingGiven
  /-- The help text was asked for. -/
  | helpWanted
  /-- The version was asked for. -/
  | versionWanted
  | missingCommand
  | unknownCommand
  | unknownArgument
  /-- A parameter that must be given was not. -/
  | missingArgument
  /-- A value is missing, or is none of the values that there are. -/
  | noSuchValue
  /-- A value is not of the right form. -/
  | badValue
  /-- A value was given to a parameter that takes none. -/
  | valueUnwanted
  /-- A parameter was given twice. -/
  | repeated
  deriving DecidableEq, Repr

/-- The exit code of a command line that is not carried out. -/
def Problem.code : Problem → Nat
  | helpWanted | versionWanted => 0
  | _ => 2

/-- The commands by name. -/
inductive Verb
  | probe
  | dump
  | record
  | transcode
  | version
  deriving DecidableEq, Repr

/-- The command of a name. -/
def Verb.ofName? : String → Option Verb
  | "probe" => some probe
  | "dump" => some dump
  | "record" => some record
  | "transcode" => some transcode
  | "version" => some version
  | _ => none

/-- A parameter. -/
inductive Param
  | format
  | noticeForm
  | noticeLevel
  | endpoint
  | output
  | noProbeByte
  | probeTimeout
  | connectTimeout
  | maxPayload
  | count
  | program
  | extended
  | help
  | version
  deriving DecidableEq, Repr

namespace Param

/-- A parameter that stands alone. -/
def isFlag : Param → Bool
  | noProbeByte | extended | help | version => true
  | _ => false

/-- The name by which a parameter is given. -/
def name? : Param → Option String
  | format => some "format"
  | noticeForm => some "log-format"
  | noticeLevel => some "log-level"
  | noProbeByte => some "no-probe-byte"
  | probeTimeout => some "probe-timeout"
  | connectTimeout => some "connect-timeout"
  | maxPayload => some "max-payload"
  | count => some "count"
  | program => some "program"
  | extended => some "extended"
  | help => some "help"
  | version => some "version"
  | endpoint | output => none

/-- The letter by which a parameter is given. -/
def letter? : Param → Option Char
  | help => some 'h'
  | version => some 'V'
  | _ => none

/-- The parameters known everywhere. -/
def common : List Param := [help, format, noticeForm, noticeLevel]

/-- The parameters that say how to reach and read an endpoint. -/
def target : List Param := [endpoint, noProbeByte, probeTimeout, connectTimeout, maxPayload]

end Param

/-- The parameters known to a command, or before any. -/
def paramsOf : Option Verb → List Param
  | none => .version :: Param.common
  | some .probe => Param.target ++ Param.common
  | some .dump => .count :: Param.target ++ Param.common
  | some .record => Param.target ++ .output :: Param.common
  | some .transcode => .program :: Param.target ++ .output :: Param.common
  | some .version => .extended :: Param.common

/-- The parameters that must be given by their place, in order. -/
def placesOf (verb : Option Verb) : List Param :=
  (paramsOf verb).filter fun param => param.name?.isNone

/-! ## Values -/

/-- What has been given in one place: before the command, or after it. -/
structure Given where
  format : Option Report.Format := none
  noticeForm : Option Notice.Form := none
  noticeLevel : Option Notice.Level := none
  endpoint : Option Endpoint := none
  output : Option String := none
  noProbeByte : Option Unit := none
  probeTimeout : Option String := none
  connectTimeout : Option String := none
  maxPayload : Option Nat := none
  count : Option Nat := none
  program : Option String := none
  extended : Option Unit := none
  deriving DecidableEq, Repr

/-- The value of that name among those that there are. -/
def oneOf {α : Type} (values : List (String × α)) (text : String) : Except Problem α :=
  match values.lookup text with
  | some value => .ok value
  | none => .error .noSuchValue

/-- A number of at most 64 bits. -/
def number (text : String) : Except Problem Nat :=
  match Numeral.parse? Numeral.max64 text.toList with
  | some n => .ok n
  | none => .error .badValue

/-- A file name, which cannot be empty. -/
def fileName (text : String) : Except Problem String :=
  if text.isEmpty then .error .noSuchValue else .ok text

def formats : List (String × Report.Format) :=
  [("json", .json), ("table", .table), ("pretty", .pretty), ("raw", .raw)]

def noticeForms : List (String × Notice.Form) := [("text", .text), ("json", .json)]

def noticeLevels : List (String × Notice.Level) :=
  [("error", .error), ("warn", .warn), ("info", .info), ("debug", .debug), ("trace", .trace)]

/-- A value for a parameter that has none yet. -/
def once {α : Type} (old : Option α) (value : Except Problem α) : Except Problem (Option α) :=
  if old.isSome then .error .repeated else value.map some

/-- Adds a parameter with its value; a parameter that stands alone has none. -/
def Given.add (given : Given) (param : Param) (text : String) : Except Problem Given := do
  match param with
  | .format => return { given with format := ← once given.format (oneOf formats text) }
  | .noticeForm =>
    return { given with noticeForm := ← once given.noticeForm (oneOf noticeForms text) }
  | .noticeLevel =>
    return { given with noticeLevel := ← once given.noticeLevel (oneOf noticeLevels text) }
  | .endpoint =>
    let value := (Endpoint.parse text).mapError fun _ => Problem.badValue
    return { given with endpoint := ← once given.endpoint value }
  | .output => return { given with output := ← once given.output (fileName text) }
  | .noProbeByte => return { given with noProbeByte := ← once given.noProbeByte (.ok ()) }
  | .probeTimeout => return { given with probeTimeout := ← once given.probeTimeout (.ok text) }
  | .connectTimeout =>
    return { given with connectTimeout := ← once given.connectTimeout (.ok text) }
  | .maxPayload => return { given with maxPayload := ← once given.maxPayload (number text) }
  | .count => return { given with count := ← once given.count (number text) }
  | .program => return { given with program := ← once given.program (fileName text) }
  | .extended => return { given with extended := ← once given.extended (.ok ()) }
  | .help => .error .helpWanted
  | .version => .error .versionWanted

/-- Something has been given. -/
def Given.isAny (given : Given) : Bool := given != {}

end Screencast.CommandLine
