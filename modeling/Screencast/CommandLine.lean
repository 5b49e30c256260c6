/-
Command lines.

A command line names a command; parameters may stand before and after it. A
parameter by name is `--name value` or `--name=value`; what stands in the
place of a value but looks like a name is no value. After `--` nothing is a
name. A value is only looked at when the next parameter begins, so of two
problems the later one may be the one that is reported.
-/
import Screencast.CommandLine.Param

namespace Screencast.CommandLine

/-! ## Words -/

/-- A word of a command line, by its form. -/
inductive Word
  /-- The word `--`. -/
  | marker
  /-- A parameter by name, with the value that is attached to it. -/
  | named (name : String) (value : Option String)
  /-- Parameters by letter. -/
  | letters (letters : List Char)
  /-- Anything else. -/
  | plain (text : String)
  deriving DecidableEq, Repr

/-- The form of a word. -/
def Word.ofText (text : String) : Word :=
  match text.toList with
  | ['-', '-'] => .marker
  | '-' :: '-' :: rest =>
    -- Only the first equals sign parts a name from its value.
    match rest.dropWhile (· != '=') with
    | _ :: value => .named (String.ofList (rest.takeWhile (· != '='))) (some (String.ofList value))
    | [] => .named (String.ofList rest) none
  | '-' :: c :: rest => .letters (c :: rest)
  | _ => .plain text

/-! ## Reading -/

/-- How far the reading of one place has come. -/
structure Reading where
  given : Given := {}
  /-- The last parameter, whose value, if it has come, has not been looked at yet. -/
  pending : Option (Param × Option String) := none
  /-- The places that are still to be filled. -/
  places : List Param
  /-- The word `--` has come. -/
  verbatim : Bool := false
  deriving DecidableEq, Repr

namespace Reading

/-- The last parameter has not got its value yet. -/
def isWaiting (reading : Reading) : Bool :=
  match reading.pending with
  | some (_, none) => true
  | _ => false

/-- Looks at the value of the last parameter. -/
def settle (reading : Reading) : Except Problem Reading :=
  match reading.pending with
  | none => .ok reading
  | some (_, none) => .error .noSuchValue
  | some (param, some text) =>
    (reading.given.add param text).map fun given => { reading with given, pending := none }

/-- Takes a parameter that stands alone. -/
def flag (reading : Reading) (param : Param) : Except Problem Reading := do
  let reading ← reading.settle
  return { reading with given := ← reading.given.add param "" }

/-- Takes a parameter by name, which some are. -/
def named (reading : Reading) (params : List Param) (name : String) (value : Option String) :
    Except Problem Reading :=
  match params.find? (·.name? == some name) with
  | none => .error .unknownArgument
  | some param =>
    match param.isFlag, value with
    | true, some _ => .error .valueUnwanted
    | true, none => reading.flag param
    | false, some text => do
      let reading ← reading.settle
      return { reading with given := ← reading.given.add param text }
    | false, none => do
      let reading ← reading.settle
      return { reading with pending := some (param, none) }

/-- Takes parameters by letter. -/
def letters (reading : Reading) (params : List Param) : List Char → Except Problem Reading
  | [] => .ok reading
  | c :: rest =>
    match params.find? (·.letter? == some c) with
    | none => .error .unknownArgument
    | some param => do letters (← reading.flag param) params rest

/-- Takes a word that fills a place; `overfull` is the problem where there is none left. -/
def place (reading : Reading) (overfull : Problem) (text : String) : Except Problem Reading :=
  match reading.places with
  | [] => .error overfull
  | param :: places => do
    let reading ← reading.settle
    return { reading with pending := some (param, some text), places }

/-- Takes a word as the value of the last parameter. -/
def value (reading : Reading) (text : String) : Reading :=
  { reading with pending := reading.pending.map fun (param, _) => (param, some text) }

/-- Takes the next word. -/
def word (params : List Param) (overfull : Problem) (reading : Reading) (text : String) :
    Except Problem Reading :=
  if reading.verbatim then reading.place overfull text
  else
    match Word.ofText text with
    | .marker => .ok { reading with verbatim := true }
    | .named name value => reading.named params name value
    | .letters cs => reading.letters params cs
    | .plain text =>
      if reading.isWaiting then .ok (reading.value text) else reading.place overfull text

end Reading

/-- What is given after a command. -/
def readCommand (verb : Verb) (words : List String) : Except Problem Given := do
  let start : Reading := { places := placesOf (some verb) }
  let reading ← words.foldlM (Reading.word (paramsOf (some verb)) .unknownArgument) start
  let reading ← reading.settle
  if (placesOf (some verb)).contains .endpoint && reading.given.endpoint.isNone ||
      (placesOf (some verb)).contains .output && reading.given.output.isNone then
    .error .missingArgument
  else
    return reading.given

/-- Asks for help on the command that the words name. -/
def help : List String → Problem
  | [] => .helpWanted
  | [name] => if name == "help" || (Verb.ofName? name).isSome then .helpWanted else .unknownCommand
  | _ => .unknownCommand

/-- The name is that of a command, or `help`. -/
def isCommandName (name : String) : Bool := name == "help" || (Verb.ofName? name).isSome

/-- What is given before the command, the command, and what is given after it. -/
def readAll (reading : Reading) : List String → Except Problem (Given × Verb × Given)
  | [] => do
    let reading ← reading.settle
    .error (if reading.given.isAny then .missingCommand else .nothingGiven)
  | text :: rest =>
    match if reading.verbatim || reading.isWaiting then none else Verb.ofName? text with
    | some verb => do
      -- What follows the command is read before the last value ahead of it is looked at.
      let after ← readCommand verb rest
      let reading ← reading.settle
      return (reading.given, verb, after)
    | none =>
      if !reading.verbatim && !reading.isWaiting && text == "help" then .error (help rest)
      else do
        let overfull : Problem :=
          if reading.verbatim && isCommandName text then .unknownArgument else .unknownCommand
        readAll (← reading.word (paramsOf none) overfull text) rest

/-! ## Meaning -/

/-- What a command reads from. -/
def targetOf (endpoint : Endpoint) (given : Given) : Command.Target where
  endpoint := endpoint
  noProbeByte := given.noProbeByte.isSome
  probeTimeout := given.probeTimeout.getD "2s"
  connectTimeout := given.connectTimeout.getD "5s"
  maxPayload := given.maxPayload

/-- The command that is meant. -/
def commandOf (remuxer : String) (given : Given) : Verb → Except Problem Command
  | .version => .ok (.version given.extended.isSome)
  | verb =>
    match given.endpoint with
    | none => .error .missingArgument
    | some endpoint =>
      let target := targetOf endpoint given
      match verb, given.output with
      | .probe, _ => .ok (.probe target)
      | .dump, _ => .ok (.dump target given.count)
      | .record, some output => .ok (.record target output)
      | .transcode, some output => .ok (.transcode target output (given.program.getD remuxer))
      | _, _ => .error .missingArgument

/-- What the program is called to do. What is given after the command counts more than what is
given before it. `remuxer` is the program that transcodes where none is named. -/
def parse (remuxer : String) (words : List String) : Except Problem Invocation := do
  let (before, verb, after) ← readAll { places := [] } words
  return {
    command := ← commandOf remuxer after verb
    format := after.format <|> before.format
    noticeForm := (after.noticeForm <|> before.noticeForm).getD .text
    noticeLevel := (after.noticeLevel <|> before.noticeLevel).getD .info }

end Screencast.CommandLine
