/-
Texts that a shell carries out as a child process.

A text consists of lines, and each of them is a list of commands. Between two
commands stands whether the second is carried out in any case, only if the
first went well, or only if it did not. A line that makes no sense ends it all.
The output of a command can be sent into a file, and its input be taken from
one; a command whose file cannot be opened is not carried out. The shell ends
where the text tells it to, or after the last command, as that one did.
-/
import Screencast.Sink.Child.Utility

namespace Screencast.Sink.Child.Shell

/-! ## Words -/

/-- What a redirection is for. -/
inductive Mode
  | input
  | output
  | append
  /-- One stream is made the same as another. -/
  | join
  deriving DecidableEq, Repr

/-- A word of a line, or a sign between words. -/
inductive Token
  | word (text : String)
  /-- The next command follows in any case. -/
  | next
  /-- The line ends, and another begins. -/
  | newLine
  /-- The next command follows if this one goes well. -/
  | ifWell
  /-- The next command follows if this one does not go well. -/
  | ifNot
  /-- A stream of the command is redirected, to what the next word names. -/
  | redirect (stream : Nat) (mode : Mode)
  /-- The line ends within a quotation. -/
  | unquoted
  deriving DecidableEq, Repr

/-- The end of a word, if there is one; it is given from its end. -/
def endWord : Option (List Char) → List Token
  | some word => [.word (String.ofList word.reverse)]
  | none => []

/-- A redirection. Digits right before it say which stream it is for. -/
def redirect (mode : Mode) (word : Option (List Char)) : List Token :=
  let usual := if mode = .input then 0 else 1
  match (word.map fun w => String.ofList w.reverse).bind (·.toNat?) with
  | some stream => [.redirect stream mode]
  | none => endWord word ++ [.redirect usual mode]

/-- The single quotation mark. -/
def single : Char := '\x27'

/-- The double quotation mark. -/
def double : Char := '\x22'

/-- The characters that a backslash takes their meaning from within double quotation marks. -/
def escapable : List Char := ['$', '\x60', double, '\\']

/-- The words and signs of a line, given the quotation or comment that it begins in and the word
that has been begun. -/
def tokens (quote : Option Char) (word : Option (List Char)) : List Char → List Token
  | [] => if quote = some single ∨ quote = some double then [.unquoted] else endWord word
  | '\\' :: c :: rest =>
    if quote = some single ∨ quote = some '#' then tokens quote (word.map ('\\' :: ·)) (c :: rest)
    else if c = '\n' then tokens quote word rest
    else if quote = some double ∧ !escapable.contains c then
      tokens quote (word.map (c :: '\\' :: ·)) rest
    else tokens quote (some (c :: word.getD [])) rest
  | '&' :: '&' :: rest =>
    if quote.isSome then tokens quote (word.map ('&' :: '&' :: ·)) rest
    else endWord word ++ .ifWell :: tokens none none rest
  | '|' :: '|' :: rest =>
    if quote.isSome then tokens quote (word.map ('|' :: '|' :: ·)) rest
    else endWord word ++ .ifNot :: tokens none none rest
  | '>' :: '>' :: rest =>
    if quote.isSome then tokens quote (word.map ('>' :: '>' :: ·)) rest
    else redirect .append word ++ tokens none none rest
  | '>' :: '&' :: rest =>
    if quote.isSome then tokens quote (word.map ('&' :: '>' :: ·)) rest
    else redirect .join word ++ tokens none none rest
  | c :: rest =>
    match quote with
    | some mark =>
      if mark = '#' then
        if c = '\n' then .newLine :: tokens none none rest else tokens quote none rest
      else if c = mark then tokens none word rest
      else tokens quote (word.map (c :: ·)) rest
    | none =>
      if c = ' ' ∨ c = '\t' then endWord word ++ tokens none none rest
      else if c = ';' then endWord word ++ .next :: tokens none none rest
      else if c = '\n' then endWord word ++ .newLine :: tokens none none rest
      else if c = '>' then redirect .output word ++ tokens none none rest
      else if c = '<' then redirect .input word ++ tokens none none rest
      else if c = single ∨ c = double then tokens (some c) (some (word.getD [])) rest
      else if c = '#' ∧ word.isNone then tokens (some '#') none rest
      else tokens none (some (c :: word.getD [])) rest

/-! ## Commands -/

/-- When a command is carried out. -/
inductive Condition
  | always
  | ifWell
  | ifNot
  deriving DecidableEq, Repr

/-- A command of a line. -/
structure Command where
  condition : Condition := .always
  words : List String := []
  /-- Which stream is redirected, in which way, to what. -/
  redirections : List (Nat × Mode × String) := []
  deriving DecidableEq, Repr

/-- Nothing has come of a command yet. -/
def Command.isEmpty (command : Command) : Bool :=
  command.words.isEmpty && command.redirections.isEmpty

/-- The commands of a text, given those of its first line so far and the one that has been begun,
and whether the text makes sense to its end. Of a line that does not make sense, and of what comes
after it, there are none. -/
def commands (line : List Command) (command : Command) : List Token → List Command × Bool
  | [] =>
    if !command.isEmpty then (line ++ [command], true)
    else if command.condition = .always then (line, true)
    else ([], false)
  | .word text :: rest => commands line { command with words := command.words ++ [text] } rest
  | .redirect stream mode :: .word target :: rest =>
    let redirections := command.redirections ++ [(stream, mode, target)]
    commands line { command with redirections } rest
  | .newLine :: rest =>
    -- A line that ends with a sign goes on.
    if command.isEmpty && command.condition != .always then commands line command rest
    else
      let (more, sensible) := commands [] {} rest
      (line ++ (if command.isEmpty then [] else [command]) ++ more, sensible)
  | .next :: rest =>
    if command.isEmpty then ([], false) else commands (line ++ [command]) {} rest
  | .ifWell :: rest =>
    if command.isEmpty then ([], false)
    else commands (line ++ [command]) { condition := .ifWell } rest
  | .ifNot :: rest =>
    if command.isEmpty then ([], false)
    else commands (line ++ [command]) { condition := .ifNot } rest
  | .redirect _ _ :: _ | .unquoted :: _ => ([], false)

/-! ## Carrying out -/

/-- How far a shell has come. -/
structure Progress where
  /-- The code of the last command. -/
  code : Nat := 0
  /-- How much of the input has been read, `none` being all of it. -/
  eaten : Option Nat := some 0
  files : List (List String × Writing) := []
  /-- How the shell has ended, if it has. -/
  ended : Option WaitStatus := none
  deriving DecidableEq, Repr

/-- The code of a command that a shell cannot make sense of, or whose file it cannot open. -/
def misuse : Nat := 2

/-- The code that a shell gives to a status. -/
def codeOf (status : WaitStatus) : Nat :=
  match status.code?, status.signal? with
  | some code, _ => code
  | none, some signal => 128 + signal
  | none, none => 0

namespace Progress

/-- The shell ends with a code. -/
def exit (progress : Progress) (code : Nat) : Progress :=
  { progress with code, ended := some (.exited code) }

/-- What remains of a writing if some of the input is gone. -/
def shifted (progress : Progress) (writing : Writing) : Writing :=
  match progress.eaten with
  | some eaten => { writing with skipped := writing.skipped + eaten }
  | none => { writing with length := some 0 }

/-- A process is carried out. Its output goes into a file or is lost, and its input may be another
one than that of the shell. -/
def perform (progress : Progress) (output : Option (List String)) (fed : Bool)
    (conduct : Conduct) : Progress where
  code := codeOf conduct.status
  eaten := if !fed then progress.eaten
    else progress.eaten.bind fun eaten => conduct.appetite.map (eaten + ·)
  files := progress.files ++
    (conduct.files ++ (output.map (·, conduct.printed)).toList).map fun (place, writing) =>
      (place, progress.shifted writing)
  ended := progress.ended

/-- The files of a command are opened: what becomes of its output, and whether its input is that of
the shell. A file that is written to is emptied first, unless something is to be appended. -/
def openFiles (directory : Directory) (progress : Progress) :
    List (Nat × Mode × String) → Option (List String) → Bool →
    Except Fault (Progress × Option (List String) × Bool)
  | [], output, fed => .ok (progress, output, fed)
  | (_, .join, _) :: rest, output, fed => openFiles directory progress rest output fed
  | (stream, .input, path) :: rest, output, fed => do
    let _ ← directory.find path
    openFiles directory progress rest output (fed && stream != 0)
  | (stream, mode, path) :: rest, output, fed => do
    let place ← directory.create path
    let opened := (place, { anew := mode != .append })
    openFiles directory { progress with files := progress.files ++ [opened] } rest
      (if stream = 1 then some place else output) fed

end Progress

/-- The largest number that a shell can count to. -/
def largest : Nat := 0x7FFFFFFF

/-- The number that a shell ends with if it is told to, or the code of the last command. -/
def exitCode (last : Nat) : List String → Nat
  | [] => last
  | word :: _ =>
    match (word.dropPrefix "+").toString.toNat? with
    | some n => if n ≤ largest then n % 256 else misuse
    | none => misuse

/-- The signal of a number or a name. -/
def signal? (word : String) : Option Nat :=
  match word.toNat? with
  | some n => if n ≤ 64 then some n else none
  | none =>
    let names := WaitStatus.signalNames
    match word.toUpper with
    | "EXIT" => some 0
    | "RTMIN" => some 34
    | "RTMAX" => some 64
    | name => (names.idxOf? name).map (· + 1)

/-- The signal that asks a process to end. -/
def usualSignal : Nat := 15

/-- The signals that a process takes no notice of. -/
def harmless : List Nat := [0, 17, 18, 23, 28]

/-- The signal to send, and to which processes; `none` if that makes no sense. -/
def toSend? : List String → Option (Nat × List String)
  | "-s" :: name :: targets => (signal? name).map (·, targets)
  | word :: targets =>
    if word.startsWith "-" then (signal? (word.drop 1).toString).map (·, targets)
    else some (usualSignal, word :: targets)
  | [] => none

/-- The shell sends a signal. It knows no process but itself. -/
def Progress.kill (progress : Progress) (arguments : List String) : Progress :=
  match toSend? arguments with
  | none | some (_, []) => { progress with code := misuse }
  | some (signal, targets) =>
    if !targets.contains "$$" then
      { progress with code := if targets.all (·.toNat?.isSome) then 1 else misuse }
    else if harmless.contains signal then { progress with code := 0 }
    else { progress with ended := some (.killed signal) }

/-- The code of a command that could not be started. -/
def notStarted (fault : Fault) : Nat := if fault.kind = .permissionDenied then 126 else 127

/-- The commands that end the shell if they go wrong. -/
def special : List String := [".", ":", "exec", "exit", "return"]

/-- Carries out the words of a command whose files are open. -/
def Progress.obey (call : List String → Except Fault Conduct) (output : Option (List String))
    (fed : Bool) (progress : Progress) : List String → Progress
  | [] => { progress with code := 0 }
  | "exit" :: arguments | "return" :: arguments =>
    progress.exit (exitCode progress.code arguments)
  | "kill" :: arguments => progress.kill arguments
  | ["."] | ":" :: _ => { progress with code := 0 }
  -- No file that a shell could carry out is there.
  | "." :: _ => progress.exit misuse
  | "exec" :: [] => { progress with code := 0 }
  | "exec" :: words =>
    match call words with
    | .ok conduct => { progress.perform output fed conduct with ended := some conduct.status }
    | .error fault => progress.exit (notStarted fault)
  | words =>
    match call words with
    | .ok conduct => progress.perform output fed conduct
    | .error fault => { progress with code := notStarted fault }

/-- Carries out a command, unless its condition is not met or the shell has ended. -/
def Progress.carryOut (directory : Directory) (call : List String → Except Fault Conduct)
    (progress : Progress) (command : Command) : Progress :=
  let due := match command.condition with
    | .always => true
    | .ifWell => progress.code = 0
    | .ifNot => progress.code ≠ 0
  if progress.ended.isSome || !due then progress
  else
    let words := command.words.map fun w => if w == "$?" then toString progress.code else w
    let (words, negated) := match words with
      | "!" :: words => (words, true)
      | words => (words, false)
    let after := match progress.openFiles directory command.redirections none true with
      | .error _ =>
        if special.contains (words.headD "") then progress.exit misuse
        else { progress with code := misuse }
      | .ok (progress, output, fed) => progress.obey call output fed words
    if negated then { after with code := if after.code = 0 then 1 else 0 } else after

/-- The conduct of a shell that carries out a text. -/
def conduct (directory : Directory) (call : List String → Except Fault Conduct) (text : String) :
    Conduct :=
  let (list, sensible) := commands [] {} (tokens none none text.toList)
  let last := list.foldl (Progress.carryOut directory call) {}
  { appetite := last.eaten
    status := last.ended.getD (.exited (if sensible then last.code else misuse))
    files := last.files }

end Screencast.Sink.Child.Shell
