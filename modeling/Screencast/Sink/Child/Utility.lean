/-
Utilities whose conduct as a child process is known.

Some copy their input, some do not look at it, and nearly all of them refuse
an option that they do not take: they then end at once, with a code that says
so. The option that a remuxer is called with first, `-f`, is such an option
for most of them, and names a file that is missing for the others.
-/
import Screencast.Directory
import Screencast.Sink.Child

namespace Screencast.Sink.Child.Conduct

/-- The conduct of a child that reads nothing and ends with a code. -/
def exits (code : Nat) : Conduct := { appetite := some 0, status := .exited code }

/-- The conduct of a child that copies so much of its input, `none` being all of it. -/
def copies (length : Option Nat) : Conduct := { appetite := length, printed := { length } }

/-- The utilities that copy or digest the whole input if they are called without arguments. -/
def filters : List String :=
  ["base64", "cat", "cksum", "dd", "fold", "md5sum", "nl", "od", "rev", "sha256sum", "sort",
    "tac", "tee", "uniq", "wc"]

/-- The utilities that end well whatever they are called with. -/
def compliant : List String := ["echo", "printf", "true"]

/-- The utilities that end with 1 if they cannot make sense of an option. -/
def refusingWith1 : List String :=
  filters.filter (· != "sort") ++
    ["arch", "basename", "chmod", "chown", "comm", "cp", "cut", "date", "df", "dirname", "du",
      "expand", "factor", "false", "find", "gunzip", "gzip", "head", "id", "install", "join",
      "kill", "link", "ln", "mkdir", "mkfifo", "mknod", "mktemp", "mv", "nproc", "paste", "pr",
      "ps", "pwd", "readlink", "realpath", "rm", "rmdir", "seq", "shuf", "sleep", "split", "stat",
      "stty", "sync", "tail", "touch", "tr", "truncate", "uname", "unlink", "users", "who",
      "whoami", "xargs", "yes", "zcat"]

/-- The utilities that end with 2 if they cannot make sense of an option or miss a file. -/
def refusingWith2 : List String :=
  ["[", "awk", "cmp", "diff", "egrep", "expr", "fgrep", "grep", "ls", "mawk", "perl", "sort",
    "test", "tty", "which"]

/-- The utilities that run another one, and end with 125 if they cannot. -/
def refusingWith125 : List String := ["env", "nice", "nohup", "stdbuf", "timeout"]

/-- The code with which a utility ends that cannot make sense of an option. -/
def refusal? (name : String) : Option Nat :=
  if compliant.contains name then some 0
  else if refusingWith1.contains name then some 1
  else if refusingWith2.contains name then some 2
  else if refusingWith125.contains name then some 125
  else if name == "sed" then some 4
  else none

/-- The names of the utilities. -/
def utilities : List String :=
  compliant ++ refusingWith1 ++ refusingWith2 ++ refusingWith125 ++ ["sed"]

/-- Writes all of the input into files as well. -/
def teeInto (directory : Directory) (paths : List String) : Conduct :=
  let places := paths.map directory.create
  let copy : Writing := { length := none, anew := true }
  { copies none with
    status := .exited (if places.all (·.isOk) then 0 else 1)
    files := places.filterMap fun place => place.toOption.map (·, copy) }

/-- Writes so much of the input into a file instead of printing it. -/
def copyInto (directory : Directory) (length : Option Nat) (path : String) : Conduct :=
  match directory.create path with
  | .error _ => exits 1
  | .ok place => { appetite := length, files := [(place, { length, anew := true })] }

/-- Creates the files that are not there yet. -/
def touch (directory : Directory) (paths : List String) : Conduct :=
  let places := paths.map directory.create
  { exits (if places.all (·.isOk) then 0 else 1) with
    files := places.filterMap fun place => place.toOption.map (·, {}) }

/-- Ends with a code if one of some files is missing. -/
def looksFor (directory : Directory) (code : Nat) (paths : List String) : Conduct :=
  exits (if paths.all fun path => (directory.find path).isOk then 0 else code)

/-! ## What is printed -/

/-- The character that a letter stands for after a backslash. -/
def escape? : Char → Option Char
  | 'a' => some '\x07'
  | 'b' => some '\x08'
  | 'f' => some '\x0c'
  | 'n' => some '\n'
  | 'r' => some '\r'
  | 't' => some '\t'
  | 'v' => some '\x0b'
  | '\\' => some '\\'
  | _ => none

/-- A text in which backslashes stand before the letters that they give a meaning to. -/
def unescaped : List Char → List Char
  | '\\' :: c :: rest =>
    match escape? c with
    | some meant => meant :: unescaped rest
    | none => '\\' :: c :: unescaped rest
  | c :: rest => c :: unescaped rest
  | [] => []

/-- A format in which each `%s` stands for the next word, and the words that are left over. -/
def formatted : List Char → List String → List Char × List String
  | '%' :: 's' :: rest, words =>
    let (text, left) := formatted rest (words.drop 1)
    ((words.headD "").toList ++ text, left)
  | '%' :: '%' :: rest, words =>
    let (text, left) := formatted rest words
    ('%' :: text, left)
  | '\\' :: c :: rest, words =>
    let (text, left) := formatted rest words
    (unescaped ['\\', c] ++ text, left)
  | c :: rest, words =>
    let (text, left) := formatted rest words
    (c :: text, left)
  | [], words => ([], words)

/-- A format is used anew as long as words are left over, at most so many times. -/
def formattedAnew (format : List Char) : Nat → List String → List Char
  | 0, _ => []
  | times + 1, words =>
    let (text, left) := formatted format words
    if left.isEmpty || left.length = words.length then text
    else text ++ formattedAnew format times left

/-- The conduct of a child that prints a text. -/
def prints (text : List Char) : Conduct :=
  { exits 0 with printed := { text := (String.ofList text).toUTF8.toList } }

/-- Prints words with a blank between them and a line break at the end, or none. -/
def echo : List String → Conduct
  | "-n" :: words => prints (unescaped (String.intercalate " " words).toList)
  | words => prints (unescaped (String.intercalate " " words).toList ++ ['\n'])

/-! ## Copying -/

/-- The number that follows a name in one of some words. -/
def operand? (words : List String) (name : String) : Option String :=
  words.findSome? fun word => (word.dropPrefix? name).map (·.toString)

/-- Copies blocks of the input. The words say how many there are, how long they are, and which file
they are for. -/
def copyBlocks (directory : Directory) (words : List String) : Conduct :=
  let names := ["of=", "bs=", "count=", "status=", "conv="]
  let number (name : String) := (operand? words name).bind (·.toNat?)
  let length := (number "count=").map (· * (number "bs=").getD 512)
  if !words.all fun word => names.any (word.startsWith ·) then exits 1
  else match operand? words "of=" with
    | none => copies length
    | some path => copyInto directory length path

/-- The conduct of a utility that is called with arguments, if it is known. -/
def ofUtility? (directory : Directory) (name : String) (arguments : List String) :
    Option Conduct :=
  match name, arguments with
  | "echo", words => some (echo words)
  | "false", _ => some (exits 1)
  | name, "-f" :: _ => (refusal? name).map exits
  | "cat", [] | "cat", ["-"] => some (copies none)
  | "cat", paths => some (looksFor directory 1 paths)
  | "ls", paths => some (looksFor directory 2 (paths.filter (!·.startsWith "-")))
  | "sleep", [] => some (exits 1)
  | "touch", path :: paths => some (touch directory (path :: paths))
  | "printf", format :: words =>
    some (prints (formattedAnew format.toList (words.length + 1) words))
  | "head", ["-c", length] => some (((length.toNat?).map (copies ·)).getD (exits 1))
  | "head", [option] => ((option.dropPrefix? "-c").bind (·.toNat?)).map (copies ·)
  | "tee", paths => some (teeInto directory paths)
  | "dd", word :: words => some (copyBlocks directory (word :: words))
  | name, _ =>
    if filters.contains name then some {} else (refusal? name).map fun _ => exits 0

end Screencast.Sink.Child.Conduct
