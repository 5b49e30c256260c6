/-
Programs that are called as child processes.

A program is called by a list of words, of which the first is its name or the
path to it. A name is looked for in the folders of the utilities alone; a path
is followed from where the program is called. None of the words can hold a
zero byte. A shell carries out a line, or does what a file tells it to.
-/
import Screencast.Sink.Child.Shell

namespace Screencast.Sink.Child.Conduct

/-- The folders in which the utilities stand. -/
def folders : List (List String) := [["usr", "bin"], ["bin"]]

/-- The shells. -/
def shells : List String := ["sh", "dash", "bash"]

/-- A directory in which the utilities stand as well. -/
def withUtilities (directory : Directory) : Directory :=
  let standing (folder : List String) :=
    (folder, Directory.Entry.folder) ::
      (shells ++ utilities).map fun name => (folder ++ [name], Directory.Entry.file)
  { directory with entries := directory.entries ++ folders.flatMap standing }

/-- A word holds a zero byte. -/
def zeroByte : Fault := ⟨.invalidInput, "nul byte found in provided data"⟩

/-- Where the program stands that a name or a path means. -/
def locate (directory : Directory) (path : String) : Except Fault (List String) :=
  if path.contains '/' then directory.run path
  else if Directory.longestName < path.utf8ByteSize then .error Directory.tooLong
  else if path == "." || path == ".." then .error Directory.noProgram
  else if (shells ++ utilities).contains path then .ok ["bin", path]
  else .error Directory.missing

/-- The conduct of a shell that is called with arguments. -/
def ofShell (directory : Directory) (call : List String → Except Fault Conduct) :
    List String → Conduct
  | [] => {}
  | ["-c"] => exits Shell.misuse
  | "-c" :: line :: _ => Shell.conduct directory call line
  | word :: rest =>
    if word.startsWith "-" then ofShell directory call rest
    else
      -- The file is looked for where the shell is called, even without a slash.
      let path := if word.contains '/' then word else "./" ++ word
      match call (path :: rest) with
      | .ok conduct => conduct
      | .error _ => exits Shell.misuse

/-- The conduct of a program that is called, or what keeps it from being started; shells may call
other programs so many levels deep. -/
def ofCallWithin (directory : Directory) (programs : List (List String × (List String → Conduct))) :
    Nat → List String → Except Fault Conduct
  | 0, _ => .error Directory.missing
  | depth + 1, call => do
    if call.any (·.contains '\x00') then throw zeroByte
    let place ← locate directory (call.headD "")
    let name := place.getLastD ""
    let arguments := call.drop 1
    if !folders.contains place.dropLast then
      return ((programs.lookup place).map (· arguments)).getD {}
    else if shells.contains name then
      return ofShell directory (ofCallWithin directory programs depth) arguments
    else return (ofUtility? directory name arguments).getD {}

/-- The conduct of a program that is called, or what keeps it from being started. `programs` holds
the conduct of those that stand elsewhere than the utilities, given their arguments. -/
def ofCall (directory : Directory) (programs : List (List String × (List String → Conduct)))
    (call : List String) : Except Fault Conduct :=
  -- What a shell calls is shorter than what the shell is called with.
  ofCallWithin (withUtilities directory) programs
    (call.foldl (fun n word => n + word.length) 1) call

end Screencast.Sink.Child.Conduct
