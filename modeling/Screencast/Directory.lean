/-
Directories, and where paths lead in them.

A place is the list of the names on the way to it from the root. A path is
followed name by name: every name but the last must be that of a folder, and
a slash after the last name asks for a folder too. Files are created, sockets
connected to and programs run by path; each fails in its own way where the
path leads elsewhere.
-/
import Screencast.Fault.Errno

namespace Screencast

/-- What stands at a place. -/
inductive Directory.Entry
  | folder
  | file
  | socket
  deriving DecidableEq, Repr

/-- What stands at which place, and the folder that paths start from. -/
structure Directory where
  /-- Where a path starts that does not begin with a slash. -/
  start : List String
  /-- What stands where, apart from the root. -/
  entries : List (List String × Directory.Entry)
  deriving Repr

namespace Directory

/-! ## Following a path -/

/-- The bytes that a name can have at most. -/
def longestName : Nat := 255

/-- The bytes that a path can have at most. -/
def longestPath : Nat := 4095

/-- Nothing stands where the path leads. -/
def missing : Fault := .ofErrno 2

/-- A socket cannot be opened as a file. -/
def noFile : Fault := .ofErrno 6

/-- What stands where the path leads is no program. -/
def noProgram : Fault := .ofErrno 13

/-- What stands where the path leads is no folder. -/
def noFolder : Fault := .ofErrno 20

/-- A folder stands where the path leads, or is asked for. -/
def isFolder : Fault := .ofErrno 21

/-- A socket has no name. -/
def noName : Fault := .ofErrno 22

/-- A name or the path is too long. -/
def tooLong : Fault := .ofErrno 36

/-- Nobody listens where the path leads. -/
def noListener : Fault := .ofErrno 111

/-- What stands at a place. -/
def entry? (directory : Directory) (place : List String) : Option Entry :=
  if place.isEmpty then some .folder else directory.entries.lookup place

/-- The folder that names lead to, one after the other. -/
def enter (directory : Directory) (place : List String) : List String → Except Fault (List String)
  | [] => .ok place
  | name :: rest =>
    if name == "" || name == "." then directory.enter place rest
    else if name == ".." then directory.enter place.dropLast rest
    else if longestName < name.utf8ByteSize then .error tooLong
    else
      match directory.entry? (place ++ [name]) with
      | some .folder => directory.enter (place ++ [name]) rest
      | some _ => .error noFolder
      | none => .error missing

/-- The place that a path leads to, and whether it asks for a folder. -/
def follow (directory : Directory) (path : String) : Except Fault (List String × Bool) :=
  if path.isEmpty then .error missing
  else if longestPath < path.utf8ByteSize then .error tooLong
  else
    let names := path.splitOn "/"
    let start := if path.startsWith "/" then [] else directory.start
    match names.reverse.dropWhile (· == "") with
    | [] => .ok (start, true)
    | last :: before => do
      let place ← directory.enter start before.reverse
      if last == "." then return (place, true)
      else if last == ".." then return (place.dropLast, true)
      else return (place ++ [last], names.getLast? == some "")

/-- The last name on the way to a place is longer than a name can be. -/
def isOverlong (place : List String) : Bool := longestName < (place.getLastD "").utf8ByteSize

/-- What stands where a path leads. -/
def find (directory : Directory) (path : String) : Except Fault (List String × Entry) := do
  let (place, asFolder) ← directory.follow path
  if isOverlong place then throw tooLong
  match directory.entry? place with
  | none => throw missing
  | some .folder => return (place, .folder)
  | some entry => if asFolder then throw noFolder else return (place, entry)

/-! ## Using a path -/

/-- The place of a file that is created, or emptied if it is there already. -/
def create (directory : Directory) (path : String) : Except Fault (List String) := do
  if path.contains '\x00' then
    throw ⟨.invalidInput, "file name contained an unexpected NUL byte"⟩
  let (place, asFolder) ← directory.follow path
  if asFolder then throw isFolder
  if isOverlong place then throw tooLong
  match directory.entry? place with
  | some .folder => throw isFolder
  | some .socket => throw noFile
  | some .file | none => return place

/-- The place of a socket that is connected to. -/
def connect (directory : Directory) (path : String) : Except Fault (List String) := do
  if path.contains '\x00' then
    throw ⟨.invalidInput, "paths must not contain interior null bytes"⟩
  if 108 ≤ path.utf8ByteSize then throw ⟨.invalidInput, "path must be shorter than SUN_LEN"⟩
  let (place, entry) ← directory.find path
  if entry == .socket then return place else throw noListener

/-- The place of a socket that is connected to as time passes. A path that begins with a zero byte
is the name of a socket outside the directory; none has an empty name, and nobody listens there. -/
def connectPaced (directory : Directory) (path : String) : Except Fault (List String) := do
  if path.startsWith "\x00" then
    if path.utf8ByteSize = 1 then throw noName
    if 108 < path.utf8ByteSize then
      throw ⟨.invalidInput, "abstract socket name must be shorter than SUN_LEN"⟩
    throw noListener
  directory.connect path

/-- The place of a program that is run. -/
def run (directory : Directory) (path : String) : Except Fault (List String) := do
  if path.contains '\x00' then throw ⟨.invalidInput, "nul byte found in provided data"⟩
  let (place, entry) ← directory.find path
  if entry == .file then return place else throw noProgram

end Directory

end Screencast
