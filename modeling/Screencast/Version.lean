/-
The version of the program, and what it was built for.
-/
import Screencast.Endpoint

namespace Screencast

/-- What a build of the program was made for and from, as far as that is known. -/
structure Build where
  system : Option String := none
  machine : Option String := none
  target : Option String := none
  revision : Option String := none
  deriving DecidableEq, Repr

namespace Build

/-- The program under its own name. -/
def program : String := "mirrorwire"

/-- The version of the program. -/
def version : String := "0.1.0"

/-- A line for a value that is told only if it is known. -/
def known (label : String) (value : Option String) : List String :=
  value.toList.map fun value => s!"{label}: {value}"

/-- What is told of a build: the version alone, or all that is known. -/
def lines (build : Build) (extended : Bool) : List String :=
  let revision := build.revision.getD "unknown"
  if extended then
    [s!"name: {program}", s!"version: {version}"] ++
    known "target_os" build.system ++
    known "target_arch" build.machine ++
    known "build_target" build.target ++ [
      s!"git_hash: {revision}",
      s!"default_port: {Endpoint.usualPort}",
      "features: async=true, cli=true"]
  else [s!"{program} {version}"]

end Build

end Screencast
