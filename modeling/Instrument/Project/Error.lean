import Instrument.Config
import Instrument.InstrumentedSource
import Instrument.Log
import Instrument.Walk

/-!
# What can go wrong with a project

Every failure names its cause; the wording is made in one place.  Work on a project changes a tree
of files and logs events on the way, also if it fails in the end.
-/

namespace Instrument

open Files (FileTree Obstacle)

/-- Why work on a file or a project was given up. -/
inductive ProjectError where
  | unparsed (path : String) (failure : Failure)
  | unreadable (path : String) (obstacle : Obstacle)
  | invalidConfig (path : String) (refusal : Config.Refusal)
  | notFound (path : String)
  | outputNotEmpty (path : String)
  | obstructed (obstacle : Obstacle)
  | walkFailed (failure : Walk.Failure)
  | unprintable
deriving DecidableEq, Repr

def ProjectError.message : ProjectError → String
  | unparsed path failure => "failed to parse " ++ path ++ ": " ++ failure.message
  | unreadable path obstacle => "failed to read " ++ path ++ ": " ++ obstacle.message
  | invalidConfig path refusal => "invalid configuration in " ++ path ++ ": " ++ refusal.message
  | notFound path => "no such file or directory: " ++ path
  | outputNotEmpty path =>
    "output directory " ++ path ++ " is not empty -- pick a fresh --out path"
  | obstructed obstacle => obstacle.message
  | walkFailed failure => failure.message
  | unprintable => "the instrumented file cannot be printed"

/-- The error that instrumenting the file at a path ends with. -/
def ProjectError.ofInstrumentation (path : String) : InstrumentationFailure → ProjectError
  | .unparsed failure => .unparsed path failure
  | .unprintable => .unprintable

/-- What work that changes no files leads to: the events it logs, and its result. -/
structure Logged (α : Type) where
  log : List LogEvent
  result : Except ProjectError α

/-- What work that changes files leads to: the files afterwards, the events it logs, and its
result. -/
structure Changed (α : Type) where
  tree : FileTree
  log : List LogEvent
  result : Except ProjectError α

end Instrument
