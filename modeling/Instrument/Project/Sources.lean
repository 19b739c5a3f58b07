import Instrument.Project.Error
import Instrument.Text.Occurs

/-!
# Finding program text

The files with program text below a directory are those whose names say so and that the rules of
the directories do not exclude.  What a build makes at the root of a project is left out.
-/

namespace Instrument
namespace Project

open Files (FileTree)

/-- Whether an entry, given by its names below the root of a project, is what a build makes there. -/
def isBuildOutput (path : List String) : Bool :=
  path == ["target"]

/-- A file with program text: its names below the directory it was looked for in. -/
structure SourceEntry where
  path : List String
  content : ByteArray

/-- Whether a text mentions a kind of marker. -/
def mentions (kind : MarkerKind) (text : String) : Bool :=
  Text.occursIn kind.name.toList text.toList

/-- The file that a step of a walk leads to, if it holds program text.  The root of the walk has no
name below itself, so the path of the walk decides about it. -/
def sourceIn? (root : String) : Walk.Visit → Option SourceEntry
  | .file [] content =>
    if Files.isSourcePath (Files.pieces root) then some ⟨[], content⟩ else none
  | .file path content => if Files.isSourcePath path then some ⟨path, content⟩ else none
  | _ => none

/-- How to look for program text: links are not followed. -/
def sourceWalk : Walk :=
  ⟨false, fun path => !isBuildOutput path⟩

/-- The files with program text below a directory, in the order of their names. -/
def findSources (tree : FileTree) (directory : String) : Except ProjectError (List SourceEntry) :=
  match sourceWalk.visited tree directory with
  | .error failure => .error (.walkFailed failure)
  | .ok visits =>
    .ok ((visits.filterMap (sourceIn? directory)).mergeSort fun first second =>
      Files.inOrder first.path second.path)

end Project
end Instrument
