import Instrument.Files.Resolve
import Instrument.Ignore.Rules

/-!
# Rules of directories

Rules apply to everything below the directory they lie in, and those of an inner directory come
before those of an outer one.  Rules of version control only apply inside a repository, and none
from outside it; rules in a file named `.ignore` always apply, and come first.
-/

namespace Instrument
namespace Ignore

open Files (FileTree Location)

/-- The rules that lie in one directory. -/
structure Layer where
  location : Location
  general : RuleFile
  versioned : RuleFile
  /-- The rules of the repository that are not part of the version history. -/
  repository : RuleFile
  isRepository : Bool
  reports : List String

namespace Layer

/-- Read the rules in the file that a path leads to. -/
def ruleFile (tree : FileTree) (here : Location) (path : String) : RuleFile :=
  match tree.readBytesFrom here path with
  | .ok content => .ofBytes content
  | .error _ => .empty

/-- The first line of the file that a path leads to. -/
def firstLine? (tree : FileTree) (here : Location) (path : String) : Option String :=
  match tree.readBytesFrom here path with
  | .ok content => ((RuleFile.splitLines content.data.toList).head?).bind fun line =>
      (String.fromUTF8? ⟨line.toArray⟩).map fun text =>
        if text.toList.getLast? == some '\r' then String.ofList text.toList.dropLast else text
  | .error _ => none

/-- The directory with the data of a repository, as a path: the entry `.git` itself, or if that is
a file, the directory shared by all working copies that the file leads to. -/
def repositoryData? (tree : FileTree) (here : Location) (shown : String) :
    Option (Location × String × String) :=
  match tree.entryFrom here ".git" with
  | .ok (.file _) =>
    match firstLine? tree here ".git" with
    | none => none
    | some line =>
      if "gitdir: ".toList.isPrefixOf line.toList then
        let data := String.ofList (line.toList.drop "gitdir: ".length)
        match firstLine? tree tree.current (Files.join data "commondir") with
        | some shared =>
          let path := if shared.toList.head? == some '.' then Files.join data shared else shared
          some (tree.current, path, path)
        | none => none
      else none
  | _ => some (here, ".git", Files.join shown ".git")

/-- The rules in a directory, given where it is and by which names it was reached. -/
def ofDirectory (tree : FileTree) (here location : Location) : Layer :=
  let shown := Files.absoluteText location
  let general := ruleFile tree here ".ignore"
  let versioned := ruleFile tree here ".gitignore"
  let (repository, repositoryReports) :=
    match repositoryData? tree here shown with
    | some (start, path, shownPath) =>
      let file := ruleFile tree start (Files.join path "info/exclude")
      (file, file.reports (Files.join shownPath "info/exclude"))
    | none => (.empty, [])
  { location, general, versioned, repository
    isRepository := (tree.entryFrom here ".git").toOption.isSome ||
      (tree.entryFrom here ".jj").toOption.isSome
    reports := general.reports (Files.join shown ".ignore") ++
      versioned.reports (Files.join shown ".gitignore") ++ repositoryReports }

/-- What one sort of rules of a directory says about a path, which is given by its names from the
root on. -/
def decide (layer : Layer) (file : Layer → RuleFile) (path : Location) (isDirectory : Bool) :
    Option Verdict :=
  match (file layer).rules with
  | [] => none
  | rules => decideBy rules (Files.relativeText (path.drop layer.location.length)) isDirectory

end Layer

/-- The layers of a repository: those up to its top, from the inside out.  There are none outside
a repository. -/
def withinRepository (layers : List Layer) : List Layer :=
  if layers.any Layer.isRepository then
    layers.takeWhile (fun layer => !layer.isRepository) ++
      (layers.find? Layer.isRepository).toList
  else []

/-- What the rules say about a path below a directory, given the layers of that directory from the
inside out. -/
def verdict (layers : List Layer) (path : Location) (isDirectory : Bool) : Option Verdict :=
  let inside := withinRepository layers
  (layers.findSome? fun layer => layer.decide Layer.general path isDirectory).or
    ((inside.findSome? fun layer => layer.decide Layer.versioned path isDirectory).or
      (inside.findSome? fun layer => layer.decide Layer.repository path isDirectory))

/-- The layers of the directories above a location, from the inside out. -/
def layersAbove (tree : FileTree) (location : Location) : List Layer :=
  ((List.range location.length).reverse.map location.take).map fun above =>
    Layer.ofDirectory tree above above

end Ignore
end Instrument
