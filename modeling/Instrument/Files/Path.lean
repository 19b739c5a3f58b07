/-!
# Paths as text

A path is written as names with slashes between them.  What a path leads to depends on a tree of
files; this module only takes texts apart and puts them together.
-/

namespace Instrument
namespace Files

/-- The pieces of a text between its slashes; there is always at least one. -/
def splitAtSlashes : List Char → List (List Char)
  | [] => [[]]
  | '/' :: rest => [] :: splitAtSlashes rest
  | first :: rest =>
    match splitAtSlashes rest with
    | piece :: more => (first :: piece) :: more
    | [] => [[first]]

/-- The pieces of a path.  Two slashes in a row, and a slash at either end, leave an empty piece. -/
def pieces (path : String) : List String :=
  (splitAtSlashes path.toList).map String.ofList

/-- Whether a path starts at the root. -/
def isAbsolute (path : String) : Bool :=
  path.toList.head? == some '/'

/-- The names of a path, without the pieces that stay where they are: empty ones, and single dots
after the first piece. -/
def names (path : String) : List String :=
  match pieces path with
  | first :: rest => (first :: rest.filter (· != ".")).filter (· != "")
  | [] => []

/-- A path followed by a further one. -/
def join (directory path : String) : String :=
  if isAbsolute path || directory.isEmpty then path
  else if directory.toList.getLast? == some '/' then directory ++ path
  else directory ++ "/" ++ path

/-- Names one below the other, as a path that starts wherever one is. -/
def relativeText (path : List String) : String :=
  "/".intercalate path

/-- Names one below the other, as a path that starts at the root. -/
def absoluteText (path : List String) : String :=
  "/" ++ relativeText path

/-- Names one below the other, as a path below a given one. -/
def below (directory : String) (path : List String) : String :=
  path.foldl join directory

/-- Whether a path does not stand behind another one, in the order of names. -/
def inOrder (first second : List String) : Bool :=
  !decide (second < first)

/-- Whether the name of a file says that it holds program text: it ends in `.rs`, and something
stands in front of that. -/
def isSourceName (name : String) : Bool :=
  ['.', 'r', 's'].isSuffixOf name.toList && 3 < name.length

/-- Whether the last name of a path says that the file holds program text. -/
def isSourcePath (path : List String) : Bool :=
  match path.getLast? with
  | some name => isSourceName name
  | none => false

end Files
end Instrument
