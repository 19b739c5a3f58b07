import Instrument.Files.Resolve

/-!
# Changing a tree of files

Each change says where it takes place and what stands in its way.  A change that does not succeed
leaves the tree as it was, with one exception: of a chain of directories those that could be made
are made.
-/

namespace Instrument
namespace Files

/-- The pieces of a path without the slashes at its end. -/
def withoutTrailing (path : List String) : List String :=
  (path.reverse.dropWhile (· = "")).reverse

/-- Whether a piece of a path names an entry, and does not say to stay or to go up. -/
def isEntryName (piece : String) : Bool :=
  piece != "" && piece != "." && piece != ".."

namespace FileTree

/-- The directory that holds what a path names, and the last piece of the path.  There is no last
piece in a path to the root. -/
def place (tree : FileTree) (here : Location) (path : List String) :
    Except Obstacle (Option (Location × String × List (String × Entry))) :=
  match (withoutTrailing path).getLast? with
  | none => .ok none
  | some last =>
    match tree.follow linkLimit here (withoutTrailing path).dropLast with
    | .error obstacle => .error obstacle
    | .ok above =>
      match tree.at? above with
      | some (.directory entries) => .ok (some (above, last, entries))
      | some _ => .error .notDirectory
      | none => .error .notFound

/-- The location that a path names as one to write a file to.  Links are followed, and what the
last one leads to need not exist. -/
def writable (tree : FileTree) : Nat → Location → List String → Except Obstacle Location
  | 0, _, _ => .error .tooManyLinks
  | links + 1, here, path =>
    match tree.place here path with
    | .error obstacle => .error obstacle
    | .ok none => .error .isDirectory
    | .ok (some (above, last, entries)) =>
      if !isEntryName last || withoutTrailing path != path then .error .isDirectory
      else match entries.lookup last with
      | some (.directory _) => .error .isDirectory
      | some (.link target) => writable tree links (startOf above target) (pieces target)
      | _ => .ok (above ++ [last])

/-- Write a file to where pieces of a path lead, over what was in it or as a new one. -/
def writeFrom (tree : FileTree) (here : Location) (path : List String) (content : ByteArray) :
    Except Obstacle FileTree :=
  match tree.writable (linkLimit + 1) here path with
  | .error obstacle => .error obstacle
  | .ok location => .ok (tree.put location (.file content))

/-- Write a file, over what was in it or as a new one. -/
def write (tree : FileTree) (path : String) (content : ByteArray) :
    Except Obstacle FileTree :=
  if path.isEmpty then .error .notFound
  else tree.writeFrom (startOf tree.current path) (pieces path) content

/-- Put a file in the place of the entry that a path names; a link is replaced, not followed. -/
def replace (tree : FileTree) (path : String) (content : ByteArray) :
    Except Obstacle FileTree :=
  match tree.place (startOf tree.current path) (pieces path) with
  | .error obstacle => .error obstacle
  | .ok none => .error .isDirectory
  | .ok (some (above, last, _)) => .ok (tree.put (above ++ [last]) (.file content))

/-- Make a directory in one that is there. -/
def makeDirectory (tree : FileTree) (here : Location) (path : List String) :
    Except Obstacle FileTree :=
  match tree.place here path with
  | .error obstacle => .error obstacle
  | .ok none => .error .alreadyExists
  | .ok (some (above, last, entries)) =>
    if !isEntryName last || (entries.lookup last).isSome then .error .alreadyExists
    else .ok (tree.put (above ++ [last]) (.directory []))

/-- What an obstacle to making a directory means: nothing, if the directory is there. -/
def unlessDirectory (tree : FileTree) (here : Location) (path : List String)
    (obstacle : Obstacle) : Except Obstacle Unit :=
  match tree.follow linkLimit here path with
  | .error _ => .error obstacle
  | .ok location =>
    match tree.at? location with
    | some (.directory _) => .ok ()
    | _ => .error obstacle

/-- Make a directory and those above it that are missing.  The names come last first. -/
def makeAll (here : Location) : List String → FileTree → Except Obstacle Unit × FileTree
  | [], tree => (.ok (), tree)
  | name :: above, tree =>
    let path := (name :: above).reverse
    match tree.makeDirectory here path with
    | .ok made => (.ok (), made)
    | .error .notFound =>
      match makeAll here above tree with
      | (.error obstacle, left) => (.error obstacle, left)
      | (.ok (), left) =>
        match left.makeDirectory here path with
        | .ok made => (.ok (), made)
        | .error obstacle => (left.unlessDirectory here path obstacle, left)
    | .error obstacle => (tree.unlessDirectory here path obstacle, tree)

/-- Make the directory that a path names and those above it that are missing. -/
def makeDirectories (tree : FileTree) (path : String) : Except Obstacle Unit × FileTree :=
  makeAll (startOf tree.current path) (names path).reverse tree

end FileTree
end Files
end Instrument
