import Instrument.Files.Tree

/-!
# Following paths

A path is followed name by name.  A link is replaced by the path it holds, which starts in the
directory the link lies in; only so many links are followed, so that links which lead to each other
come to an end.
-/

namespace Instrument
namespace Files

/-- Why a path does not lead to what is wanted. -/
inductive Obstacle where
  | notFound
  | alreadyExists
  | notDirectory
  | isDirectory
  | tooManyLinks
  | nameTooLong
  | notText
deriving DecidableEq, Repr

def Obstacle.message : Obstacle → String
  | notFound => "No such file or directory (os error 2)"
  | alreadyExists => "File exists (os error 17)"
  | notDirectory => "Not a directory (os error 20)"
  | isDirectory => "Is a directory (os error 21)"
  | tooManyLinks => "Too many levels of symbolic links (os error 40)"
  | nameTooLong => "File name too long (os error 36)"
  | notText => "stream did not contain valid UTF-8"

/-- Where a path starts that is followed from a directory. -/
def startOf (here : Location) (path : String) : Location :=
  if isAbsolute path then [] else here

namespace FileTree

/-- How many links a path may lead over. -/
def linkLimit : Nat := 40

/-- More names than a path can have: it has at most 4096 bytes, and a slash with every name. -/
def nameLimit : Nat := 2048

/-- Follow pieces of a path; what to do at a link is a parameter. -/
def step (tree : FileTree) (jump : Location → List String → Except Obstacle Location) :
    Location → List String → Except Obstacle Location
  | here, [] => .ok here
  | here, piece :: rest =>
    match tree.at? here with
    | some (.directory entries) =>
      if piece = "" || piece = "." then step tree jump here rest
      else if piece = ".." then step tree jump here.dropLast rest
      else match entries.lookup piece with
      | some (.link target) =>
        if target.isEmpty then .error .notFound
        else jump (startOf here target) (pieces target ++ rest)
      | some _ => step tree jump (here ++ [piece]) rest
      | none => .error .notFound
    | some _ => .error .notDirectory
    | none => .error .notFound

/-- Follow pieces of a path over at most so many links. -/
def follow (tree : FileTree) : Nat → Location → List String → Except Obstacle Location
  | 0 => tree.step fun _ _ => .error .tooManyLinks
  | links + 1 => tree.step (tree.follow links)

/-- Where a path leads from a directory. -/
def resolveFrom (tree : FileTree) (here : Location) (path : String) :
    Except Obstacle Location :=
  if path.isEmpty then .error .notFound
  else tree.follow linkLimit (startOf here path) (pieces path)

def resolve (tree : FileTree) (path : String) : Except Obstacle Location :=
  tree.resolveFrom tree.current path

/-- What a path leads to from a directory. -/
def entryFrom (tree : FileTree) (here : Location) (path : String) : Except Obstacle Entry :=
  match tree.resolveFrom here path with
  | .error obstacle => .error obstacle
  | .ok location =>
    match tree.at? location with
    | some found => .ok found
    | none => .error .notFound

def entry (tree : FileTree) (path : String) : Except Obstacle Entry :=
  tree.entryFrom tree.current path

def isPresent (tree : FileTree) (path : String) : Bool :=
  (tree.entry path).toOption.isSome

/-- Whether a path leads to a directory. -/
def isDirectory (tree : FileTree) (path : String) : Bool :=
  (tree.entry path).toOption.any Entry.isDirectory

/-- Whether a path leads to a file. -/
def isFile (tree : FileTree) (path : String) : Bool :=
  (tree.entry path).toOption.any Entry.isFile

/-- The content of an entry that is to be a file. -/
def content : Entry → Except Obstacle ByteArray
  | .file content => .ok content
  | _ => .error .isDirectory

def decode (content : ByteArray) : Except Obstacle String :=
  match String.fromUTF8? content with
  | some text => .ok text
  | none => .error .notText

/-- The bytes of the file that a path leads to from a directory. -/
def readBytesFrom (tree : FileTree) (here : Location) (path : String) :
    Except Obstacle ByteArray :=
  match tree.entryFrom here path with
  | .error obstacle => .error obstacle
  | .ok found => content found

/-- The bytes of the file that a path leads to. -/
def readBytes (tree : FileTree) (path : String) : Except Obstacle ByteArray :=
  tree.readBytesFrom tree.current path

/-- The text of the file that a path leads to. -/
def readText (tree : FileTree) (path : String) : Except Obstacle String :=
  match tree.readBytes path with
  | .error obstacle => .error obstacle
  | .ok bytes => decode bytes

/-- The names in the directory at a location. -/
def namesIn (tree : FileTree) (location : Location) : List String :=
  match tree.at? location with
  | some (.directory entries) => entries.map Prod.fst
  | _ => []

/-- The entries of the directory that a path leads to. -/
def list (tree : FileTree) (path : String) : Except Obstacle (List (String × Entry)) :=
  match tree.entry path with
  | .error obstacle => .error obstacle
  | .ok (.directory entries) => .ok entries
  | .ok _ => .error .notDirectory

end FileTree
end Files
end Instrument
