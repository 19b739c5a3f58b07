import Instrument.Ignore.Layers

/-!
# Walking through directories

A walk visits a directory and everything below it, each directory before what it holds.  It leaves
out what the rules exclude and what its caller does not admit, together with everything below.  If
the walk follows links, a link that leads nowhere ends it, and so does one that leads to a directory
the walk is in.  What is done at a visit is done before the walk goes on, and may change the tree
under it.
-/

namespace Instrument

open Files (Entry FileTree Location Obstacle)

/-- How to walk. -/
structure Walk where
  followsLinks : Bool
  admits : List String → Bool

namespace Walk

/-- One step of a walk: the names below the root, and what they lead to. -/
inductive Visit where
  | directory (path : List String)
  | file (path : List String) (content : ByteArray)
  | link (path : List String)

/-- The visit of an entry. -/
def Visit.ofEntry (path : List String) : Entry → Visit
  | .file content => .file path content
  | .directory _ => .directory path
  | .link _ => .link path

/-- Why a walk ends early. -/
inductive Failure where
  | obstructed (path : String) (obstacle : Obstacle)
  | loop (path ancestor : String)
  | faultyRules (reports : List String)
deriving DecidableEq, Repr

def Failure.message : Failure → String
  | obstructed path obstacle =>
    path ++ ": IO error for operation on " ++ path ++ ": " ++ obstacle.message
  | loop path ancestor =>
    "File system loop found: " ++ path ++ " points to an ancestor " ++ ancestor
  | faultyRules reports => "\n".intercalate reports

/-- The root of a walk: the path it was asked for by, and where it is. -/
structure Root where
  path : String
  location : Location

/-- A directory in a walk. -/
structure Place where
  location : Location
  /-- The names it was reached by below the root. -/
  path : List String
  /-- The rules of the directory and of those above it, from the inside out. -/
  layers : List Ignore.Layer
  /-- The directories the walk is in, from the inside out. -/
  within : List (Location × List String)

/-- The place of a directory below another one. -/
def enter (tree : FileTree) (root : Root) (place : Place) (location : Location)
    (path : List String) : Place :=
  { location, path
    layers := .ofDirectory tree location (root.location ++ path) :: place.layers
    within := (location, path) :: place.within }

/-- Whether an entry of a directory is visited. -/
def visits (walk : Walk) (root : Root) (place : Place) (path : List String)
    (isDirectory : Bool) : Bool :=
  Ignore.verdict place.layers (root.location ++ path) isDirectory != some .excluded &&
    walk.admits path

/-- What a link leads to: a file or a directory with its place, or the end of the walk. -/
def target (tree : FileTree) (root : Root) (place : Place) (path : List String) (link : String) :
    Except Failure (Location × Entry) :=
  let shown := Files.below root.path path
  match tree.resolveFrom place.location link with
  | .error obstacle => .error (.obstructed shown obstacle)
  | .ok location =>
    match tree.at? location with
    | some (.directory entries) =>
      match place.within.find? fun ancestor => ancestor.1 = location with
      | some ancestor => .error (.loop shown (Files.below root.path ancestor.2))
      | none => .ok (location, .directory entries)
    | some found => .ok (location, found)
    | none => .error (.obstructed shown .notFound)

/-- Where a name in a directory leads, and what is there. -/
def destination (walk : Walk) (tree : FileTree) (root : Root) (place : Place) (name : String) :
    Except Failure (Location × Entry) :=
  let location := place.location ++ [name]
  let path := place.path ++ [name]
  match tree.at? location with
  | some (.link link) =>
    if walk.followsLinks then target tree root place path link else .ok (location, .link link)
  | some entry => .ok (location, entry)
  | none => .error (.obstructed (Files.below root.path path) .notFound)

/-- What a walk is made for: what happens at a visit, and if the walk ends early.  Every step is made
in the tree as it is by then, so a visit may change what the walk comes to later. -/
structure Errand (σ ε : Type) where
  tree : σ → FileTree
  visit : σ → Visit → Except ε σ
  giveUp : σ → Failure → ε

section Steps

variable {σ ε : Type} (walk : Walk) (errand : Errand σ ε) (root : Root)

/-- Visit what a name in a directory leads to; what to do in a directory is a parameter.  The rules
of a directory are read before it is visited. -/
def visitName (inside : Place → σ → Except ε σ) (place : Place) (state : σ) (name : String) :
    Except ε σ :=
  let tree := errand.tree state
  let path := place.path ++ [name]
  match walk.destination tree root place name with
  | .error failure => .error (errand.giveUp state failure)
  | .ok (location, entry) =>
    if walk.visits root place path entry.isDirectory then
      match errand.visit state (.ofEntry path entry) with
      | .error error => .error error
      | .ok next =>
        if entry.isDirectory then inside (enter tree root place location path) next else .ok next
    else .ok state

/-- Visit what is in a directory and below it.  The names in it are read once, after the directory
itself has been visited.  There is a limit to how far down the walk goes. -/
def visitBelow : Nat → Place → σ → Except ε σ
  | 0 => fun place state =>
    .error (errand.giveUp state (.obstructed (Files.below root.path place.path) .nameTooLong))
  | depth + 1 => fun place state =>
    ((errand.tree state).namesIn place.location).foldlM
      (visitName walk errand root (visitBelow depth) place) state

end Steps

/-- How far down a walk goes.  Where nothing is made on the way and no links are followed, there are
enough directories in the tree to get to every one.  A link may lead the walk into what is being
made, so that there is always one more directory to visit; then the paths get too long at last. -/
def depthLimit (tree : FileTree) : Nat :=
  tree.root.directoryCount + FileTree.nameLimit

/-- Walk through what a path leads to.  A single dash stands for the standard input, which holds no
files. -/
def run {σ ε : Type} (walk : Walk) (errand : Errand σ ε) (state : σ) (path : String) :
    Except ε σ :=
  let tree := errand.tree state
  if path = "-" then .ok state
  else match tree.resolve path with
  | .error obstacle => .error (errand.giveUp state (.obstructed path obstacle))
  | .ok location =>
    match tree.at? location with
    | some (.file content) => errand.visit state (.file [] content)
    | some (.directory _) =>
      let root : Root := ⟨path, location⟩
      let above := Ignore.layersAbove tree location
      match above.reverse.flatMap Ignore.Layer.reports with
      | [] =>
        match errand.visit state (.directory []) with
        | .error error => .error error
        | .ok next =>
          visitBelow walk errand root (depthLimit tree)
            (enter tree root ⟨location, [], above, []⟩ location []) next
      | reports => .error (errand.giveUp state (.faultyRules reports))
    | _ => .error (errand.giveUp state (.obstructed path .notFound))

/-- To gather what is visited changes nothing. -/
def gathering (tree : FileTree) : Errand (List Visit) Failure where
  tree := fun _ => tree
  visit := fun visits visit => .ok (visits ++ [visit])
  giveUp := fun _ failure => failure

/-- The visits of a walk through a tree that stays as it is. -/
def visited (walk : Walk) (tree : FileTree) (path : String) : Except Failure (List Visit) :=
  walk.run (gathering tree) [] path

end Walk
end Instrument
