import Instrument.CommandLine.Run

/-!
# The program

The program reads the files that an invocation can depend on into a tree, lets the tool run on the
tree, and writes the differences back.
-/

namespace Instrument
namespace Main

open Files (Entry FileTree Location)

/-- The entry of a name in a directory. -/
def entryAt (directory : Location) (name : String) : IO.FS.DirEntry :=
  { root := Files.absoluteText directory, fileName := name }

/-- What kind of entry a name stands for, if for any. -/
def kindOf? (entry : IO.FS.DirEntry) : IO (Option IO.FS.FileType) := do
  try
    return some (← entry.path.symlinkMetadata).type
  catch _ => return none

/-- Where a link leads; nowhere, if that cannot be found out. -/
def targetOf (entry : IO.FS.DirEntry) : IO String := do
  try
    let target ← IO.FS.realPath entry.path
    if ← target.pathExists then return target.toString else return ""
  catch _ => return ""

/-- What an entry stands for, with everything below it. -/
partial def readEntry (entry : IO.FS.DirEntry) : IO Entry := do
  match ← kindOf? entry with
  | some .dir =>
    let mut entries := []
    for child in ← entry.path.readDir do
      entries := entries ++ [(child.fileName, ← readEntry child)]
    return .directory entries
  | some .symlink => return .link (← targetOf entry)
  | _ => return .file (← IO.FS.readBinFile entry.path)

/-- The links in an entry. -/
partial def linksOf : Entry → List String
  | .file _ => []
  | .link target => [target]
  | .directory entries => entries.flatMap fun entry => linksOf entry.2

/-- Reading files into a tree. -/
abbrev Loading := StateT FileTree IO

/-- Make the directories on the way to a location part of the tree. -/
def makeWay (location : Location) : Loading Unit := do
  for length in List.range (location.length + 1) do
    let tree ← get
    let place := location.take length
    unless (tree.at? place).any Entry.isDirectory do
      set (tree.put place (.directory []))

/-- Read what a name in a directory stands for, if it is there. -/
def loadName (directory : Location) (name : String) : Loading Unit := do
  let tree ← get
  let entry := entryAt directory name
  if (tree.at? (directory ++ [name])).isNone && (← kindOf? entry).isSome then
    set (tree.put (directory ++ [name]) (← readEntry entry))

/-- The names of entries that matter in the directories above. -/
def outerNames : List String :=
  [".git", ".jj", ".gitignore", ".ignore", Config.manifestName]

mutual

/-- Read everything in a directory, and what its links lead to. -/
partial def loadBelow (directory : Location) : Loading Unit := do
  let name := directory.getLast?.getD ""
  let entry ← readEntry (entryAt directory.dropLast name)
  let tree ← get
  set (tree.put directory entry)
  for target in linksOf entry do
    loadAlong [] (Files.pieces target) true

/-- Read what the pieces of a path lead to.  Of a directory, everything below is read on request. -/
partial def loadAlong (here : Location) (pieces : List String) (deep : Bool) : Loading Unit := do
  makeWay here
  match pieces with
  | [] =>
    for length in List.range (here.length + 1) do
      for name in outerNames do
        loadName (here.take length) name
    if deep && (((← get).at? here).any fun entry => (linksOf entry).isEmpty) then loadBelow here
  | piece :: rest =>
    if piece == "" || piece == "." then loadAlong here rest deep
    else if piece == ".." then loadAlong here.dropLast rest deep
    else
      let entry := entryAt here piece
      match ← kindOf? entry with
      | none => loadAlong here [] false
      | some .dir => loadAlong (here ++ [piece]) rest deep
      | some .symlink =>
        loadName here piece
        loadAlong [] (Files.pieces (← targetOf entry) ++ rest) deep
      | some _ =>
        loadAlong here [] false
        loadName here piece

end

def loadPath (path : String) (deep : Bool) : Loading Unit := do
  loadAlong (Files.startOf (← get).current path) (Files.pieces path) deep

/-- Read the files that an invocation can depend on. -/
def loadFor : CommandLine.Invocation → Loading Unit
  | .file file output _ _ => do
    loadPath file false
    for path in output do loadPath path false
  | .list path _ => loadPath path true
  | .project project out _ => do
    loadPath project true
    loadPath out true

/-- Write a file where there is another entry or none. -/
def writeFile (location : Location) (held : Option Entry) (content : ByteArray) : IO Unit := do
  let path := Files.absoluteText location
  match held with
  | some (.link _) =>
    let fresh := path ++ ".new"
    IO.FS.writeBinFile fresh content
    IO.FS.rename fresh path
  | _ => IO.FS.writeBinFile path content

/-- Write the entries of a tree that are different from those in another one. -/
partial def writeChanges (location : Location) (before : Option Entry) : Entry → IO Unit
  | .file content => do
    let isSame := match before with
      | some (.file held) => held == content
      | _ => false
    unless isSame do writeFile location before content
  | .link _ => return ()
  | .directory entries => do
    if before.isNone then IO.FS.createDirAll (Files.absoluteText location)
    for (name, entry) in entries do
      writeChanges (location ++ [name]) (before.bind (Entry.child? name)) entry

def run (arguments : List String) : IO UInt32 := do
  let current := Files.names (← IO.currentDir).toString
  let start : FileTree := ⟨.directory [], current⟩
  let (_, tree) ← (do
    makeWay current
    match CommandLine.Request.ofArguments arguments with
    | .run invocation => loadFor invocation
    | _ => return () : Loading Unit).run start
  let response := CommandLine.run tree (← IO.getEnv "METHOD_LOGGER_LOG") arguments
  writeChanges [] (some tree.root) response.tree.root
  IO.print response.output
  IO.eprint response.errors
  return UInt32.ofNat response.exitCode

end Main
end Instrument

def main (arguments : List String) : IO UInt32 :=
  Instrument.Main.run arguments
