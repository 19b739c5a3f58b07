import Instrument.Files.Path

/-!
# Trees of files

A tree of files is a directory with everything below it, and the directory in which relative paths
start.  Links are kept as they were written; where they lead is found out when a path is followed.
-/

namespace Instrument
namespace Files

/-- What a name in a directory stands for. -/
inductive Entry where
  | file (content : ByteArray)
  | directory (entries : List (String × Entry))
  | link (target : String)
deriving Inhabited

/-- The names on the way from the root to an entry, none of which is a link. -/
abbrev Location := List String

/-- The entries of a directory with one of them replaced or added. -/
def putEntry (name : String) (entry : Entry) :
    List (String × Entry) → List (String × Entry)
  | [] => [(name, entry)]
  | (other, held) :: rest =>
    if other = name then (name, entry) :: rest else (other, held) :: putEntry name entry rest

namespace Entry

/-- The entry below this one that a name stands for. -/
def child? (name : String) : Entry → Option Entry
  | directory entries => entries.lookup name
  | _ => none

/-- The entry that names one below the other lead to, without following links. -/
def at? : Location → Entry → Option Entry
  | [], entry => some entry
  | name :: path, entry => (entry.child? name).bind (at? path)

/-- This entry with another one put at a place below it.  Nothing happens if the directory that is
to hold it is missing. -/
def putAt (new : Entry) : Location → Entry → Entry
  | [], _ => new
  | [name], directory entries => directory (putEntry name new entries)
  | name :: path, directory entries =>
    match entries.lookup name with
    | some held => directory (putEntry name (putAt new path held) entries)
    | none => directory entries
  | _, entry => entry

def isDirectory : Entry → Bool
  | directory _ => true
  | _ => false

def isFile : Entry → Bool
  | file _ => true
  | _ => false

mutual

/-- The number of directories in an entry. -/
def directoryCount : Entry → Nat
  | directory entries => 1 + directoryCountOf entries
  | _ => 0

/-- The number of directories in the entries of a directory. -/
def directoryCountOf : List (String × Entry) → Nat
  | [] => 0
  | (_, entry) :: rest => directoryCount entry + directoryCountOf rest

end

end Entry

/-- A tree of files, seen from one of its directories. -/
structure FileTree where
  root : Entry
  /-- The directory in which relative paths start. -/
  current : Location
deriving Inhabited

namespace FileTree

def at? (tree : FileTree) (location : Location) : Option Entry :=
  tree.root.at? location

/-- The tree with another entry at a location. -/
def put (tree : FileTree) (location : Location) (entry : Entry) : FileTree :=
  { tree with root := Entry.putAt entry location tree.root }

end FileTree

theorem lookup_putEntry (name : String) (entry : Entry) (entries : List (String × Entry)) :
    (putEntry name entry entries).lookup name = some entry := by
  induction entries with
  | nil => simp [putEntry]
  | cons first rest ih =>
    obtain ⟨other, held⟩ := first
    by_cases h : other = name
    · simp [putEntry, h]
    · have reverse : (name == other) = false := by simpa using Ne.symm h
      simp [putEntry, h, List.lookup_cons, reverse, ih]

theorem lookup_putEntry_of_ne {name other : String} (h : other ≠ name) (entry : Entry)
    (entries : List (String × Entry)) :
    (putEntry name entry entries).lookup other = entries.lookup other := by
  induction entries with
  | nil =>
    have different : (other == name) = false := by simpa using h
    simp [putEntry, List.lookup_cons, different]
  | cons first rest ih =>
    obtain ⟨next, held⟩ := first
    by_cases same : next = name
    · have different : (other == name) = false := by simpa using h
      simp [putEntry, same, List.lookup_cons, different]
    · simp [putEntry, same, List.lookup_cons, ih]

end Files
end Instrument
