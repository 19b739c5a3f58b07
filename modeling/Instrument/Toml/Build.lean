import Instrument.Toml.Basic
import Instrument.Toml.Key

/-!
# Building tables

A document is built line by line.  The table under the last header is open, and stands outside the
tree until the next header closes it.  No table can be defined twice, and no key can be given two
values, but a table that was only implied can still get a header of its own.

How a document is read does not depend on what is made of it.  `Construction` is what the grammar
asks for, and `Construction.tables` is the one that builds tables.
-/

namespace Instrument
namespace Toml

/-- Why a key or a header cannot be added. -/
inductive Conflict where
  /-- The key is there already.  The path of its table is known in some cases. -/
  | duplicate (key : String) (table : Option (List String))
  | wrongType (path : List String) (type : String)
  | outOfRange
  | tooLarge
  | tooSmall
  | tooDeep
deriving DecidableEq, Repr

def Conflict.message : Conflict → String
  | duplicate key none => "duplicate key `" ++ key ++ "`"
  | duplicate key (some []) => "duplicate key `" ++ key ++ "` in document root"
  | duplicate key (some table) =>
    "duplicate key `" ++ key ++ "` in table `" ++ ".".intercalate table ++ "`"
  | wrongType path type =>
    "dotted key `" ++ ".".intercalate path ++ "` attempted to extend non-table type (" ++ type ++
      ")"
  | outOfRange => "value is out of range"
  | tooLarge => "number too large to fit in target type"
  | tooSmall => "number too small to fit in target type"
  | tooDeep => "recursion limit exceeded"

/-- A change of one table that also gives a result. -/
abbrev Change (α : Type) := Standing → Entries → Except Conflict (α × Entries)

/-- Change the table that a path leads to, and make the tables on the way that are missing.
`walked` is the path so far. -/
def descend {α : Type} (isDotted : Bool) (change : Change α) (walked : List String) :
    List String → Standing → Entries → Except Conflict (α × Entries)
  | [], standing, entries => change standing entries
  | key :: path, _, entries =>
    let further := descend isDotted change (walked ++ [key]) path
    match entries.get? key with
    | none => do
      let standing := if isDotted then .dotted else .implied
      let (result, inside) ← further standing []
      return (result, entries.set key (.table standing inside))
    | some (.table standing inside) =>
      if isDotted && standing == .defined then .error (.duplicate key none)
      else do
        let (result, inside) ← further standing inside
        return (result, entries.set key (.table standing inside))
    | some (.tables elements) => do
      let (result, last) ← further .defined (elements.getLast?.getD [])
      return (result, entries.set key (.tables (elements.dropLast ++ [last])))
    | some item => .error (.wrongType (walked ++ [key]) item.typeName)

/-- Change the table in braces that a path leads to. -/
def descendInline {α : Type} (change : Change α) (walked : List String) :
    List String → Standing → Entries → Except Conflict (α × Entries)
  | [], standing, entries => change standing entries
  | key :: path, _, entries =>
    let further := descendInline change (walked ++ [key]) path
    match entries.get? key with
    | none => do
      let (result, inside) ← further .dotted []
      return (result, entries.set key (.inline .dotted inside))
    | some (.inline standing inside) =>
      if standing == .defined then .error (.duplicate key none)
      else do
        let (result, inside) ← further standing inside
        return (result, entries.set key (.inline standing inside))
    | some item => .error (.wrongType (walked ++ [key]) item.typeName)

/-- Add a key to a table.  A table that dots lead to has no other keys than those behind dots. -/
def addKey (isDotted : Bool) (table : Option (List String)) (key : String) (item : Item) :
    Change Unit :=
  fun standing entries =>
    if (standing == .dotted) != isDotted then .error (.duplicate key none)
    else if (entries.get? key).isSome then .error (.duplicate key table)
    else .ok ((), entries ++ [(key, item)])

/-- A key in front of an equals sign: the path to its table, and its last part. -/
structure KeyPath where
  path : List String
  last : String
deriving DecidableEq, Repr

namespace KeyPath

/-- The parts of a key that has at least one. -/
def ofParts (first : String) : List String → KeyPath
  | [] => ⟨[], first⟩
  | second :: rest =>
    let behind := ofParts second rest
    ⟨first :: behind.path, behind.last⟩

end KeyPath

/-- Add a key and its value to a table in braces. -/
def addInline (entries : Entries) (pair : KeyPath × Item) : Except Conflict Entries := do
  let (key, item) := pair
  let add := addKey (!key.path.isEmpty) none key.last item
  let (_, entries) ← descendInline add [] key.path .defined entries
  return entries

/-- The table in braces that some keys and values make. -/
def inlineTable (pairs : List (KeyPath × Item)) : Except Conflict Item := do
  let entries ← pairs.foldlM addInline []
  return .inline .defined entries

/-- A document that is being built. -/
structure Builder where
  /-- All tables but the open one. -/
  root : Entries
  current : Entries
  /-- The path in the last header, or nothing in front of the first. -/
  path : List String
  /-- The last header is in double brackets. -/
  isElement : Bool
deriving Repr

namespace Builder

def empty : Builder := ⟨[], [], [], false⟩

/-- Add a key and its value to the open table. -/
def addPair (builder : Builder) (key : KeyPath) (item : Item) : Except Conflict Builder := do
  let add := addKey (!key.path.isEmpty) (some builder.path) key.last item
  let (_, current) ← descend true add [] key.path .defined builder.current
  return { builder with current := current }

/-- Put the open table behind the last key of its header. -/
def put (builder : Builder) (last : String) : Change Unit := fun _ entries =>
  if builder.isElement then
    match entries.get? last with
    | some (.tables elements) =>
      .ok ((), entries.set last (.tables (elements ++ [builder.current])))
    | _ => .ok ((), entries.set last (.tables [builder.current]))
  else .ok ((), entries.set last (.table .defined builder.current))

/-- Put the open table into the tree. -/
def close (builder : Builder) : Except Conflict Entries :=
  match builder.path.getLast? with
  | none => .ok builder.current
  | some last => do
    let (_, root) ← descend false (builder.put last) [] builder.path.dropLast .defined builder.root
    return root

/-- The conflict of a header whose last key is taken. -/
def taken (path : List String) (last : String) : Conflict :=
  .duplicate (writtenKey last) (some path.dropLast)

/-- Take out what an implied table holds. -/
def take (path : List String) (last : String) : Change Entries := fun _ entries =>
  match entries.get? last with
  | none => .ok ([], entries)
  | some (.table .implied inside) => .ok (inside, entries.erase last)
  | some _ => .error (taken path last)

/-- Open the table of a header.  What an implied table holds already belongs to it. -/
def openTable (builder : Builder) (path : List String) (last : String) :
    Except Conflict Builder := do
  let root ← builder.close
  let (current, root) ← descend false (take path last) [] path.dropLast .defined root
  return ⟨root, current, path, false⟩

/-- Make room for the tables of a header in double brackets. -/
def reserve (path : List String) (last : String) : Change Unit := fun _ entries =>
  match entries.get? last with
  | none => .ok ((), entries.set last (.tables []))
  | some (.tables _) => .ok ((), entries)
  | some _ => .error (taken path last)

/-- Open another table of a header in double brackets. -/
def openElement (builder : Builder) (path : List String) (last : String) :
    Except Conflict Builder := do
  let root ← builder.close
  let (_, root) ← descend false (reserve path last) [] path.dropLast .defined root
  return ⟨root, [], path, true⟩

end Builder

/-- What is made of a document: of its values, and of one line after the other. -/
structure Construction (α β : Type) where
  scalar : Scalar → α
  array : List α → α
  inline : List (KeyPath × α) → Except Conflict α
  empty : β
  addPair : β → KeyPath → α → Except Conflict β
  openTable : β → List String → String → Except Conflict β
  openElement : β → List String → String → Except Conflict β

/-- The tables that a document defines. -/
def Construction.tables : Construction Item Builder where
  scalar := .scalar
  array := .array
  inline := inlineTable
  empty := .empty
  addPair := Builder.addPair
  openTable := Builder.openTable
  openElement := Builder.openElement

end Toml
end Instrument
