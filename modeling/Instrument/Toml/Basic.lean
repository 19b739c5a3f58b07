/-!
# Tables of settings

A document of settings is a table: an ordered list of keys with items.  An item is a scalar, an
array or a table, and a table that is written in braces is a value like any other, while one with a
header of its own can be extended further down in the document.  How far is told by its standing.
-/

namespace Instrument
namespace Toml

/-- A value without parts. -/
inductive Scalar where
  | string (text : String)
  | integer (value : Int)
  | float (written : String)
  | boolean (value : Bool)
  | moment (written : String)
deriving DecidableEq, Repr, Inhabited

/-- How a table came about. -/
inductive Standing where
  /-- A header inside it was written, but none of its own. -/
  | implied
  /-- A key with dots leads through it. -/
  | dotted
  /-- It has a header or braces of its own. -/
  | defined
deriving DecidableEq, Repr, Inhabited

/-- What stands behind a key. -/
inductive Item where
  | scalar (value : Scalar)
  | array (elements : List Item)
  | inline (standing : Standing) (entries : List (String × Item))
  | table (standing : Standing) (entries : List (String × Item))
  /-- The tables of all headers with the same name in double brackets. -/
  | tables (elements : List (List (String × Item)))
deriving Repr, Inhabited

/-- Keys with items, in order. -/
abbrev Entries := List (String × Item)

namespace Entries

def get? (entries : Entries) (key : String) : Option Item :=
  List.lookup key entries

/-- The entries with another item behind a key that is there already, or with a new key at the
end. -/
def set (entries : Entries) (key : String) (item : Item) : Entries :=
  match entries with
  | [] => [(key, item)]
  | (first, value) :: rest =>
    if first == key then (key, item) :: rest else (first, value) :: set rest key item

def erase (entries : Entries) (key : String) : Entries :=
  entries.filter fun entry => entry.1 != key

def keys (entries : Entries) : List String :=
  entries.map Prod.fst

end Entries

namespace Item

/-- The entries of a single table, in braces or with a header. -/
def entries? : Item → Option Entries
  | inline _ entries => some entries
  | table _ entries => some entries
  | _ => none

/-- The item behind a key of a single table. -/
def get? (item : Item) (key : String) : Option Item :=
  item.entries?.bind fun entries => entries.get? key

/-- The truth value that an item is. -/
def boolean? : Item → Option Bool
  | scalar (.boolean value) => some value
  | _ => none

/-- The name of the type of a value. -/
def typeName : Item → String
  | scalar (.string _) => "string"
  | scalar (.integer _) => "integer"
  | scalar (.float _) => "float"
  | scalar (.boolean _) => "boolean"
  | scalar (.moment _) => "datetime"
  | array _ => "array"
  | inline _ _ => "inline table"
  | table _ _ => "table"
  | tables _ => "array of tables"

end Item
end Toml
end Instrument
