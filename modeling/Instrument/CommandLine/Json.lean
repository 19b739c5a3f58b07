import Instrument.Text.Escape

/-!
# JSON

Values are written over several lines, one member on each, with the members of a value further to
the right than the value itself.
-/

namespace Instrument
namespace CommandLine

/-- A JSON value.  The members of a record keep their order. -/
inductive Json where
  | text (value : String)
  | number (value : Nat)
  | truth (value : Bool)
  | list (values : List Json)
  | record (members : List (String × Json))
deriving Inhabited

namespace Json

def escape (character : Char) : String :=
  if character == '"' then "\\\""
  else if character == '\\' then "\\\\"
  else if character == '\n' then "\\n"
  else if character == '\t' then "\\t"
  else if character == '\r' then "\\r"
  else if character.toNat == 8 then "\\b"
  else if character.toNat == 12 then "\\f"
  else if character.toNat < 0x20 then
    let digits := Text.hexadecimal character.toNat
    "\\u" ++ "".pushn '0' (4 - digits.length) ++ digits
  else character.toString

def quoted (value : String) : String :=
  "\"" ++ String.join (value.toList.map escape) ++ "\""

/-- The start of a line that stands so many steps to the right. -/
def newLine (depth : Nat) : String := "\n" ++ "".pushn ' ' (2 * depth)

mutual

/-- A value as text, in a line that stands so many steps to the right. -/
def print (depth : Nat) : Json → String
  | text value => quoted value
  | number value => toString value
  | truth value => if value then "true" else "false"
  | list [] => "[]"
  | list (first :: rest) =>
    "[" ++ printList (depth + 1) (first :: rest) ++ newLine depth ++ "]"
  | record [] => "\x7b\x7d"
  | record (first :: rest) =>
    "\x7b" ++ printMembers (depth + 1) (first :: rest) ++ newLine depth ++ "\x7d"

/-- The values of a list, each in a line of its own. -/
def printList (depth : Nat) : List Json → String
  | [] => ""
  | [last] => newLine depth ++ print depth last
  | value :: rest => newLine depth ++ print depth value ++ "," ++ printList depth rest

/-- The members of a record, each in a line of its own. -/
def printMembers (depth : Nat) : List (String × Json) → String
  | [] => ""
  | [(name, last)] => newLine depth ++ quoted name ++ ": " ++ print depth last
  | (name, value) :: rest =>
    newLine depth ++ quoted name ++ ": " ++ print depth value ++ "," ++ printMembers depth rest

end

end Json
end CommandLine
end Instrument
