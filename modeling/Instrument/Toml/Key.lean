import Instrument.Text.Escape

/-!
# Written forms of keys

A key is written bare if it can be, and else in the simplest quotes that need no escapes.
-/

namespace Instrument
namespace Toml

/-- A character that a bare key may have. -/
def isBareCharacter (character : Char) : Bool :=
  character.isAlphanum || character == '-' || character == '_'

/-- A character that has to be escaped between double quotes, apart from quotes and backslashes. -/
def isControl (character : Char) : Bool :=
  (character.toNat < 0x20 && character != '\t') || character == '\x7f'

def fourDigits (number : Nat) : String :=
  let digits := (Nat.toDigits 16 number).map Char.toUpper
  String.ofList (List.replicate (4 - digits.length) '0' ++ digits)

def escapedInKey (character : Char) : String :=
  if character == '"' then "\\\""
  else if character == '\\' then "\\\\"
  else if character == '\x08' then "\\b"
  else if character == '\t' then "\\t"
  else if character == '\n' then "\\n"
  else if character == '\x0c' then "\\f"
  else if character == '\r' then "\\r"
  else if isControl character then "\\u" ++ fourDigits character.toNat
  else String.singleton character

def writtenKey (key : String) : String :=
  let characters := key.toList
  if !characters.isEmpty && characters.all isBareCharacter then key
  else
    let needsCode := characters.any fun character => isControl character
    let needsEscape := characters.any fun character => character == '"' || character == '\\'
    if !needsCode && !needsEscape then "\"" ++ key ++ "\""
    else if !needsCode && !characters.contains '\'' then "'" ++ key ++ "'"
    else "\"" ++ String.join (characters.map escapedInKey) ++ "\""

end Toml
end Instrument
