import Instrument.Text.Printable

/-!
# Escaped text

A text is shown between double quotes with its invisible characters written as escapes, so that the
quoted form fits on one line and reads back as the same text.
-/

namespace Instrument
namespace Text

/-- The hexadecimal digits of a number, most significant first and without leading zeros. -/
def hexadecimal (number : Nat) : String :=
  String.ofList (Nat.toDigits 16 number)

/-- The numeric escape of a character. -/
def unicodeEscape (character : Char) : String :=
  "\\u" ++ "\x7b" ++ hexadecimal character.toNat ++ "\x7d"

/-- A character as it stands inside a quoted text.  A mark that attaches itself to the character
before it is escaped only where `attaching` asks for it: inside a longer text it has a character to
attach itself to. -/
def escapeCharacter (attaching : Bool) (character : Char) : String :=
  if character == '\x00' then "\\0"
  else if character == '\t' then "\\t"
  else if character == '\r' then "\\r"
  else if character == '\n' then "\\n"
  else if character == '\\' then "\\\\"
  else if character == '"' then "\\\""
  else if attaching && isAttaching character then unicodeEscape character
  else if isPrintable character then String.singleton character
  else unicodeEscape character

/-- The body of a string literal that denotes the given characters.  The zero character is written
with two digits in front of a digit, where its short form would be read as a longer number. -/
def literalBody : List Char → String
  | [] => ""
  | character :: rest =>
    let written :=
      if character == '\x00' then
        match rest with
        | next :: _ => if '0' ≤ next && next ≤ '7' then "\\x00" else "\\0"
        | [] => "\\0"
      else escapeCharacter true character
    written ++ literalBody rest

/-- A string literal that denotes the given text. -/
def stringLiteral (text : String) : String :=
  "\"" ++ literalBody text.toList ++ "\""

/-- A text as it is quoted in a log line: only a leading mark has nothing to attach itself to. -/
def quoted (text : String) : String :=
  match text.toList with
  | [] => "\"\""
  | first :: rest =>
    "\"" ++ escapeCharacter true first ++
      String.join (rest.map (escapeCharacter false)) ++ "\""

end Text
end Instrument
