import Instrument.Token.Literal

/-!
# Values of string literals

The text that a string literal denotes.  Every literal that the lexer accepts has a value; for other
texts the functions here stop at the first character that has no meaning.
-/

namespace Instrument
namespace Token

open Text

/-- The character that a letter behind a backslash stands for. -/
def escapedCharacter? (letter : Char) : Option Char :=
  if letter == 'n' then some '\n'
  else if letter == 'r' then some '\r'
  else if letter == 't' then some '\t'
  else if letter == '0' then some '\x00'
  else if letter == '\\' || letter == '\'' || letter == '"' then some letter
  else none

/-- A blank that is skipped behind a backslash at the end of a line. -/
def isContinuation (character : Char) : Bool :=
  character == ' ' || character == '\t' || character == '\n' || character == '\r'

/-- The text in front of the closing quote.  A line break denotes a line feed, whatever it is
written as.  Every step reads a character, so the length is fuel enough. -/
def cookedValue : Nat → List Char → List Char
  | 0, _ => []
  | _, [] => []
  | _, '"' :: _ => []
  | fuel + 1, '\r' :: '\n' :: rest => '\n' :: cookedValue fuel rest
  | fuel + 1, '\\' :: 'x' :: high :: low :: rest =>
    match hexDigit? high, hexDigit? low with
    | some first, some second => Char.ofNat (first * 16 + second) :: cookedValue fuel rest
    | _, _ => []
  | fuel + 1, '\\' :: 'u' :: '\x7b' :: rest =>
    match unicodeEscape? 0 0 rest with
    | some (character, behind) => character :: cookedValue fuel behind
    | none => []
  | fuel + 1, '\\' :: letter :: rest =>
    match escapedCharacter? letter with
    | some character => character :: cookedValue fuel rest
    | none =>
      if letter == '\n' || letter == '\r' then cookedValue fuel (rest.dropWhile isContinuation)
      else []
  | fuel + 1, character :: rest => character :: cookedValue fuel rest

/-- The text between the quotes of a raw string that has a number of hashes in front. -/
def rawValue (hashes : Nat) : List Char → List Char
  | [] => []
  | '"' :: rest =>
    if (rest.take hashes).length == hashes && (rest.take hashes).all (· == '#') then []
    else '"' :: rawValue hashes rest
  | character :: rest => character :: rawValue hashes rest

/-- The text that a string literal denotes. -/
def stringValue? (literal : String) : Option String :=
  match literal.toList with
  | '"' :: rest => some (String.ofList (cookedValue rest.length rest))
  | 'r' :: rest =>
    let hashes := (rest.takeWhile (· == '#')).length
    match rest.drop hashes with
    | '"' :: body => some (String.ofList (rawValue hashes body))
    | _ => none
  | _ => none

end Token
end Instrument
