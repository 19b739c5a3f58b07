import Instrument.Token.Literal
import Instrument.Toml.Parser

/-!
# Blanks, comments and strings

Strings come in four forms: with or without escapes, on one line or on several.
-/

namespace Instrument
namespace Toml

open Instrument.Toml.Parser

def isSpace (character : Char) : Bool :=
  character == ' ' || character == '\t'

def spaces : Parser Unit := do
  let _ ← takeWhile 0 isSpace

def newline : Parser Unit :=
  either (do let _ ← char '\n') (do
    let _ ← char '\r'
    let _ ← char '\n')

/-- The end of a line or of the text. -/
def lineEnding : Parser Unit :=
  either newline atEnd

def isCommentCharacter (character : Char) : Bool :=
  character == '\t' || (0x20 ≤ character.toNat && character != '\x7f')

/-- A comment, without the end of its line. -/
def comment : Parser Unit := do
  let _ ← char '#'
  let _ ← takeWhile 0 isCommentCharacter

/-- What may stand behind a value or a header on its line. -/
def lineTrailing : Parser Unit := do
  spaces
  let _ ← optional comment
  lineEnding

/-- Blanks that may contain ends of lines. -/
def blankLines : Parser Unit := do
  let _ ← many (either newline (do let _ ← takeWhile 1 isSpace))

def blankOrComments : Parser Unit := do
  let _ ← many (either (do
    let _ ← someOf (either (do let _ ← takeWhile 1 isSpace) newline)) comment)

/-- A character that stands for itself in a string with escapes. -/
def isPlainBasic (character : Char) : Bool :=
  isCommentCharacter character && character != '"' && character != '\\'

/-- A character that stands for itself in a string without escapes. -/
def isPlainLiteral (character : Char) : Bool :=
  isCommentCharacter character && character != '\''

/-- The character with a number of some hexadecimal digits. -/
def hexadecimalEscape (count : Nat) : Parser Char :=
  let digits := checked (takeAtMost count fun character =>
      (Token.hexDigit? character).isSome) fun digits =>
    if digits.length == count then .ok digits else .error none
  meaning digits fun digits =>
    let number := digits.foldl (fun number digit =>
      number * 16 + (Token.hexDigit? digit).getD 0) 0
    match Token.character? number with
    | some character => .ok character
    | none => .error .outOfRange

def escapeLetters : List String :=
  ["`b`", "`f`", "`n`", "`r`", "`t`", "`u`", "`U`", "`\\`", "`\"`"]

/-- An unknown letter behind a backslash is noticed once its first byte was read. -/
def unknownEscape (letter : Char) : Parser Char :=
  expecting escapeLetters (label "escape sequence" (final fun rest =>
    fail (if letter.toNat < 0x80 then rest else letter :: rest)))

def escapeBehind : Parser Char := do
  let letter ← satisfy fun _ => true
  if letter == 'b' then return '\x08'
  else if letter == 'f' then return '\x0c'
  else if letter == 'n' then return '\n'
  else if letter == 'r' then return '\r'
  else if letter == 't' then return '\t'
  else if letter == '\\' || letter == '"' then return letter
  else if letter == 'u' then label "unicode 4-digit hex code" (final (hexadecimalEscape 4))
  else if letter == 'U' then label "unicode 8-digit hex code" (final (hexadecimalEscape 8))
  else unknownEscape letter

def escape : Parser (List Char) := do
  let _ ← char '\\'
  return [← escapeBehind]

/-- A string with escapes on one line. -/
def basicString : Parser String := do
  let _ ← char '"'
  let pieces ← many (either (takeWhile 1 isPlainBasic) escape)
  let _ ← label "basic string" (final (char '"'))
  return String.ofList pieces.flatten

/-- A string without escapes on one line. -/
def literalString : Parser String := label "literal string" do
  let _ ← char '\''
  let characters ← takeWhile 0 isPlainLiteral
  let _ ← final (char '\'')
  return String.ofList characters

/-- Ends of lines behind backslashes, with all blanks that follow. -/
def continuation : Parser (List Char) := do
  let _ ← someOf do
    let _ ← char '\\'
    spaces
    newline
    blankLines
  return []

/-- A piece of a string with escapes on several lines. -/
def basicPiece : Parser (List Char) :=
  either (takeWhile 1 isPlainBasic) (either continuation (either escape (do
    newline
    return ['\n'])))

/-- One or two quotes that something follows. -/
def quotesBefore {α : Type} (quote : Char) (next : Parser α) : Parser (List Char) :=
  either (do
    let _ ← char quote
    let _ ← char quote
    let _ ← ahead next
    return [quote, quote]) (do
    let _ ← char quote
    let _ ← ahead next
    return [quote])

/-- The inside of a string on several lines, in which one or two quotes may stand. -/
def quotedBody (quote : Char) (piece : Parser (List Char)) : Parser (List Char) := do
  let first ← many piece
  let middle ← many do
    let quotes ← quotesBefore quote piece
    return quotes ++ (← someOf piece).flatten
  let last ← optional (quotesBefore quote do
    let _ ← char quote
    let _ ← char quote
    char quote)
  return first.flatten ++ middle.flatten ++ last.getD []

def threeQuotes (quote : Char) : Parser Unit :=
  literal (String.ofList [quote, quote, quote])

/-- A string with escapes on several lines. -/
def basicText : Parser String := label "multiline basic string" do
  threeQuotes '"'
  let _ ← optional newline
  let characters ← final (quotedBody '"' basicPiece)
  final (threeQuotes '"')
  return String.ofList characters

/-- A string without escapes on several lines. -/
def literalText : Parser String := label "multiline literal string" do
  threeQuotes '\''
  let _ ← optional newline
  let piece := either (takeWhile 1 isPlainLiteral) (do
    newline
    return ['\n'])
  let characters ← final (quotedBody '\'' piece)
  final (threeQuotes '\'')
  return String.ofList characters

def string : Parser String :=
  either basicText (either basicString (either literalText literalString))

end Toml
end Instrument
