import Instrument.Text.Identifier

/-!
# Lexical form of literals

Each function here reads one lexical form off the front of a list of characters and returns what is
left.  The forms overlap (`1.0` starts with the integer `1`, `r"x"` with the identifier `r`), so the
order in which `literal?` tries them is part of the definition of the language.
-/

namespace Instrument
namespace Token

open Text

def hexDigit? (character : Char) : Option Nat :=
  if '0' ≤ character && character ≤ '9' then some (character.toNat - '0'.toNat)
  else if 'a' ≤ character && character ≤ 'f' then some (character.toNat - 'a'.toNat + 10)
  else if 'A' ≤ character && character ≤ 'F' then some (character.toNat - 'A'.toNat + 10)
  else none

/-- The number of a character, when it is one: surrogates and numbers beyond the last plane are
not. -/
def character? (number : Nat) : Option Char :=
  if number < 0xd800 || (0xdfff < number && number < 0x110000) then some (Char.ofNat number)
  else none

/-- The rest of a numeric escape behind its opening brace: at most six digits, between which
underscores may stand, and a closing brace. -/
def unicodeEscape? (value digits : Nat) : List Char → Option (Char × List Char)
  | [] => none
  | '\x7d' :: rest =>
    if digits == 0 then none else (character? value).map fun character => (character, rest)
  | '_' :: rest => if digits == 0 then none else unicodeEscape? value digits rest
  | character :: rest =>
    match hexDigit? character with
    | some digit =>
      if digits == 6 then none else unicodeEscape? (value * 16 + digit) (digits + 1) rest
    | none => none

/-- The three families of text literals, which differ in the characters they admit. -/
inductive TextFamily where
  | string
  | bytes
  /-- A string that ends with a zero byte, and so has none inside. -/
  | terminated
deriving DecidableEq, Repr

/-- Two hexadecimal digits that form an escape of the given family. -/
def hexEscape (family : TextFamily) (high low : Char) : Bool :=
  match hexDigit? high, hexDigit? low with
  | some first, some second =>
    match family with
    | .string => first < 8
    | .bytes => true
    | .terminated => first != 0 || second != 0
  | _, _ => false

/-- A letter that forms an escape by itself. -/
def simpleEscape (family : TextFamily) (character : Char) : Bool :=
  character == 'n' || character == 'r' || character == 't' || character == '\\' ||
    character == '\'' || character == '"' || (character == '0' && family != .terminated)

/-- A character that stands for itself in a text of the given family. -/
def plainCharacter (family : TextFamily) (character : Char) : Bool :=
  match family with
  | .string => true
  | .bytes => character.toNat < 128
  | .terminated => character != '\x00'

/-- The rest of a text literal behind its opening quote.  The digits of a numeric escape are also
plain characters, so it suffices to check the escape and to go on behind its opening brace. -/
def cooked? (family : TextFamily) : List Char → Option (List Char)
  | [] => none
  | '"' :: rest => some rest
  | '\r' :: '\n' :: rest => cooked? family rest
  | '\r' :: _ => none
  | '\\' :: 'x' :: high :: low :: rest =>
    if hexEscape family high low then cooked? family rest else none
  | '\\' :: 'u' :: '\x7b' :: rest =>
    if family == .bytes then none
    else match unicodeEscape? 0 0 rest with
      | some (character, _) =>
        if family == .terminated && character == '\x00' then none else cooked? family rest
      | none => none
  | '\\' :: '\n' :: rest => cooked? family rest
  | '\\' :: '\r' :: '\n' :: rest => cooked? family rest
  | '\\' :: character :: rest =>
    if simpleEscape family character then cooked? family rest else none
  | '\\' :: [] => none
  | character :: rest => if plainCharacter family character then cooked? family rest else none

/-- The rest of a raw text literal behind its opening quote: it ends at a quote followed by as many
number signs as stand before the opening one. -/
def raw? (family : TextFamily) (hashes : List Char) : List Char → Option (List Char)
  | [] => none
  | '"' :: rest =>
    if hashes.isPrefixOf rest then some (rest.drop hashes.length) else raw? family hashes rest
  | '\r' :: '\n' :: rest => raw? family hashes rest
  | '\r' :: _ => none
  | character :: rest =>
    if plainCharacter family character then raw? family hashes rest else none

/-- A raw text literal behind its letters: number signs, at most 255 of them, and the text. -/
def rawAfterLetters? (family : TextFamily) (characters : List Char) : Option (List Char) :=
  let hashes := characters.takeWhile (· == '#')
  match characters.drop hashes.length with
  | '"' :: rest => if 255 < hashes.length then none else raw? family hashes rest
  | _ => none

/-- A literal of text in double quotes, raw or not. -/
def text? : List Char → Option (List Char)
  | '"' :: rest => cooked? .string rest
  | 'r' :: rest => rawAfterLetters? .string rest
  | 'b' :: '"' :: rest => cooked? .bytes rest
  | 'b' :: 'r' :: rest => rawAfterLetters? .bytes rest
  | 'c' :: '"' :: rest => cooked? .terminated rest
  | 'c' :: 'r' :: rest => rawAfterLetters? .terminated rest
  | _ => none

/-- What follows a single quote up to the closing one.  Any one character may stand there, a quote
or a line end too; a byte has to be ASCII. -/
def quotedCharacter? (family : TextFamily) : List Char → Option (List Char)
  | '\\' :: 'x' :: high :: low :: rest => if hexEscape family high low then some rest else none
  | '\\' :: 'u' :: '\x7b' :: rest =>
    if family == .bytes then none else (unicodeEscape? 0 0 rest).map Prod.snd
  | '\\' :: character :: rest => if simpleEscape family character then some rest else none
  | '\\' :: [] => none
  | character :: rest => if plainCharacter family character then some rest else none
  | [] => none

/-- A literal of one character or byte in single quotes. -/
def character1? (characters : List Char) : Option (List Char) :=
  let body := match characters with
    | 'b' :: '\'' :: rest => quotedCharacter? .bytes rest
    | '\'' :: rest => quotedCharacter? .string rest
    | _ => none
  match body with
  | some ('\'' :: rest) => some rest
  | _ => none

/-- The rest behind an identifier at the front, or all of it when there is none. -/
def afterIdentifier : List Char → List Char
  | [] => []
  | first :: rest =>
    if isIdentifierStart first then rest.dropWhile isIdentifierContinue else first :: rest

/-- How the digits before an exponent end. -/
structure Mantissa where
  hasDot : Bool
  hasExponent : Bool
  /-- What is left, from the exponent's letter on if there is one. -/
  rest : List Char

/-- The digits of a floating-point number up to its exponent.  A dot belongs to the number unless
it starts a range or a field access. -/
def mantissa? (hasDot : Bool) : List Char → Option Mantissa
  | [] => some ⟨hasDot, false, []⟩
  | character :: rest =>
    if character.isDigit || character == '_' then mantissa? hasDot rest
    else if character == '.' then
      if hasDot then some ⟨true, false, character :: rest⟩
      else match rest with
        | next :: _ =>
          if next == '.' || isIdentifierStart next then none else mantissa? true rest
        | [] => mantissa? true rest
    else if character == 'e' || character == 'E' then some ⟨hasDot, true, character :: rest⟩
    else some ⟨hasDot, false, character :: rest⟩

/-- The exponent of a floating-point number behind its letter.  Without a digit it is no exponent,
and the number ends where `before` says. -/
def exponent? (before : Option (List Char)) (hasSign hasDigit : Bool) :
    List Char → Option (List Char)
  | [] => if hasDigit then some [] else before
  | character :: rest =>
    if character == '+' || character == '-' then
      if hasDigit then some (character :: rest)
      else if hasSign then before
      else exponent? before true hasDigit rest
    else if character.isDigit then exponent? before hasSign true rest
    else if character == '_' then exponent? before hasSign hasDigit rest
    else if hasDigit then some (character :: rest)
    else before

/-- A floating-point number without its suffix. -/
def floatDigits? (characters : List Char) : Option (List Char) :=
  match characters with
  | first :: rest =>
    if !first.isDigit then none
    else match mantissa? false rest with
      | none => none
      | some mantissa =>
        if mantissa.hasExponent then
          exponent? (if mantissa.hasDot then some mantissa.rest else none)
            false false mantissa.rest.tail
        else if mantissa.hasDot then some mantissa.rest
        else none
  | [] => none

/-- The digits of an integer in the given base.  A decimal number cannot start with an
underscore. -/
def integerDigits? (base : Nat) (noDigit : Bool) : List Char → Option (List Char)
  | [] => if noDigit then none else some []
  | character :: rest =>
    if character == '_' then
      if noDigit && base == 10 then none else integerDigits? base noDigit rest
    else match hexDigit? character with
      | some digit =>
        if digit < base then integerDigits? base false rest
        else if character.isDigit || noDigit then none
        else some (character :: rest)
      | none => if noDigit then none else some (character :: rest)

/-- The base that a number's first characters announce, and what follows them. -/
def baseOf : List Char → Nat × List Char
  | '0' :: 'x' :: rest => (16, rest)
  | '0' :: 'o' :: rest => (8, rest)
  | '0' :: 'b' :: rest => (2, rest)
  | characters => (10, characters)

/-- An integer without its suffix. -/
def integer? (characters : List Char) : Option (List Char) :=
  let (base, digits) := baseOf characters
  integerDigits? base true digits

/-- The rest of a number behind its suffix: an identifier, after which no identifier character may
follow. -/
def numberEnd? (characters : List Char) : Option (List Char) :=
  match afterIdentifier characters with
  | [] => some []
  | next :: rest => if isIdentifierContinue next then none else some (next :: rest)

/-- A literal at the front, and what is left behind it. -/
def literal? (characters : List Char) : Option (List Char) :=
  match text? characters with
  | some rest => some (afterIdentifier rest)
  | none =>
    match character1? characters with
    | some rest => some (afterIdentifier rest)
    | none =>
      match (floatDigits? characters).bind numberEnd? with
      | some rest => some rest
      | none => (integer? characters).bind numberEnd?

/-- An exponent behind its letter: a sign, or digits and underscores with at least one digit that
end the literal or are followed by a suffix. -/
def isExponent (hasDigit : Bool) : List Char → Bool
  | [] => hasDigit
  | character :: rest =>
    if character == '_' then isExponent hasDigit rest
    else if character == '+' || character == '-' then true
    else if character.isDigit then isExponent true rest
    else hasDigit && isIdentifier (character :: rest)

/-- The digits of an integer literal as a number, and the suffix behind them.  `hasDigit` tells
whether a digit was read already. -/
def integerValue? (base value : Nat) (hasDigit : Bool) : List Char → Option (Nat × List Char)
  | [] => if hasDigit then some (value, []) else none
  | character :: rest =>
    let atSuffix := if hasDigit && isIdentifier (character :: rest)
      then some (value, character :: rest) else none
    if character == '_' then integerValue? base value hasDigit rest
    else if base == 10 && character == '.' then none
    else if base == 10 && (character == 'e' || character == 'E') then
      if isExponent false rest then none else atSuffix
    else match hexDigit? character with
      | some digit =>
        if digit < base then integerValue? base (value * base + digit) true rest
        else if character.isDigit then none
        else atSuffix
      | none => atSuffix

/-- The value and the suffix of a literal that is an integer. -/
def integerParts? (characters : List Char) : Option (Nat × List Char) :=
  let (base, digits) := baseOf characters
  integerValue? base 0 false digits

/-- A literal is a number: it starts with a digit. -/
def isNumber (characters : List Char) : Bool :=
  match characters with
  | first :: _ => first.isDigit
  | [] => false

/-- A literal is an integer, perhaps with a suffix. -/
def isInteger (characters : List Char) : Bool :=
  isNumber characters && (integerParts? characters).isSome

/-- A literal is a floating-point number. -/
def isFloat (characters : List Char) : Bool :=
  isNumber characters && (integerParts? characters).isNone

/-- A literal is a string, raw or not. -/
def isString (characters : List Char) : Bool :=
  match characters with
  | '"' :: _ => true
  | 'r' :: _ => true
  | _ => false

end Token
end Instrument
