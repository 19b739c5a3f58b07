import Instrument.Toml.Text

/-!
# Numbers, dates and times

All of them start with a digit or a sign.  Which of them a text is turns out on the way, and from
then on every further failure is final.
-/

namespace Instrument
namespace Toml

open Instrument.Toml.Parser

def isDigit (character : Char) : Bool :=
  '0' ≤ character && character ≤ '9'

def isSign (character : Char) : Bool :=
  character == '+' || character == '-'

/-- More digits of a class, with single underscores between them. -/
def moreDigits (isInBase : Char → Bool) : Parser Unit := do
  let _ ← many (either (satisfy isInBase) (do
    let _ ← char '_'
    expecting ["digit"] (final (satisfy isInBase))))

/-- A decimal integer with its sign.  It does not start with a zero unless it is one. -/
def decimalInteger : Parser (List Char) := label "integer" (spelled do
  let _ ← optional (satisfy isSign)
  either (do
    let _ ← satisfy fun character => isDigit character && character != '0'
    moreDigits isDigit) (do let _ ← satisfy isDigit))

def zeroPrefixed : Parser Unit := do
  let _ ← satisfy isDigit
  moreDigits isDigit

/-- The value of digits in a base.  Underscores do not count. -/
def digitsValue (base : Nat) (digits : List Char) : Nat :=
  (digits.filter (· != '_')).foldl (fun value digit =>
    value * base + (Token.hexDigit? digit).getD 0) 0

/-- The integers of 64 bits are below this one. -/
def integerBound : Int := Nat.pow 2 63

/-- A number as a signed integer of 64 bits. -/
def bounded (value : Int) : Except Conflict Scalar :=
  if value < -integerBound then .error .tooSmall
  else if integerBound ≤ value then .error .tooLarge
  else .ok (.integer value)

/-- The value of a decimal integer with its sign. -/
def signedValue : List Char → Int
  | '-' :: digits => -(digitsValue 10 digits : Int)
  | '+' :: digits => digitsValue 10 digits
  | digits => digitsValue 10 digits

/-- An integer in a base behind its mark. -/
def basedInteger (mark name : String) (base : Nat) : Parser Scalar :=
  let isInBase (character : Char) : Bool :=
    match Token.hexDigit? character with
    | some digit => digit < base
    | none => false
  final (meaning (label name (do
    literal mark
    final (spelled do
      let _ ← satisfy isInBase
      moreDigits isInBase))) fun digits => bounded (digitsValue base digits))

def integer : Parser Scalar := do
  match ← rest with
  | '0' :: 'x' :: _ => basedInteger "0x" "hexadecimal integer" 16
  | '0' :: 'o' :: _ => basedInteger "0o" "octal integer" 8
  | '0' :: 'b' :: _ => basedInteger "0b" "binary integer" 2
  | _ =>
    decided decimalInteger fun written =>
      match bounded (signedValue written) with
      | .ok value => .ok value
      | .error conflict => .error (some conflict)

/-- The exponent of a floating-point number. -/
def exponent : Parser Unit := do
  let _ ← satisfy fun character => character == 'e' || character == 'E'
  let _ ← optional (satisfy isSign)
  final zeroPrefixed

/-- The fraction of a floating-point number. -/
def fraction : Parser Unit := do
  let _ ← char '.'
  expecting ["digit"] (final zeroPrefixed)

/-- The smallest number that is rounded to infinity. -/
def overflow : Nat := Nat.pow 2 1024 - Nat.pow 2 970

/-- A positive decimal number is rounded to infinity: its digits as an integer, how many there are,
and the power of ten they are multiplied by. -/
def overflows (digits : Nat) (count : Nat) (power : Int) : Bool :=
  if digits == 0 || count + power < 308 then false
  else if 310 < count + power then true
  else if 0 ≤ power then overflow ≤ digits * Nat.pow 10 power.toNat
  else overflow * Nat.pow 10 (-power).toNat ≤ digits

/-- The number that is written is rounded to infinity. -/
def isInfinite (written : List Char) : Bool :=
  let plain := written.filter fun character => character != '_' && character != '+'
  let mantissa := plain.takeWhile fun character => character != 'e' && character != 'E'
  let power := signedValue ((plain.dropWhile fun character =>
    character != 'e' && character != 'E').drop 1)
  let digits := (mantissa.filter (· != '.')).dropWhile (· == '0')
  let places := ((mantissa.dropWhile (· != '.')).drop 1).length
  written.head? != some '-' && overflows (digitsValue 10 digits) digits.length (power - places)

/-- Infinity, or what is not a number. -/
def specialFloat : Parser (List Char) := spelled do
  let _ ← optional (satisfy isSign)
  either (literal "inf") (literal "nan")

def float : Parser Scalar := label "floating-point number" do
  let ordinary := spelled do
    let _ ← decimalInteger
    either exponent (do
      fraction
      let _ ← optional exponent)
  let written ← either (decided ordinary fun written =>
    if isInfinite written then .error none else .ok written) specialFloat
  return .float (String.ofList written)

def digits (count : Nat) : Parser Nat := do
  let found ← checked (takeAtMost count isDigit) fun found =>
    if found.length == count then .ok found else .error none
  return digitsValue 10 found

def twoDigits (least most : Nat) : Parser Nat :=
  meaning (digits 2) fun value =>
    if least ≤ value && value ≤ most then .ok value else .error .outOfRange

/-- The number of days of a month. -/
def daysOf (year month : Nat) : Nat :=
  let isLeap := year % 4 == 0 && (year % 100 != 0 || year % 400 == 0)
  if month == 2 then if isLeap then 29 else 28
  else if [4, 6, 9, 11].contains month then 30
  else 31

def date : Parser Unit := do
  let year ← digits 4
  let _ ← char '-'
  let month ← final (twoDigits 1 12)
  let _ ← final (char '-')
  let _ ← final (meaning (twoDigits 1 31) fun day =>
    if day ≤ daysOf year month then .ok day else .error .outOfRange)

def time : Parser Unit := do
  let _ ← twoDigits 0 23
  let _ ← char ':'
  final do
    let _ ← twoDigits 0 59
    let _ ← char ':'
    let _ ← twoDigits 0 60
    let _ ← optional do
      let _ ← char '.'
      takeWhile 1 isDigit

/-- The offset of a time from universal time. -/
def timeOffset : Parser Unit := label "time offset" (either
  (do let _ ← satisfy fun character => character == 'Z' || character == 'z')
  (do
    let _ ← satisfy isSign
    final do
      let _ ← twoDigits 0 23
      let _ ← char ':'
      let _ ← twoDigits 0 59))

/-- A character between a date and a time. -/
def isTimeMark (character : Char) : Bool :=
  character == 'T' || character == 't' || character == ' '

def moment : Parser Scalar := do
  let written ← either
    (label "date-time" (spelled do
      date
      let _ ← optional do
        let _ ← satisfy isTimeMark
        time
        optional timeOffset))
    (label "time" (spelled time))
  return .moment (String.ofList written)

/-- A number, a date or a time. -/
def number : Parser Scalar :=
  either moment (either float integer)

end Toml
end Instrument
