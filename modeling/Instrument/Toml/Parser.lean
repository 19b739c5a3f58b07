import Instrument.Toml.Build

/-!
# Parsers for settings

A parser reads characters from the front of a text, or fails.  A failure is passed on to the next
alternative unless it is final, which it is once the text before it leaves no other reading.  It
names the place where it was noticed by what was left to be read there.
-/

namespace Instrument
namespace Toml

/-- Why a text cannot be read. -/
structure Failure where
  /-- There is no other reading to be tried. -/
  isFinal : Bool
  /-- What was left when the failure was noticed. -/
  rest : List Char
  /-- The innermost construct that was being read. -/
  label : Option String
  expected : List String
  cause : Option Conflict
deriving DecidableEq, Repr

/-- A function from a text to a result and the rest of the text. -/
abbrev Parser (α : Type) := List Char → Except Failure (α × List Char)

namespace Parser

variable {α β : Type}

instance : Monad Parser where
  pure value := fun rest => .ok (value, rest)
  bind parser next := fun text =>
    match parser text with
    | .ok (value, rest) => next value rest
    | .error failure => .error failure

def fail : Parser α :=
  fun rest => .error ⟨false, rest, none, [], none⟩

def rest : Parser (List Char) :=
  fun rest => .ok (rest, rest)

/-- The next character, which is not read. -/
def peek : Parser Char
  | first :: rest => .ok (first, first :: rest)
  | [] => fail []

def satisfy (condition : Char → Bool) : Parser Char
  | first :: rest => if condition first then .ok (first, rest) else fail (first :: rest)
  | [] => fail []

def char (character : Char) : Parser Char :=
  satisfy (· == character)

/-- Read a text, all of it or nothing. -/
def literal (expected : String) : Parser Unit :=
  fun text =>
    if expected.toList.isPrefixOf text then .ok ((), text.drop expected.length) else fail text

/-- Read all characters of a class, at least some number of them. -/
def takeWhile (least : Nat) (condition : Char → Bool) : Parser (List Char) :=
  fun text =>
    let taken := text.takeWhile condition
    if taken.length < least then fail text else .ok (taken, text.drop taken.length)

/-- Read at most some number of characters of a class. -/
def takeAtMost (most : Nat) (condition : Char → Bool) : Parser (List Char) :=
  fun text =>
    let taken := (text.take most).takeWhile condition
    .ok (taken, text.drop taken.length)

def atEnd : Parser Unit
  | [] => .ok ((), [])
  | rest => fail rest

/-- A failure of the parser is final. -/
def final (parser : Parser α) : Parser α :=
  fun text =>
    match parser text with
    | .ok result => .ok result
    | .error failure => .error { failure with isFinal := true }

/-- A failure of the parser is a failure to read the construct. -/
def label (name : String) (parser : Parser α) : Parser α :=
  fun text =>
    match parser text with
    | .ok result => .ok result
    | .error failure => .error { failure with label := failure.label <|> some name }

/-- A failure of the parser tells what could have stood there. -/
def expecting (names : List String) (parser : Parser α) : Parser α :=
  fun text =>
    match parser text with
    | .ok result => .ok result
    | .error failure => .error { failure with expected := failure.expected ++ names }

/-- Read as the first parser, or as the second one if that fails. -/
def either (first second : Parser α) : Parser α :=
  fun text =>
    match first text with
    | .ok result => .ok result
    | .error failure => if failure.isFinal then .error failure else second text

/-- Read as the parser, or nothing if that fails. -/
def optional (parser : Parser α) : Parser (Option α) :=
  fun text =>
    match parser text with
    | .ok (value, rest) => .ok (some value, rest)
    | .error failure => if failure.isFinal then .error failure else .ok (none, text)

/-- Read ahead, and stay in front of what was read. -/
def ahead (parser : Parser α) : Parser α :=
  fun text =>
    match parser text with
    | .ok (value, _) => .ok (value, text)
    | .error failure => .error failure

/-- Fail in front of what was read, with a cause if there is one. -/
def checked (parser : Parser α) (check : α → Except (Option Conflict) β) : Parser β :=
  fun text =>
    match parser text with
    | .error failure => .error failure
    | .ok (value, rest) =>
      match check value with
      | .ok result => .ok (result, rest)
      | .error cause => .error ⟨false, text, none, [], cause⟩

/-- Give what was read a meaning, or fail in front of it. -/
def meaning (parser : Parser α) (interpret : α → Except Conflict β) : Parser β :=
  checked parser fun value =>
    match interpret value with
    | .ok result => .ok result
    | .error conflict => .error (some conflict)

/-- Give what was read its only possible meaning, or fail for good in front of it. -/
def decided (parser : Parser α) (interpret : α → Except (Option Conflict) β) : Parser β :=
  fun text =>
    match parser text with
    | .error failure => .error failure
    | .ok (value, rest) =>
      match interpret value with
      | .ok result => .ok (result, rest)
      | .error cause => .error ⟨true, text, none, [], cause⟩

def spelled (parser : Parser α) : Parser (List Char) :=
  fun text =>
    match parser text with
    | .ok (_, rest) => .ok (text.take (text.length - rest.length), rest)
    | .error failure => .error failure

/-- Repeat a step on a value until the step fails, or a number of times. -/
def iterate (step : α → Parser α) : Nat → α → Parser α
  | 0, value => pure value
  | fuel + 1, value => do
    match ← optional (step value) with
    | some next => iterate step fuel next
    | none => return value

/-- Repeat a step on a value until the step fails, at most once for each character of the text. -/
def repeating (initial : α) (step : α → Parser α) : Parser α :=
  fun text => iterate step text.length initial text

def many (parser : Parser α) : Parser (List α) := do
  let found ← repeating [] fun found => do return (← parser) :: found
  return found.reverse

def someOf (parser : Parser α) : Parser (List α) := do
  let first ← parser
  return first :: (← many parser)

/-- Read at least once, with a separator in between.  A separator that nothing follows is left. -/
def separated (separator : Parser β) (parser : Parser α) : Parser (List α) := do
  let first ← parser
  return first :: (← many do
    let _ ← separator
    parser)

/-- Read any number of times, with a separator in between. -/
def separatedOrNone (separator : Parser β) (parser : Parser α) : Parser (List α) := do
  return (← optional (separated separator parser)).getD []

end Parser
end Toml
end Instrument
