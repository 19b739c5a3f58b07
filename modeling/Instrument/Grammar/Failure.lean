import Instrument.Token.Basic

/-!
# Why a text is not in the language

A failure is kept as its cause; the wording is one function on causes.  A report starts with
`unexpected end of input` when there was nothing left to read at the place of the failure, except
for the causes that never look at what follows.
-/

namespace Instrument

/-- A piece of syntax that can be looked for at a place of the source. -/
inductive Terminal where
  /-- A keyword, or a word that only its place makes a keyword. -/
  | keyword (text : String)
  | mark (text : String)
  /-- A word that is not reserved. -/
  | identifier
  | word
  | lifetime
  | literal
  | stringLiteral
  | integer
  | float
  | group (delimiter : Delimiter)
deriving DecidableEq, Repr

namespace Terminal

/-- How a report names a piece of syntax. -/
def describe : Terminal → String
  | keyword text => "`" ++ text ++ "`"
  | mark text => "`" ++ text ++ "`"
  | identifier => "identifier"
  | word => "ident"
  | lifetime => "lifetime"
  | literal => "literal"
  | stringLiteral => "string literal"
  | integer => "integer literal"
  | float => "floating point literal"
  | group .parenthesis => "parentheses"
  | group .bracket => "square brackets"
  | group .brace => "curly braces"

end Terminal

/-- The cause of a failure. -/
inductive Cause where
  | noTokens
  | expected (alternatives : List Terminal)
  | reserved (word : String)
  | missing (what : String)
  | leftover (inside : Option Delimiter)
  | unterminatedStatement
  | refused (reason : String)
  /-- The rules refer to each other more deeply than they are interpreted. -/
  | exhausted
deriving DecidableEq, Repr

/-- A cause, and whether the source was at its end there. -/
structure Failure where
  atEnd : Bool
  cause : Cause
deriving DecidableEq, Repr

namespace Cause

/-- The alternatives of an expectation as a phrase. -/
def alternativesPhrase : List Terminal → String
  | [] => "unexpected token"
  | [only] => "expected " ++ only.describe
  | [first, second] => "expected " ++ first.describe ++ " or " ++ second.describe
  | alternatives =>
    "expected one of: " ++ String.intercalate ", " (alternatives.map Terminal.describe)

/-- The wording of a cause, apart from the end of the input. -/
def message : Cause → String
  | noTokens => "cannot parse string into token stream"
  | expected alternatives => alternativesPhrase alternatives
  | reserved word => "expected identifier, found keyword `" ++ word ++ "`"
  | missing what => "expected " ++ what
  | leftover none => "unexpected token"
  | leftover (some delimiter) => "unexpected token, expected `" ++ delimiter.closing ++ "`"
  | unterminatedStatement => "unexpected token, expected `;`"
  | refused reason => reason
  | exhausted => "unexpected token"

end Cause

namespace Failure

def message (failure : Failure) : String :=
  if failure.atEnd then
    if failure.cause = .expected [] then "unexpected end of input"
    else "unexpected end of input, " ++ failure.cause.message
  else failure.cause.message

end Failure
end Instrument
