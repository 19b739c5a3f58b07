import Instrument.Token.Basic

/-!
# Token strings

A sequence of tokens is shown with one space between neighbours.  There is no space after joint
punctuation, none inside parentheses and square brackets, and exactly one on the inner side of each
brace, which an empty pair of braces shares.
-/

namespace Instrument
namespace Token

/-- What the last written token asks of the next one. -/
inductive Junction where
  /-- Nothing is written yet, or nothing may be put between. -/
  | tight
  | opened
  | spaced
deriving DecidableEq, Repr

/-- The text between the last written token and this one. -/
def gap : Junction → Lexeme → String
  | .opened, _ => ""
  | _, .closing .brace => " "
  | _, .closing _ => ""
  | .spaced, _ => " "
  | .tight, _ => ""

/-- What a lexeme asks of the token after it. -/
def junctionAfter : Lexeme → Junction
  | .mark _ true => .tight
  | .opening .brace => .opened
  | .opening _ => .tight
  | _ => .spaced

/-- A lexeme with the space that an opening brace carries. -/
def shown : Lexeme → String
  | .opening .brace => "\x7b "
  | lexeme => lexeme.text

/-- The token string of a sequence that follows a token with the given demand. -/
def displayFrom : Junction → List Token → String
  | _, [] => ""
  | junction, token :: rest =>
    gap junction token.lexeme ++ shown token.lexeme ++
      displayFrom (junctionAfter token.lexeme) rest

/-- The token string of a sequence of tokens. -/
def display (tokens : List Token) : String :=
  displayFrom .tight tokens

end Token
end Instrument
