/-!
# Tokens

A source text is read as a sequence of tokens.  Brackets are tokens of their own; a sequence is
balanced, so that it can also be read as a sequence of trees.  A token keeps the line it starts on,
because reports name lines, and a punctuation character keeps whether another one follows it
immediately, because `> =` and `>=` differ.
-/

namespace Instrument

/-- The three kinds of brackets. -/
inductive Delimiter where
  | parenthesis
  | bracket
  | brace
deriving DecidableEq, Repr, Inhabited

namespace Delimiter

def opening : Delimiter → String
  | parenthesis => "("
  | bracket => "["
  | brace => "\x7b"

def closing : Delimiter → String
  | parenthesis => ")"
  | bracket => "]"
  | brace => "\x7d"

end Delimiter

/-- What a token is, apart from where it stands. -/
inductive Lexeme where
  /-- An identifier or a keyword, with the `r#` of a raw identifier. -/
  | word (text : String)
  /-- A name for a region or a loop, with its leading quote. -/
  | lifetime (text : String)
  /-- A number, character or string as it is written, with its suffix. -/
  | literal (text : String)
  /-- Punctuation.  A joint one is immediately followed by another punctuation character. -/
  | mark (text : String) (joint : Bool)
  | opening (delimiter : Delimiter)
  | closing (delimiter : Delimiter)
deriving DecidableEq, Repr, Inhabited

/-- A lexeme on the line it starts on.  Lines are counted from one. -/
structure Token where
  lexeme : Lexeme
  line : Nat
deriving DecidableEq, Repr, Inhabited

namespace Lexeme

def text : Lexeme → String
  | word text => text
  | lifetime text => text
  | literal text => text
  | mark text _ => text
  | opening delimiter => delimiter.opening
  | closing delimiter => delimiter.closing

/-- Punctuation that stands for itself, whatever follows it. -/
def alone : Lexeme → Lexeme
  | mark text _ => mark text false
  | other => other

end Lexeme

namespace Token

def text (token : Token) : String :=
  token.lexeme.text

/-- The token with its punctuation read on its own. -/
def alone (token : Token) : Token :=
  ⟨token.lexeme.alone, token.line⟩

end Token
end Instrument
