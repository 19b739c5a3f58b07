import Instrument.Token.Basic
import Instrument.Token.Literal
import Instrument.Text.Blank
import Instrument.Text.Escape

/-!
# From text to tokens

Blanks and comments separate tokens and vanish.  A documentation comment does not: it stands for an
attribute that holds its text, and is read as the tokens of that attribute.  Everything else is a
literal, punctuation, a lifetime, a word or a bracket; a text in which something else stands, or
whose brackets do not match, has no tokens at all.

The text of each token is cut out of the source as it stands, so every word of the result is a
piece of the source, except the word of the attributes that documentation comments stand for.
-/

namespace Instrument
namespace Lexer

open Text Token

/-- The number of line ends in a piece of text. -/
def lineEnds (characters : List Char) : Nat :=
  characters.count '\n'

/-- The rest of a block comment with the given number of open levels, behind its first opening
mark. -/
def blockRest? : Nat → List Char → Option (List Char)
  | _, [] => none
  | depth, '/' :: '*' :: rest => blockRest? (depth + 1) rest
  | 0, '*' :: '/' :: rest => some rest
  | depth + 1, '*' :: '/' :: rest => blockRest? depth rest
  | depth, _ :: rest => blockRest? depth rest

/-- A documentation comment at the front: whether it belongs to what encloses it, its text, and
what is left. -/
structure DocComment where
  isInner : Bool
  content : List Char
  rest : List Char

/-- The text up to a line end.  A carriage return in front of it belongs to the line end. -/
def lineContent : List Char → List Char
  | [] => []
  | '\n' :: _ => []
  | '\r' :: '\n' :: _ => []
  | character :: rest => character :: lineContent rest

/-- A documentation comment that fills the rest of its line. -/
def lineDoc (isInner : Bool) (characters : List Char) : DocComment :=
  let content := lineContent characters
  ⟨isInner, content, characters.drop content.length⟩

/-- A documentation comment between block marks.  `characters` starts behind the opening mark. -/
def blockDoc? (isInner : Bool) (characters : List Char) : Option DocComment :=
  match blockRest? 0 characters with
  | some rest =>
    some ⟨isInner, characters.take (characters.length - rest.length - 2), rest⟩
  | none => none

/-- A text has a carriage return that no line feed follows. -/
def hasBareReturn : List Char → Bool
  | [] => false
  | '\r' :: '\n' :: rest => hasBareReturn rest
  | '\r' :: _ => true
  | _ :: rest => hasBareReturn rest

/-- The documentation comment at the front, if there is one.  Two marks alone, and three that are
followed by a fourth, open an ordinary comment. -/
def docComment? (characters : List Char) : Option DocComment :=
  let found := match characters with
    | '/' :: '/' :: '!' :: rest => some (lineDoc true rest)
    | '/' :: '/' :: '/' :: '/' :: _ => none
    | '/' :: '/' :: '/' :: rest => some (lineDoc false rest)
    | '/' :: '*' :: '!' :: rest => blockDoc? true rest
    | '/' :: '*' :: '*' :: '*' :: _ => none
    | '/' :: '*' :: '*' :: '/' :: _ => none
    | '/' :: '*' :: '*' :: rest => blockDoc? false rest
    | _ => none
  match found with
  | some comment => if hasBareReturn comment.content then none else some comment
  | none => none

/-- What is left behind an ordinary comment at the front. -/
def afterComment? (characters : List Char) : Option (List Char) :=
  match characters with
  | '/' :: '/' :: '!' :: _ => none
  | '/' :: '/' :: '/' :: '/' :: rest => some (rest.dropWhile (· != '\n'))
  | '/' :: '/' :: '/' :: _ => none
  | '/' :: '/' :: rest => some (rest.dropWhile (· != '\n'))
  | '/' :: '*' :: '!' :: _ => none
  | '/' :: '*' :: '*' :: '/' :: rest => some rest
  | '/' :: '*' :: '*' :: '*' :: rest => blockRest? 0 ('*' :: '*' :: rest)
  | '/' :: '*' :: '*' :: _ => none
  | '/' :: '*' :: rest => blockRest? 0 rest
  | _ => none

/-- The characters that form punctuation. -/
def punctuation : List Char :=
  ['~', '!', '@', '#', '$', '%', '^', '&', '*', '-', '=', '+', '|', ';', ':', ',', '<', '.', '>',
    '/', '?', '\'']

/-- Punctuation at the front.  The first character of a comment is none. -/
def startsWithPunctuation : List Char → Bool
  | '/' :: '/' :: _ => false
  | '/' :: '*' :: _ => false
  | character :: _ => punctuation.contains character
  | [] => false

/-- What is left behind an identifier at the front, raw or not.  The names that cannot be raw are
those that a path interprets. -/
def afterWord? (characters : List Char) : Option (List Char) :=
  match characters with
  | 'r' :: '#' :: first :: rest =>
    if isIdentifierStart first then
      let rest' := rest.dropWhile isIdentifierContinue
      let name := String.ofList ((first :: rest).take (rest.length + 1 - rest'.length))
      if name == "_" || name == "super" || name == "self" || name == "Self" || name == "crate"
      then none else some rest'
    else none
  | ['r', '#'] => none
  | first :: rest =>
    if isIdentifierStart first then some (rest.dropWhile isIdentifierContinue) else none
  | [] => none

/-- Beginnings that announce a literal: a literal that is not well formed does not turn into a
word. -/
def literalPrefixes : List (List Char) :=
  [['r', '"'], ['r', '#', '"'], ['r', '#', '#'], ['b', '"'], ['b', '\''], ['b', 'r', '"'],
    ['b', 'r', '#'], ['c', '"'], ['c', 'r', '"'], ['c', 'r', '#']]

/-- What is left behind a lifetime.  One that a quote follows would have been a character. -/
def afterLifetime? (characters : List Char) : Option (List Char) :=
  match characters with
  | '\'' :: name =>
    match afterWord? name with
    | some ('\'' :: _) => none
    | some ('#' :: rest) => if ['r', '#'].isPrefixOf name then some ('#' :: rest) else none
    | some rest => some rest
    | none => none
  | _ => none

/-- The literal that marks a failed expansion.  It looks like a comment in parentheses, but is a
token. -/
def failureMark : List Char :=
  "(/*ERROR*/)".toList

/-- The forms of a token that is cut out of the source. -/
inductive Form where
  | literal
  | lifetime
  | mark
  | word
deriving DecidableEq, Repr

/-- The form of the token at the front and what is left behind it. -/
def form? (characters : List Char) : Option (Form × List Char) :=
  match literal? characters with
  | some rest => some (.literal, rest)
  | none =>
    match characters with
    | '\'' :: _ => (afterLifetime? characters).map fun rest => (.lifetime, rest)
    | _ =>
      if startsWithPunctuation characters then some (.mark, characters.tail)
      else if literalPrefixes.any (·.isPrefixOf characters) then none
      else match afterWord? characters with
        | some rest => some (.word, rest)
        | none =>
          if failureMark.isPrefixOf characters then
            some (.literal, characters.drop failureMark.length)
          else none

def lexeme (form : Form) (text : String) (rest : List Char) : Lexeme :=
  match form with
  | .literal => .literal text
  | .lifetime => .lifetime text
  | .word => .word text
  | .mark => .mark text (startsWithPunctuation rest)

def delimiter? (characters : List Char) : Option (Bool × Delimiter) :=
  match characters with
  | '(' :: _ => if failureMark.isPrefixOf characters then none else some (true, .parenthesis)
  | '[' :: _ => some (true, .bracket)
  | '\x7b' :: _ => some (true, .brace)
  | ')' :: _ => some (false, .parenthesis)
  | ']' :: _ => some (false, .bracket)
  | '\x7d' :: _ => some (false, .brace)
  | _ => none

/-- The attribute that a documentation comment stands for. -/
def docTokens (comment : DocComment) (line : Nat) : List Token :=
  let lexemes : List Lexeme :=
    .mark "#" false :: (if comment.isInner then [.mark "!" false] else []) ++
      [.opening .bracket, .word "doc", .mark "=" false,
        .literal (stringLiteral (String.ofList comment.content)), .closing .bracket]
  lexemes.map fun lexeme => ⟨lexeme, line⟩

/-- One step of reading: the tokens found at the front, the brackets that are open afterwards, and
the number of characters used. -/
structure Step where
  tokens : List Token
  opened : List Delimiter
  used : Nat

/-- What stands at the front of a non-empty text. -/
def step? (opened : List Delimiter) (line : Nat) (characters : List Char) : Option Step :=
  match characters with
  | [] => none
  | first :: _ =>
    if isBlank first then some ⟨[], opened, 1⟩
    else match afterComment? characters with
    | some rest => some ⟨[], opened, characters.length - rest.length⟩
    | none =>
      match docComment? characters with
      | some comment =>
        some ⟨docTokens comment line, opened, characters.length - comment.rest.length⟩
      | none =>
        match delimiter? characters with
        | some (true, delimiter) => some ⟨[⟨.opening delimiter, line⟩], delimiter :: opened, 1⟩
        | some (false, delimiter) =>
          match opened with
          | innermost :: outer =>
            if innermost == delimiter then some ⟨[⟨.closing delimiter, line⟩], outer, 1⟩
            else none
          | [] => none
        | none =>
          match form? characters with
          | some (form, rest) =>
            let used := characters.length - rest.length
            some ⟨[⟨lexeme form (String.ofList (characters.take used)) rest, line⟩], opened, used⟩
          | none => none

/-- The tokens of a text, given the brackets open in front of it and the line it starts on.  Each
step uses at least one character, so the fuel can be the length of the text. -/
def scanFrom : Nat → List Delimiter → Nat → List Char → Option (List Token)
  | _, [], _, [] => some []
  | _, _ :: _, _, [] => none
  | 0, _, _, _ :: _ => none
  | fuel + 1, opened, line, first :: rest =>
    match step? opened line (first :: rest) with
    | none => none
    | some step =>
      let used := (first :: rest).take step.used
      match scanFrom fuel step.opened (line + lineEnds used) ((first :: rest).drop step.used) with
      | some tokens => some (step.tokens ++ tokens)
      | none => none

/-- The mark that some editors put in front of a text to tell its byte order. -/
def byteOrderMark : Char := '\ufeff'

/-- A text behind the byte order mark, if it starts with one. -/
def withoutMark : List Char → List Char
  | first :: rest => if first == byteOrderMark then rest else first :: rest
  | [] => []

/-- The tokens of a text.  One byte order mark in front is not part of it. -/
def tokens? (text : String) : Option (List Token) :=
  let characters := withoutMark text.toList
  scanFrom characters.length [] 1 characters

end Lexer
end Instrument
