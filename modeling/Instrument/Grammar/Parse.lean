import Instrument.Grammar.Item
import Instrument.Token.Lexer

/-!
# Parsing

The rules refer to each other by name, and `interpret` gives each name its rule.  This is the only
recursion of the grammar.  Its depth is a multiple of the number of tokens: between two tokens that
are read, only a bounded number of names is passed, so a text is never rejected for lack of depth
(`ne_exhausted_of_parseText`), and a greater depth makes no difference (`reading_of_le`).

The result of a parse is a tree of tokens.  Each leaf is looked up in the source, by
`Citation.token`.
-/

namespace Instrument
namespace Grammar

open Instrument.Parser

def rule [Rules] : Symbol → Parser Node
  | .expression allowStruct => expression allowStruct
  | .leadingExpression => leadingExpression
  | .operand allowStruct => operand allowStruct
  | .operators left allowStruct weakest => operators left allowStruct weakest
  | .blockExpression => blockExpression
  | .statements => statements
  | .type allowPlus => type allowPlus
  | .bound allowCapture allowConst => bound allowCapture allowConst
  | .pattern => pattern
  | .itemBehind start attributes => itemBehind start attributes
  | .useTree allowRoot => useTree allowRoot

/-- The rules with their names interpreted to a depth. -/
def interpret : Nat → Symbol → Parser Node
  | 0, _ => throw ⟨false, .exhausted⟩
  | depth + 1, symbol => @rule ⟨interpret depth⟩ symbol

/-- The grammar for a source of the given number of tokens. -/
@[reducible] def rulesFor (count : Nat) : Rules :=
  ⟨interpret (16 * (count + 4))⟩

/-- The result of parsing all of a sequence of tokens: a tree that cites the source, or the failure.
A group that was left before its end is a failure, and so is a token behind the end. -/
def cite (start : [Rules] → Parser Node) (source : Source) : Except Failure Node :=
  let count := source.tokens.size
  match (@start (rulesFor count)).run source |>.run ⟨0, count, none⟩ with
  | .error failure => .error failure
  | .ok (tree, cursor) =>
    match cursor.leftover with
    | some delimiter => .error ⟨false, .leftover (some delimiter)⟩
    | none =>
      if cursor.position < count then .error ⟨false, .leftover none⟩ else .ok tree

def parseTokens (start : [Rules] → Parser Node) (tokens : List Token) :
    Except Failure (Tree Token) :=
  let source := Source.ofTokens tokens
  match cite start source with
  | .ok tree => .ok (tree.map (Citation.token source))
  | .error failure => .error failure

def parseText (start : [Rules] → Parser Node) (text : String) : Except Failure (Tree Token) :=
  match Lexer.tokens? text with
  | some tokens => parseTokens start tokens
  | none => .error ⟨false, .noTokens⟩

end Grammar
end Instrument
