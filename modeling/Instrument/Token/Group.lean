import Instrument.Token.Basic

/-!
# Groups of tokens

A balanced sequence of tokens is a sequence of trees, in which a pair of brackets with all that
stands between them is one tree.  A lifetime is taken apart into its quote and its name, which is
how it looks to everything that reads trees.
-/

namespace Instrument

/-- A token, or a group of tokens in brackets. -/
inductive TokenTree where
  | single (lexeme : Lexeme)
  | group (delimiter : Delimiter) (content : List TokenTree)
deriving Repr, Inhabited

namespace TokenTree

/-- The trees of one token that is not a bracket. -/
def ofLexeme : Lexeme → List TokenTree
  | .lifetime text => [.single (.mark "'" true), .single (.word (String.ofList (text.toList.drop 1)))]
  | lexeme => [.single lexeme]

/-- The trees at the front of a sequence, followed by those behind each bracket that is closed but
not opened in it. -/
def levels : List Token → List (List TokenTree)
  | [] => [[]]
  | token :: rest =>
    match token.lexeme, levels rest with
    | .closing _, inner => [] :: inner
    | .opening delimiter, content :: behind :: outer => (.group delimiter content :: behind) :: outer
    | lexeme, behind :: outer => (ofLexeme lexeme ++ behind) :: outer
    | _, [] => []

def ofTokens (tokens : List Token) : List TokenTree :=
  (levels tokens).headD []

end TokenTree
end Instrument
