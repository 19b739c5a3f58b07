import Instrument.Token.Basic
import Instrument.Token.Literal
import Instrument.Tree.Basic

/-!
# Tokens to be parsed, and trees that cite them

A parser sees the tokens of a text by their positions.  The tree it builds does not hold tokens: its
leaves are citations, which say by position what part of the source they stand for.  Looking the
citations up afterwards gives the tree of tokens.  A parser therefore cannot invent a word, and
that every name in a parsed tree stands in the source is a fact about `Citation.token` alone,
however the grammar is written.
-/

namespace Instrument

/-- A sequence of tokens with the end of each token tree. -/
structure Source where
  tokens : Array Token
  /-- At the position of an opening bracket, the position behind its closing one; elsewhere the
  next position. -/
  ends : Array Nat
deriving Inhabited

namespace Source

/-- The ends of the token trees of a balanced sequence that starts at the given position, together
with the ends of the groups that are closed but not opened in it. -/
def endsFrom : Nat → List Token → List Nat × List Nat
  | _, [] => ([], [])
  | position, token :: rest =>
    let (ends, closed) := endsFrom (position + 1) rest
    match token.lexeme with
    | .closing _ => ((position + 1) :: ends, (position + 1) :: closed)
    | .opening _ =>
      match closed with
      | groupEnd :: outer => (groupEnd :: ends, outer)
      | [] => ((position + 1) :: ends, [])
    | _ => ((position + 1) :: ends, closed)

def ofTokens (tokens : List Token) : Source :=
  ⟨tokens.toArray, (endsFrom 0 tokens).1.toArray⟩

end Source

/-- What a leaf of a parsed tree stands for. -/
inductive Citation where
  | read (position : Nat)
  /-- One token, kept with its distance to the next. -/
  | kept (position : Nat)
  /-- Adjoining punctuation that is read as one operator. -/
  | operator (position count : Nat)
  | number (position : Nat)
  /-- One of the two numbers in `0.1` where it stands for two field accesses. -/
  | piece (position start length : Nat)
  /-- The dot between the two numbers in `0.1`. -/
  | dot (position : Nat)
  /-- Punctuation that the source leaves out, on the line of the token at a position. -/
  | implied (mark : String) (position : Nat)
deriving DecidableEq, Repr, Inhabited

namespace Citation

/-- What stands at a position that is not in the source. -/
def nothing : Token :=
  ⟨.mark "" false, 0⟩

/-- The value of the decimal digits, or the digits of another base, that a literal starts with. -/
def numberText (text : String) : String :=
  match Token.integerParts? text.toList with
  | some (value, _) => toString value
  | none => text

/-- The token that a citation stands for. -/
def token (source : Source) : Citation → Token
  | read position => (source.tokens.getD position nothing).alone
  | kept position => source.tokens.getD position nothing
  | operator position count =>
    let marks := (source.tokens.extract position (position + count)).toList
    ⟨.mark (String.join (marks.map Token.text)) false, (source.tokens.getD position nothing).line⟩
  | number position =>
    let cited := source.tokens.getD position nothing
    ⟨.literal (numberText cited.text), cited.line⟩
  | piece position start length =>
    let cited := source.tokens.getD position nothing
    let text := String.ofList ((cited.text.toList.drop start).take length)
    ⟨.literal (numberText text), cited.line⟩
  | dot position => ⟨.mark "." false, (source.tokens.getD position nothing).line⟩
  | implied mark position => ⟨.mark mark false, (source.tokens.getD position nothing).line⟩

end Citation
end Instrument
