import Instrument.Grammar.Parse
import Instrument.Instrumentation

/-!
# Expanding one marker

The marker can also be expanded where it stands: the tokens of the declaration behind it become the
tokens of the instrumented declaration.  The markers that the declaration still carries belong to
the same request and are removed; functions inside its body are left to their own markers.
-/

namespace Instrument
namespace Expand

/-- Why a marker cannot be expanded. -/
inductive Refusal where
  | arguments
  | constFn
  | notFunction
deriving DecidableEq, Repr

def Refusal.message (kind : MarkerKind) : Refusal → String
  | arguments => "#[" ++ kind.name ++ "] takes no arguments"
  | constFn => "#[" ++ kind.name ++ "] cannot be applied to a const fn"
  | notFunction => "#[" ++ kind.name ++ "] can only be applied to functions"

/-- The tokens that report a message to the compiler in place of a declaration. -/
def compileError (message : String) : List Token :=
  let lexemes : List Lexeme :=
    [.mark "::" false, .word "core", .mark "::" false, .word "compile_error", .mark "!" false,
      .opening .brace, .literal (Text.stringLiteral message), .closing .brace]
  lexemes.map fun lexeme => ⟨lexeme, 1⟩

/-- The first form that the tokens have. -/
def declarationTree? (tokens : List Token) : Option (Tree Token) :=
  match Grammar.parseTokens Grammar.function tokens with
  | .ok tree => some tree
  | .error _ =>
    match Grammar.parseTokens Grammar.traitFunction tokens with
    | .ok tree => some tree
    | .error _ =>
      match Grammar.parseTokens Grammar.foreignFunction tokens with
      | .ok tree => some tree
      | .error _ => none

/-- The declaration without its markers and with the diagnostic in front of its body. -/
def expandTree (kind : MarkerKind) : Tree Token → Tree Token
  | .node node parts => .node node (Instrumentation.instrumentParts kind .strip parts)
  | other => other

/-- A declaration of this kind is refused when it is evaluated early. -/
def refusesConst (node : Kind) (declaration : Declaration) : Bool :=
  node != .foreignFunction && declaration.isConst

/-- Expand a marker with the given arguments on a declaration.  Functions of `extern` blocks are
not checked for early evaluation. -/
def expand (kind : MarkerKind) (arguments declared : List Token) :
    Except Refusal (Tree Token) :=
  if !arguments.isEmpty then .error .arguments
  else match declarationTree? declared with
  | some (.node node parts) =>
    match Declaration.ofParts? node parts with
    | some declaration =>
      if refusesConst node declaration then .error .constFn
      else .ok (expandTree kind (.node node parts))
    | none => .error .notFunction
  | _ => .error .notFunction

end Expand
end Instrument
