import Instrument.Marker.Declaration
import Instrument.SourceFile

/-!
# Instrumenting

Instrumenting a body puts the diagnostic in front of its statements.  A file is instrumented by
doing so to every tagged declaration that has a body, wherever it stands.  Under one policy these
declarations also lose their markers.  Everything else stays as it is.

The new tree does not depend on how declarations are reported, so the two are separate functions:
`instrument` is the tree, and `outcomes` tells what happened to each tagged declaration.
-/

namespace Instrument

/-- What happens to the markers of a declaration that is instrumented.  A declaration without a
body keeps its markers under both policies. -/
inductive MarkerPolicy where
  /-- They are removed, so that instrumenting again changes nothing. -/
  | strip
  /-- They stay, so that instrumenting again adds a second diagnostic. -/
  | retain
deriving DecidableEq, Repr

instance : Inhabited MarkerPolicy := ⟨.strip⟩

namespace Diagnostic

/-- The text that an instrumented function prints. -/
def message : String := "Hello world!!!"

def leaf (lexeme : Lexeme) : Tree Token :=
  .leaf ⟨lexeme, 1⟩

/-- The name of the macro that prints, from the root so that nothing in scope can shadow it. -/
def path : Tree Token :=
  .node .path [leaf (.mark "::" false),
    .sequence [.node .segment [leaf (.word "std"), .absent], leaf (.mark "::" false),
      .node .segment [leaf (.word "println"), .absent]]]

/-- The statement that is put in front of a body. -/
def statement : Tree Token :=
  .node .macroStatement [.sequence [],
    .node .invocation [path, leaf (.mark "!" false), leaf (.opening .parenthesis),
      .node .verbatim [leaf (.literal "\"Hello world!!!\"")], leaf (.closing .parenthesis)],
    leaf (.mark ";" false)]

/-- A block with the diagnostic in front of its statements. -/
def prepend : Tree Token → Tree Token
  | .node .block [opening, .node .sequence statements, closing] =>
    .node .block [opening, .node .sequence (statement :: statements), closing]
  | other => other

end Diagnostic

/-- A sequence of attributes as the policy leaves it. -/
def MarkerPolicy.apply (policy : MarkerPolicy) (kind : MarkerKind) : Tree Token → Tree Token
  | .node .sequence attributes =>
    match policy with
    | .strip => .node .sequence (kind.strip attributes)
    | .retain => .node .sequence attributes
  | other => other

/-- The number of markers that the policy removes from attributes. -/
def MarkerPolicy.lost (policy : MarkerPolicy) (kind : MarkerKind)
    (attributes : List (Tree Token)) : Nat :=
  match policy with
  | .strip => kind.countMarkers attributes
  | .retain => 0

namespace Instrumentation

/-- The declaration is changed: it is tagged and has a body. -/
def isInstrumented (kind : MarkerKind) (declaration : Declaration) : Bool :=
  declaration.isTagged kind && declaration.hasBody

/-- The parts of a declaration, instrumented.  The policy is about all its attributes. -/
def instrumentParts (kind : MarkerKind) (policy : MarkerPolicy) :
    List (Tree Token) → List (Tree Token)
  | [outer, inner, visibility, mode, signature, body] =>
    [policy.apply kind outer, policy.apply kind inner, visibility, mode, signature,
      Diagnostic.prepend body]
  | parts => parts

/-- A node with the given parts is a declaration that is changed. -/
def changesNode (kind : MarkerKind) (node : Kind) (parts : List (Tree Token)) : Bool :=
  match Declaration.ofParts? node parts with
  | some declaration => isInstrumented kind declaration
  | none => false

mutual

/-- The tree with all its tagged bodies instrumented. -/
def instrument (kind : MarkerKind) (policy : MarkerPolicy) : Tree Token → Tree Token
  | .leaf token => .leaf token
  | .node node parts =>
    let inside := instrumentAll kind policy parts
    if changesNode kind node parts then .node node (instrumentParts kind policy inside)
    else .node node inside

/-- Parts with all the tagged bodies in them instrumented. -/
def instrumentAll (kind : MarkerKind) (policy : MarkerPolicy) :
    List (Tree Token) → List (Tree Token)
  | [] => []
  | part :: rest => instrument kind policy part :: instrumentAll kind policy rest

end

/-- What happened to a tagged declaration. -/
inductive Outcome where
  | instrumented (name : String) (stripped : Nat)
  | skipped (name : String)
deriving DecidableEq, Repr

/-- The names of the declarations whose body received the diagnostic. -/
def instrumentedNames (outcomes : List Outcome) : List String :=
  outcomes.filterMap fun
    | .instrumented name _ => some name
    | .skipped _ => none

/-- The names of the tagged declarations that were left alone because they have no body. -/
def skippedNames (outcomes : List Outcome) : List String :=
  outcomes.filterMap fun
    | .instrumented _ _ => none
    | .skipped name => some name

/-- The number of markers that a declaration lost. -/
def Outcome.stripped : Outcome → Nat
  | .instrumented _ stripped => stripped
  | .skipped _ => 0

/-- The number of markers that were removed. -/
def strippedMarkers : List Outcome → Nat
  | [] => 0
  | outcome :: rest => outcome.stripped + strippedMarkers rest

theorem strippedMarkers_append (first second : List Outcome) :
    strippedMarkers (first ++ second) = strippedMarkers first + strippedMarkers second := by
  induction first with
  | nil => exact (Nat.zero_add _).symm
  | cons outcome rest inductionHypothesis =>
      rw [List.cons_append, strippedMarkers, inductionHypothesis, strippedMarkers, Nat.add_assoc]

/-- What happens to a declaration, if it is tagged. -/
def outcome? (kind : MarkerKind) (policy : MarkerPolicy) (owner : Owner)
    (declaration : Declaration) : Option Outcome :=
  if declaration.isTagged kind then
    let name := owner.qualify declaration
    if declaration.hasBody then
      some (.instrumented name (policy.lost kind declaration.attributes))
    else some (.skipped name)
  else none

mutual

/-- What happens to the tagged declarations of a tree, in visiting order. -/
def outcomes (kind : MarkerKind) (policy : MarkerPolicy) (owner : Owner) :
    Tree Token → List Outcome
  | .leaf _ => []
  | .node node parts =>
    ((Declaration.ofParts? node parts).bind (outcome? kind policy owner)).toList ++
      outcomesOfParts kind policy (owner.inside node parts) parts

/-- What happens to the tagged declarations of the parts of a node. -/
def outcomesOfParts (kind : MarkerKind) (policy : MarkerPolicy) (owner : Owner) :
    List (Tree Token) → List Outcome
  | [] => []
  | part :: rest => outcomes kind policy owner part ++ outcomesOfParts kind policy owner rest

end

end Instrumentation

/-- An instrumented file and what happened to its declarations. -/
structure InstrumentedFile where
  file : SourceFile
  outcomes : List Instrumentation.Outcome
deriving DecidableEq, Repr

namespace InstrumentedFile

/-- The declarations whose body received the diagnostic, in visiting order. -/
def instrumented (result : InstrumentedFile) : List String :=
  Instrumentation.instrumentedNames result.outcomes

/-- The tagged declarations that were left alone because they have no body. -/
def skipped (result : InstrumentedFile) : List String :=
  Instrumentation.skippedNames result.outcomes

/-- The number of markers that were removed. -/
def stripped (result : InstrumentedFile) : Nat :=
  Instrumentation.strippedMarkers result.outcomes

/-- Something was changed. -/
def changed (result : InstrumentedFile) : Bool :=
  !result.instrumented.isEmpty || decide (0 < result.stripped)

end InstrumentedFile

/-- Instrument a file for a kind of marker. -/
def SourceFile.instrument (kind : MarkerKind) (policy : MarkerPolicy) (file : SourceFile) :
    InstrumentedFile :=
  ⟨{ file with tree := Instrumentation.instrument kind policy file.tree },
    Instrumentation.outcomes kind policy none file.tree⟩

end Instrument
