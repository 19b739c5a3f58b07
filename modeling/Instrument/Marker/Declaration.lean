import Instrument.Marker.Basic

/-!
# Declarations of functions

A marker has a meaning only on something that can be called.  `Declaration` is the view of a node
that declares a function; every other node has none, so nothing else can be reported as tagged.
-/

namespace Instrument

/-- Where a function is declared. -/
inductive Callable where
  /-- By itself, also inside the body of another function. -/
  | free
  | method
  | traitMethod
  | foreign
deriving DecidableEq, Repr

namespace Callable

/-- The place where a kind of node declares a function. -/
def ofKind? : Kind → Option Callable
  | .function => some free
  | .implFunction => some method
  | .traitFunction => some traitMethod
  | .foreignFunction => some foreign
  | _ => none

/-- The function is reported together with what contains it. -/
def isOwned : Callable → Bool
  | method | traitMethod => true
  | free | foreign => false

end Callable

/-- A function that a node declares. -/
structure Declaration where
  callable : Callable
  outer : Tree Token
  inner : Tree Token
  signature : Tree Token
  /-- The body, or the semicolon in its place. -/
  body : Tree Token

namespace Declaration

/-- The declaration that a node with the given parts is. -/
def ofParts? (kind : Kind) (parts : List (Tree Token)) : Option Declaration :=
  match Callable.ofKind? kind, parts with
  | some callable, [outer, inner, _, _, signature, body] =>
    some ⟨callable, outer, inner, signature, body⟩
  | _, _ => none

/-- The attributes of a declaration, those inside its body last. -/
def attributes (declaration : Declaration) : List (Tree Token) :=
  declaration.outer.elements ++ declaration.inner.elements

/-- The part of the signature at a place, nothing if there is none. -/
def signaturePart (declaration : Declaration) (place : Nat) : Tree Token :=
  match declaration.signature with
  | .node .signature parts => parts.getD place .absent
  | _ => .absent

def name (declaration : Declaration) : String :=
  (declaration.signaturePart 5).text

/-- The line of the keyword that introduces the function. -/
def line (declaration : Declaration) : Nat :=
  (declaration.signaturePart 4).line

/-- The function is evaluated while the program is compiled. -/
def isConst (declaration : Declaration) : Bool :=
  (declaration.signaturePart 0).isPresent

def statements? (declaration : Declaration) : Option (List (Tree Token)) :=
  match declaration.body with
  | .node .block [_, .node .sequence statements, _] => some statements
  | _ => none

def hasBody (declaration : Declaration) : Bool :=
  declaration.statements?.isSome

/-- A body that is evaluated while the program is compiled cannot print, so a marker has no meaning
there. -/
def acceptsMarker (declaration : Declaration) : Bool :=
  !declaration.isConst

/-- One of the attributes is a marker. -/
def isMarked (kind : MarkerKind) (declaration : Declaration) : Bool :=
  declaration.attributes.any kind.isMarker

/-- The function is to be instrumented.  Several markers count once, and malformed ones do not
count. -/
def isTagged (kind : MarkerKind) (declaration : Declaration) : Bool :=
  declaration.acceptsMarker && declaration.isMarked kind

end Declaration

/-- What the functions of a block are reported with: the type or trait it is for. -/
abbrev Owner := Option String

namespace Owner

/-- The segments of a path that stand behind the type it may start in. -/
def segments : Tree Token → List (Tree Token)
  | .node .path parts => (parts.getD 1 .absent).elements
  | .node .qualifiedPath parts => (parts.getD 6 .absent).elements
  | _ => []

/-- The name of a segment, or a placeholder where there is none. -/
def segmentName : Tree Token → String
  | .node .segment (name :: _) => name.text
  | _ => "_"

/-- The name of a type in reports: the last name of its path, or a placeholder. -/
def typeName : Tree Token → String
  | .node .pathType [path] => segmentName ((segments path).getLast?.getD .absent)
  | _ => "_"

/-- The owner of what the parts of a node declare.  An `impl` block and a trait own what they
contain; what the body of a free function contains has no owner; other nodes change nothing. -/
def inside (owner : Owner) (kind : Kind) (parts : List (Tree Token)) : Owner :=
  match kind with
  | .implItem => some (typeName (parts.getD 8 .absent))
  | .traitItem => some (parts.getD 6 .absent).text
  | .function => none
  | _ => owner

/-- The name of a declaration in reports: bare for free and foreign functions, behind the owner for
members of `impl` blocks and traits. -/
def qualify (owner : Owner) (declaration : Declaration) : String :=
  match declaration.callable.isOwned, owner with
  | true, some container => container ++ "::" ++ declaration.name
  | _, _ => declaration.name

end Owner

mutual

/-- The declarations in a tree in visiting order, an outer one before those inside it. -/
def declarations : Tree Token → List Declaration
  | .leaf _ => []
  | .node kind parts => (Declaration.ofParts? kind parts).toList ++ declarationsOfParts parts

/-- The declarations in the parts of a node. -/
def declarationsOfParts : List (Tree Token) → List Declaration
  | [] => []
  | part :: rest => declarations part ++ declarationsOfParts rest

end

end Instrument
