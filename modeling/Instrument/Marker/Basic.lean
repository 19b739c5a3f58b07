import Instrument.Token.Basic
import Instrument.Tree.Basic

/-!
# Markers

A marker is an attribute that asks for a function to be instrumented.  A kind of marker is known by
its name, which is written bare or behind the name of a crate that exports it.  An attribute that
has arguments, or that is written inside a body, may be spelled like a marker without being one; it
is called malformed and has no effect.
-/

namespace Instrument

/-- A kind of marker: the name of its attribute, and the crates that export it in order. -/
structure MarkerKind where
  name : String
  crates : List String
deriving DecidableEq, Repr, Inhabited

namespace Tree

def word? : Tree Token → Option String
  | .leaf ⟨.word text, _⟩ => some text
  | _ => none

def text : Tree Token → String
  | .leaf token => token.text
  | .node _ _ => ""

def line : Tree Token → Nat
  | .leaf token => token.line
  | .node _ _ => 0

/-- The names of a path none of whose segments has arguments. -/
def plainNames? : List (Tree Token) → Option (List String)
  | [] => some []
  | .node .segment [name, .node .absent []] :: rest =>
    match name.word?, plainNames? rest with
    | some first, some names => some (first :: names)
    | _, _ => none
  | _ :: _ => none

end Tree

namespace MarkerKind

/-- The marker that is recognised unless another one is asked for. -/
def methodLogger : MarkerKind :=
  ⟨"method_logger", ["method_logger_macros", "method_logger"]⟩

/-- Names that spell the marker.  A leading separator has to be followed by a crate. -/
def matchesNames (kind : MarkerKind) (isRooted : Bool) : List String → Bool
  | [only] => !isRooted && only == kind.name
  | [crate, last] => last == kind.name && kind.crates.contains crate
  | _ => false

/-- Segments of a path that spell the marker.  A segment with arguments never does. -/
def matchesSegments (kind : MarkerKind) (isRooted : Bool) (segments : Tree Token) : Bool :=
  match Tree.plainNames? segments.elements with
  | some names => kind.matchesNames isRooted names
  | none => false

def matchesPath (kind : MarkerKind) : Tree Token → Bool
  | .node .path [.node .absent [], segments] => kind.matchesSegments false segments
  | .node .path [.leaf _, segments] => kind.matchesSegments true segments
  | _ => false

/-- The path at the start of an attribute. -/
def attributePath? : Tree Token → Option (Tree Token)
  | .node .outerAttribute [_, _, .node _ (path :: _), _] => some path
  | .node .innerAttribute [_, _, _, .node _ (path :: _), _] => some path
  | _ => none

/-- The attribute is spelled like the marker, well formed or not. -/
def isNamedBy (kind : MarkerKind) (candidate : Tree Token) : Bool :=
  match attributePath? candidate with
  | some path => kind.matchesPath path
  | none => false

/-- The attribute is outer and has no arguments. -/
def isBare : Tree Token → Bool
  | .node .outerAttribute [.leaf _, .leaf _, .node .metaPath [_], .leaf _] => true
  | _ => false

def isMarker (kind : MarkerKind) (candidate : Tree Token) : Bool :=
  isBare candidate && kind.isNamedBy candidate

def strip (kind : MarkerKind) (attributes : List (Tree Token)) : List (Tree Token) :=
  attributes.filter fun candidate => !kind.isMarker candidate

def countMarkers (kind : MarkerKind) (attributes : List (Tree Token)) : Nat :=
  attributes.countP kind.isMarker

end MarkerKind
end Instrument
