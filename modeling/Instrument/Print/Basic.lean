import Instrument.Layout.Document
import Instrument.Marker.Basic

/-!
# Printed trees

A tree is printed from the leaves up: the rule for a node is given its parts together with their
documents and composes them.  A construct may be written in several ways, according to where it
stands, so a printed part has one document for each manner, and the rule of the node around it
chooses.  The parts stay within reach, because some rules look further than one level down.
-/

namespace Instrument
namespace Print

open Layout

/-- The manner in which a construct is written. -/
inductive Manner where
  | plain
  /-- An expression at the start of a line: a short receiver keeps its first method next to it. -/
  | lineStart
  /-- A receiver inside a longer chain of methods, which has one box for the whole chain.  The
  parameter tells whether the chain starts its line. -/
  | chained (startsLine : Bool)
  | condition
  /-- A path in an expression: generic arguments follow a separator. -/
  | value
  /-- A path of names alone: generic arguments are left out. -/
  | bare
  /-- An invocation with a semicolon behind it, unless it ends in a brace. -/
  | terminated
deriving DecidableEq, Repr, Inhabited

/-- A tree with the documents of each of its nodes. -/
structure Printed where
  tree : Tree Token
  document : Manner → Document
  parts : List Printed
deriving Inhabited

namespace Printed

/-- The document of a part as its kind asks. -/
def plain (part : Printed) : Document :=
  part.document .plain

def isAbsent (part : Printed) : Bool :=
  part.tree.isAbsent

def isPresent (part : Printed) : Bool :=
  part.tree.isPresent

def isKind (part : Printed) (kind : Kind) : Bool :=
  part.tree.isKind kind

def word (part : Printed) : String :=
  part.tree.text

/-- The elements of a sequence, without separators. -/
def elements (part : Printed) : List Printed :=
  part.parts.filter fun element => !element.tree.isLeaf

/-- A document, if the part is there. -/
def whenPresent (part : Printed) (document : Document) : Document :=
  if part.isPresent then document else .empty

/-- A keyword and the space behind it, if the keyword is there. -/
def keyword (part : Printed) : Document :=
  match part.tree with
  | .leaf token => .text (token.text ++ " ")
  | .node _ _ => .empty

end Printed

/-- The number of bytes up to which a name counts as short. -/
def shortName : Nat := 4

/-- The name that a path consists of. -/
def soleName? : Tree Token → Option String
  | .node .path [leading, segments] =>
    match leading.isAbsent, Tree.plainNames? segments.elements with
    | true, some [name] => some name
    | _, _ => none
  | _ => none

def isName (name : String) (path : Tree Token) : Bool :=
  soleName? path == some name

/-- Attributes stand in front of the parts of a node. -/
def hasOuterAttributes : Tree Token → Bool
  | .node _ (outer :: _) => !outer.isEmptySequence
  | _ => false

/-- Elements with commas, each on a line of its own if they do not fit on one. -/
def commaList (elements : List Printed) : Document :=
  .eachLast (fun element isLast => element.plain ++ .comma isLast) elements

/-- Elements between brackets, indented if they do not fit on the line. -/
def bracketed (opening closing : String) (content : Document) : Document :=
  .text opening ++ .body (.cut ++ content ++ .outdent) ++ .text closing

def boundList (first separator : Document) : List Printed → Document
  | [] => .empty
  | bounds => first ++ .separated separator (bounds.map Printed.plain)

/-- A plus sign between bounds on one line. -/
def plusSign : Document := .text " + "

/-- A plus sign between bounds that may stand on several lines. -/
def plusGap : Document := .space ++ .text "+ "

end Print
end Instrument
