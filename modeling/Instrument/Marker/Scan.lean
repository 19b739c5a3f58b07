import Instrument.Marker.Declaration

/-!
# Scanning for markers

A scan reports every attribute that is spelled like a marker: the functions that are tagged, and the
attributes that have no effect, each with the reason.  A node reports what it finds on itself; its
parts follow in visiting order.  Several markers on one function are one report, since they have one
effect.
-/

namespace Instrument

/-- Why an attribute that is spelled like a marker has no effect. -/
inductive IgnoreReason where
  | misplaced
  /-- It has arguments, or is written inside the body. -/
  | malformed
  | constFn
deriving DecidableEq, Repr

namespace IgnoreReason

def message : IgnoreReason → String
  | misplaced => "marker only applies to functions"
  | malformed => "marker takes no arguments"
  | constFn => "marker cannot apply to a const fn"

/-- The reason as a word in structured reports. -/
def label : IgnoreReason → String
  | misplaced => "misplaced"
  | malformed => "malformed"
  | constFn => "const-fn"

end IgnoreReason

/-- A function that is to be instrumented. -/
structure TaggedDeclaration where
  name : String
  line : Nat
  hasBody : Bool
deriving DecidableEq, Repr

/-- An attribute without effect. -/
structure IgnoredMarker where
  item : String
  line : Nat
  reason : IgnoreReason
deriving DecidableEq, Repr

/-- What a scan finds. -/
inductive Finding where
  | tagged (declaration : TaggedDeclaration)
  | ignored (marker : IgnoredMarker)
deriving DecidableEq, Repr

/-- The findings of a scan by sort, each in the order in which they were found. -/
structure Scan where
  tagged : List TaggedDeclaration
  ignored : List IgnoredMarker
deriving DecidableEq, Repr

namespace Scan

/-- Something that can carry attributes and cannot be called: its name in reports, and its
attributes. -/
structure Bystander where
  label : String
  attributes : List (Tree Token)

/-- What a field is called. -/
def fieldLabel (name : Tree Token) : String :=
  if name.isAbsent then "tuple field" else "field " ++ name.text

/-- The bystander that a node with the given parts is. -/
def bystander? (kind : Kind) (parts : List (Tree Token)) : Option Bystander :=
  match kind, parts with
  | .constItem, [outer, _, _, name, _, _, _, _, _] => some ⟨"const " ++ name.text, outer.elements⟩
  | .enumItem, [outer, _, _, name, _, _, _, _, _] => some ⟨"enum " ++ name.text, outer.elements⟩
  | .externCrateItem, [outer, _, _, _, name, _, _, _] =>
    some ⟨"extern crate " ++ name.text, outer.elements⟩
  | .foreignModule, [outer, inner, _, _, _] =>
    some ⟨"extern block", outer.elements ++ inner.elements⟩
  | .implItem, [outer, inner, _, _, _, _, _, _, type, _] =>
    some ⟨"impl " ++ Owner.typeName type, outer.elements ++ inner.elements⟩
  | .macroItem, outer :: _ => some ⟨"macro invocation", outer.elements⟩
  | .moduleItem, [outer, inner, _, _, _, name, _] =>
    some ⟨"mod " ++ name.text, outer.elements ++ inner.elements⟩
  | .staticItem, [outer, _, _, _, name, _, _, _, _, _] =>
    some ⟨"static " ++ name.text, outer.elements⟩
  | .structItem, [outer, _, _, name, _, _, _, _] => some ⟨"struct " ++ name.text, outer.elements⟩
  | .tupleStructItem, [outer, _, _, name, _, _, _, _] =>
    some ⟨"struct " ++ name.text, outer.elements⟩
  | .traitItem, [outer, inner, _, _, _, _, name, _, _, _, _, _] =>
    some ⟨"trait " ++ name.text, outer.elements ++ inner.elements⟩
  | .traitAliasItem, [outer, _, _, name, _, _, _, _, _] =>
    some ⟨"trait " ++ name.text, outer.elements⟩
  | .typeItem, [outer, _, _, name, _, _, _, _, _] => some ⟨"type " ++ name.text, outer.elements⟩
  | .unionItem, [outer, _, _, name, _, _, _] => some ⟨"union " ++ name.text, outer.elements⟩
  | .useItem, outer :: _ => some ⟨"use declaration", outer.elements⟩
  | .implConst, [outer, _, _, _, name, _, _, _, _, _] =>
    some ⟨"const " ++ name.text, outer.elements⟩
  | .implTypeMember, [outer, _, _, _, name, _, _, _, _, _] =>
    some ⟨"type " ++ name.text, outer.elements⟩
  | .traitConst, [outer, _, name, _, _, _, _, _] => some ⟨"const " ++ name.text, outer.elements⟩
  | .traitTypeMember, [outer, _, name, _, _, _, _, _, _, _] =>
    some ⟨"type " ++ name.text, outer.elements⟩
  | .foreignStatic, [outer, _, _, _, name, _, _, _] =>
    some ⟨"static " ++ name.text, outer.elements⟩
  | .foreignType, [outer, _, _, name, _, _, _] => some ⟨"type " ++ name.text, outer.elements⟩
  | .macroMember, outer :: _ => some ⟨"macro invocation", outer.elements⟩
  | .letStatement, outer :: _ => some ⟨"let binding", outer.elements⟩
  | .closure, outer :: _ => some ⟨"closure", outer.elements⟩
  | .field, [outer, _, name, _, _] => some ⟨fieldLabel name, outer.elements⟩
  | .variant, [outer, name, _, _, _] => some ⟨"variant " ++ name.text, outer.elements⟩
  | _, _ => none

def attributeLine : Tree Token → Nat
  | .node _ (hash :: _) => hash.line
  | _ => 0

/-- The attributes that are spelled like the marker, as ignored for one reason. -/
def ignoredAs (kind : MarkerKind) (item : String) (reason : IgnoreReason)
    (attributes : List (Tree Token)) : List Finding :=
  (attributes.filter kind.isNamedBy).map fun candidate =>
    .ignored ⟨item, attributeLine candidate, reason⟩

/-- What a declaration reports on itself: each malformed marker, and once that it is tagged or
cannot be. -/
def ofDeclaration (kind : MarkerKind) (owner : Owner) (declaration : Declaration) :
    List Finding :=
  let name := owner.qualify declaration
  let malformed := declaration.attributes.filter fun candidate => !kind.isMarker candidate
  ignoredAs kind name .malformed malformed ++
    if declaration.isTagged kind then [.tagged ⟨name, declaration.line, declaration.hasBody⟩]
    else if declaration.isMarked kind then [.ignored ⟨name, declaration.line, .constFn⟩]
    else []

def ofNode (kind : MarkerKind) (owner : Owner) (node : Kind) (parts : List (Tree Token)) :
    List Finding :=
  match Declaration.ofParts? node parts with
  | some declaration => ofDeclaration kind owner declaration
  | none =>
    match bystander? node parts with
    | some bystander => ignoredAs kind bystander.label .misplaced bystander.attributes
    | none => []

mutual

/-- What a tree reports inside an owner. -/
def findings (kind : MarkerKind) (owner : Owner) : Tree Token → List Finding
  | .leaf _ => []
  | .node node parts =>
    ofNode kind owner node parts ++ findingsOfParts kind (owner.inside node parts) parts

/-- What the parts of a node report. -/
def findingsOfParts (kind : MarkerKind) (owner : Owner) : List (Tree Token) → List Finding
  | [] => []
  | part :: rest => findings kind owner part ++ findingsOfParts kind owner rest

end

/-- The findings of one sort and of the other. -/
def ofFindings (found : List Finding) : Scan :=
  ⟨found.filterMap fun
    | .tagged declaration => some declaration
    | .ignored _ => none,
  found.filterMap fun
    | .tagged _ => none
    | .ignored marker => some marker⟩

end Scan

/-- Scan a tree for a kind of marker. -/
def MarkerKind.scan (kind : MarkerKind) (tree : Tree Token) : Scan :=
  Scan.ofFindings (Scan.findings kind none tree)

end Instrument
