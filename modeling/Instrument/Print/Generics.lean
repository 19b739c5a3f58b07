import Instrument.Print.Type

/-!
# Printing bounds, generic parameters and `where` clauses

A `where` clause always takes lines of its own.  How its last predicate ends depends on what follows
the clause.
-/

namespace Instrument
namespace Print

open Layout

def nameList (names : List Printed) : Document :=
  .separated (.text ", ") (names.map Printed.plain)

/-- What follows a `where` clause. -/
inductive Follower where
  | body
  /-- A semicolon, which is written with the clause. -/
  | semicolon
deriving DecidableEq

def predicates (constraints : Printed) : List Printed :=
  match constraints.parts with
  | [_, elements] => elements.elements
  | _ => []

/-- What stands behind a predicate: a semicolon behind the last one if nothing else follows, and
else what separates predicates. -/
def behindPredicate (follower : Follower) (separator : Bool → Document) (isLast : Bool) :
    Document :=
  if isLast && follower == .semicolon then .text ";" else separator isLast

/-- A body is not indented like the predicates in front of it. -/
def beforeFollower : Follower → Document
  | .body => .outdent
  | .semicolon => .empty

/-- Without a `where` clause only what follows is written. -/
def withoutPredicates : Follower → Document
  | .body => .blank
  | .semicolon => .text ";"

/-- A `where` clause with each predicate on a line of its own. -/
def whereLines (follower : Follower) (constraints : Printed) : Document :=
  match predicates constraints with
  | [] => withoutPredicates follower
  | elements =>
    .line ++ .outdent ++ .text "where" ++ .line ++
      .eachLast (fun predicate isLast =>
        predicate.plain ++ behindPredicate follower (fun _ => .text "," ++ .line) isLast) elements ++
      beforeFollower follower

/-- A `where` clause on one line, if it fits. -/
def whereLine (follower : Follower) (constraints : Printed) : Document :=
  match predicates constraints with
  | [] => withoutPredicates follower
  | elements =>
    .space ++ .outdent ++ .text "where" ++ .space ++
      .eachLast (fun predicate isLast =>
        predicate.plain ++ behindPredicate follower .commaOrSpace isLast) elements ++
      beforeFollower follower

/-- The document of a part of a generic declaration. -/
def genericDocument (kind : Kind) (parts : List Printed) : Document :=
  match kind, parts with
  | .generics, [_, parameters, _] =>
    .text "<" ++ .level (.cut ++ commaList parameters.elements ++ .outdent) ++ .text ">"
  | .lifetimeParameter, [outer, name, _, bounds] =>
    outer.plain ++ name.plain ++ boundList (.text ": ") plusSign bounds.elements
  | .typeParameter, [outer, name, _, bounds, equals, type] =>
    outer.plain ++ name.plain ++
      .filled Document.step (boundList (.text ": ") plusGap bounds.elements ++
        equals.whenPresent (.space ++ .text "= " ++ type.plain))
  | .constParameter, [outer, _, name, _, type, equals, value] =>
    outer.plain ++ .text "const " ++ name.plain ++ .text ": " ++ type.plain ++
      equals.whenPresent (.text " = " ++ constArgument value)
  | .lifetimePredicate, [name, _, bounds] =>
    name.plain ++ .text ":" ++
      .filled Document.step (boundList .blank plusGap bounds.elements)
  | .typePredicate, [binder, type, _, bounds] =>
    let indent := if bounds.elements.length == 1 then 0 else Document.step
    binder.plain ++ type.plain ++ .text ":" ++
      .filled indent (boundList .blank plusGap bounds.elements)
  | .binder, [_, _, parameters, _] =>
    .text "for<" ++ nameList parameters.elements ++ .text "> "
  | .traitBound, [opening, modifier, binder, path, _] =>
    let bound := modifier.whenPresent (.text "?") ++ binder.plain ++ path.plain
    if opening.isPresent then .text "(" ++ bound ++ .text ")" else bound
  | .captureBound, [_, _, names, _] => .text "use<" ++ nameList names.elements ++ .text ">"
  | .capturedName, [name] => name.plain
  | _, _ => .empty

end Print
end Instrument
