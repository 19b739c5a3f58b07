import Instrument.Print.Path

/-!
# Printing types

Types are written on one line wherever they fit; only lists of parameters, elements and bounds can
be broken.
-/

namespace Instrument
namespace Print

open Layout

/-- Parameters of a function, the last of which may be of a kind that stands for any number of
arguments. -/
def parameterList (unlimited : Kind) (parameters : List Printed) : Document :=
  .eachLast (fun parameter isLast =>
    if isLast && parameter.isKind unlimited then parameter.plain ++ .cut
    else parameter.plain ++ .comma isLast) parameters

/-- The elements of a tuple.  A single one keeps its comma. -/
def tupleElements : List Printed → Document
  | [only] => only.plain ++ .text "," ++ .cut
  | elements => commaList elements

/-- The document of a type or of a part of one. -/
def typeDocument (kind : Kind) (parts : List Printed) : Document :=
  match kind, parts with
  | .arrayType, [_, element, _, length, _] =>
    .text "[" ++ element.plain ++ .text "; " ++ length.plain ++ .text "]"
  | .functionType, [binder, safety, interface, _, _, inputs, _, output] =>
    binder.plain ++ safety.keyword ++ interface.plain ++
      bracketed "fn(" ")" (parameterList .functionTypeVariadic inputs.elements) ++ output.plain
  | .functionTypeParameter, [outer, name, _, type] =>
    outer.plain ++ name.whenPresent (name.plain ++ .text ": ") ++ type.plain
  | .functionTypeVariadic, [outer, name, _, _] =>
    outer.plain ++ name.whenPresent (name.plain ++ .text ": ") ++ .text "..."
  | .implType, [_, bounds] => boundList (.text "impl ") plusSign bounds.elements
  | .inferredType, _ => .text "_"
  | .macroType, [invocation] => invocation.plain
  | .neverType, _ => .text "!"
  | .parenthesizedType, [_, type, _] => .text "(" ++ type.plain ++ .text ")"
  | .pathType, [path] => path.plain
  | .pointerType, [_, _, mutable, type] =>
    .text (if mutable.isPresent then "*mut " else "*const ") ++ type.plain
  | .referenceType, [_, region, mutable, type] =>
    .text "&" ++ region.whenPresent (region.plain ++ .blank) ++ mutable.keyword ++ type.plain
  | .sliceType, [_, type, _] => .text "[" ++ type.plain ++ .text "]"
  | .objectType, [_, bounds] => boundList (.text "dyn ") plusSign bounds.elements
  | .tupleType, [_, elements, _] => bracketed "(" ")" (tupleElements elements.elements)
  | .returnType, [_, type] => .text " -> " ++ type.plain
  | .abi, [_, name] => .text "extern " ++ name.whenPresent (name.plain ++ .blank)
  | _, _ => .empty

end Print
end Instrument
