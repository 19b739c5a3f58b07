import Instrument.Print.Basic

/-!
# Printing paths

Generic arguments stand behind `::` where a value is expected and directly behind the name
elsewhere, and are left out where a path only names something.
-/

namespace Instrument
namespace Print

open Layout

def segments (manner : Manner) (elements : List Printed) : Document :=
  .separated (.text "::") (elements.map fun segment => segment.document manner)

/-- Generic arguments.  None are written between empty brackets. -/
def angleArguments (manner : Manner) (arguments : List Printed) : Document :=
  if arguments.isEmpty || manner == .bare then .empty
  else (if manner == .value then .text "::" else .empty) ++
    bracketed "<" ">" (commaList arguments)

/-- A constant as a generic argument.  Only literals, names and blocks stand without braces. -/
def constArgument (value : Printed) : Document :=
  let isPlain := match value.tree with
    | .node .literal _ => true
    | .node .blockExpression _ => true
    | .node .pathExpression [outer, path] => outer.isEmptySequence && (soleName? path).isSome
    | _ => false
  if isPlain then value.plain
  else .body (.text "\x7b" ++ .space ++ .filled 0 (value.document .lineStart) ++ .space ++
    .outdent ++ .text "\x7d")

/-- The document of a path or of a part of one. -/
def pathDocument (kind : Kind) (parts : List Printed) (manner : Manner) : Document :=
  match kind, parts with
  | .path, [leading, names] =>
    leading.whenPresent (.text "::") ++ segments manner names.elements
  | .qualifiedPath, [_, type, as, trait, _, _, names] =>
    .text "<" ++ type.plain ++ as.whenPresent (.text " as " ++ trait.plain) ++ .text ">::" ++
      segments manner names.elements
  | .segment, [name, arguments] => name.plain ++ arguments.document manner
  | .angleArguments, [_, _, arguments, _] => angleArguments manner arguments.elements
  | .parenthesizedArguments, [_, inputs, _, output] =>
    .body (.text "(" ++ .cut ++ commaList inputs.elements ++ .outdent ++ .text ")" ++ output.plain)
  | .constArgument, [value] => constArgument value
  | .typeBinding, [name, arguments, _, type] =>
    name.plain ++ arguments.plain ++ .text " = " ++ type.plain
  | .constBinding, [name, arguments, _, value] =>
    name.plain ++ arguments.plain ++ .text " = " ++ constArgument value
  | .boundBinding, [name, arguments, _, bounds] =>
    name.plain ++ arguments.plain ++ boundList (.text ": ") plusSign bounds.elements
  | .lifetime, [name] => name.plain
  | _, _ => .empty

end Print
end Instrument
