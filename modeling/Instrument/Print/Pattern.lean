import Instrument.Print.Type

/-!
# Printing patterns

Alternatives that are all short share lines as far as they fit; others stand on one line each as
soon as they do not fit on one together.
-/

namespace Instrument
namespace Print

open Layout

/-- A pattern that is short enough to share its line with other alternatives. -/
def isSmallPattern (pattern : Printed) : Bool :=
  pattern.isKind .literal || pattern.isKind .wildcardPattern

/-- The elements of a tuple pattern.  A single one keeps its comma, if it has one. -/
def tuplePatternElements (sequence : Printed) : Document :=
  match sequence.elements with
  | [only] =>
    only.plain ++ (if sequence.tree.hasTrailingSeparator then .text "," else .empty) ++ .cut
  | elements => commaList elements

/-- The document of a pattern or of a part of one. -/
def patternDocument (kind : Kind) (parts : List Printed) : Document :=
  match kind, parts with
  | .namePattern, [outer, byReference, mutable, name, separator, pattern] =>
    outer.plain ++ byReference.keyword ++ mutable.keyword ++ name.plain ++
      separator.whenPresent (.text " @ " ++ pattern.plain)
  | .orPattern, [outer, _, cases] =>
    let style := if cases.elements.all isSmallPattern then .inconsistent else .consistent
    outer.plain ++ .box style 0 none
      (.separated (.space ++ .text "| ") (cases.elements.map Printed.plain))
  | .parenthesizedPattern, [outer, _, pattern, _] =>
    outer.plain ++ .text "(" ++ pattern.plain ++ .text ")"
  | .referencePattern, [outer, _, mutable, pattern] =>
    outer.plain ++ .text "&" ++ mutable.keyword ++ pattern.plain
  | .restPattern, [outer, _] => outer.plain ++ .text ".."
  | .slicePattern, [outer, _, elements, _] =>
    outer.plain ++ .text "[" ++ commaList elements.elements ++ .text "]"
  | .structPattern, [outer, path, _, fields, rest, _] =>
    outer.plain ++ .body (path.document .value ++ .text " \x7b" ++ .optionalSpace ++
      .eachLast (fun field isLast => field.plain ++ .commaOrSpace (isLast && rest.isAbsent))
        fields.elements ++
      rest.whenPresent (rest.plain ++ .space) ++ .outdent) ++ .text "\x7d"
  | .tuplePattern, [outer, _, elements, _] =>
    outer.plain ++ bracketed "(" ")" (tuplePatternElements elements)
  | .tupleStructPattern, [outer, path, _, elements, _] =>
    outer.plain ++ path.document .value ++ bracketed "(" ")" (commaList elements.elements)
  | .typedPattern, [outer, pattern, _, type] =>
    outer.plain ++ pattern.plain ++ .text ": " ++ type.plain
  | .wildcardPattern, [outer, _] => outer.plain ++ .text "_"
  | .fieldPattern, [outer, name, colon, pattern] =>
    outer.plain ++ colon.whenPresent (name.plain ++ .text ": ") ++ pattern.plain
  | _, _ => .empty

end Print
end Instrument
