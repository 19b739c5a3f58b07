import Instrument.Grammar.Attribute

/-!
# Paths

A path in an expression gives its arguments only behind `::`, because `<` alone would compare; a
path in a type can leave the `::` out.  Parentheses take the place of angle brackets only in the
last segment of a bound.
-/

namespace Instrument
namespace Grammar

open Instrument.Parser

variable [Rules]

/-- Move lifetimes in front of other arguments.  An argument that loses the comma behind it gets
one that the source does not have. -/
def lifetimesFirst (isLifetime : Node → Bool) (position : Nat) (elements : List Node) :
    List Node :=
  let rec pairs : List Node → List (Node × Option Node)
    | [] => []
    | [element] => [(element, none)]
    | element :: separator :: rest => (element, some separator) :: pairs rest
  let all := pairs elements
  let first := all.filter fun pair => isLifetime pair.1
  let others := all.filter fun pair => !isLifetime pair.1
  let written (group : List (Node × Option Node)) : List Node :=
    (group.map fun (element, separator) => element :: separator.toList).flatten
  match first.getLast?, others with
  | some (_, none), _ :: _ => written first ++ [.leaf (.implied "," position)] ++ written others
  | _, _ => written first ++ written others

def constArgument : Parser Node := do
  if ← peek .literal then literalExpression
  else if ← peek .identifier then
    return .node .pathExpression [.sequence [], pathOfName (← take)]
  else if ← peekGroup .brace then Rules.parse .blockExpression
  else failExpected [.literal, .identifier, .group .brace]

/-- The only segment of a type that is a path of one segment. -/
def soleSegment? : Node → Option (Node × Node)
  | .node .pathType [.node .path [leading, .node .sequence [.node .segment [name, arguments]]]] =>
    if leading.isAbsent then some (name, arguments) else none
  | _ => none

/-- The bounds of a constraint between angle brackets. -/
def constraintBounds : Parser Node := do
  return .sequence (← separatedWhile (peekAny [.mark ",", .mark ">"])
    (Rules.parse (.bound false true)) "+")

def genericArgument : Parser Node := do
  if (← peek .lifetime) && !(← peekBehind 1 (.mark "+")) then
    return .node .lifetime [← take]
  else if ← peekAny [.literal, .group .brace] then
    return .node .constArgument [← constArgument]
  else
    let type ← Rules.parse (.type true)
    match soleSegment? type with
    | none => return type
    | some (name, arguments) =>
      if ← peekMark "=" then
        let equals ← mark "="
        if ← peekAny [.literal, .group .brace] then
          return .node .constBinding [name, arguments, equals, ← constArgument]
        else return .node .typeBinding [name, arguments, equals, ← Rules.parse (.type true)]
      else if ← peekMark ":" then
        let colon ← mark ":"
        return .node .boundBinding [name, arguments, colon, ← constraintBounds]
      else return type

/-- Arguments in angle brackets, behind `::` if that was read. -/
def angleArgumentsBehind (turbofish : Node) : Parser Node := do
  let opening ← mark "<"
  let position ← here
  let arguments ← separatedUntil (peekMark ">") genericArgument (mark ",")
  let closing ← mark ">"
  let ordered := lifetimesFirst (Tree.isKind .lifetime) position arguments
  return .node .angleArguments [turbofish, opening, .sequence ordered, closing]

/-- Arguments in angle brackets that may start with `::`. -/
def angleArguments : Parser Node := do
  angleArgumentsBehind (← optionalMark "::")

def segment (inExpression : Bool) : Parser Node := do
  if ← peekAny [.keyword "super", .keyword "self", .keyword "crate", .keyword "try"] then
    return plainSegment (← take)
  else
    let name ← if ← peekWord "Self" then take else identifier
    let hasArguments ← do
      if !inExpression && (← peekMark "<") && !(← peekMark "<=") && !(← peekMark "<<=") then
        pure true
      else pure ((← peekMark "::") && (← peekBehind 2 (.mark "<")))
    if hasArguments then return .node .segment [name, ← angleArguments]
    else return plainSegment name

/-- The segments of a path behind its leading `::`. -/
def segmentsBehind (first : Node) (inExpression : Bool) : Parser Node := do
  let found ← repeating [first] fun found => do
    if (← peekMark "::") && !(← peekBehind 2 (.group .parenthesis)) then
      let separator ← mark "::"
      return some ((← segment inExpression) :: separator :: found)
    else return none
  return .sequence found.reverse

/-- A path that starts with a name. -/
def simplePath (inExpression : Bool) : Parser Node := do
  let leading ← optionalMark "::"
  let first ← segment inExpression
  return .node .path [leading, ← segmentsBehind first inExpression]

/-- A path that may start with a type in angle brackets. -/
def path (inExpression : Bool) : Parser Node := do
  if ← peekMark "<" then
    let opening ← mark "<"
    let type ← Rules.parse (.type true)
    let (as, trait) ← do
      if ← peekWord "as" then
        let as ← take
        pure (as, ← simplePath false)
      else pure (.absent, .absent)
    let closing ← mark ">"
    let separator ← mark "::"
    let segments ← repeating (([], true) : List Node × Bool) fun (found, segmentNext) => do
      if segmentNext then return some ((← segment inExpression) :: found, false)
      else if ← peekMark "::" then return some ((← mark "::") :: found, true)
      else return none
    return .node .qualifiedPath
      [opening, type, as, trait, closing, separator, .sequence segments.1.reverse]
  else simplePath inExpression

/-- A path whose segments have no arguments, and that does not start in a type. -/
def isPlainPath : Node → Bool
  | .node .path [_, segments] =>
    segments.elements.all fun
      | .node .segment [_, arguments] => arguments.isAbsent
      | _ => false
  | _ => false

/-- The return type of a function, if it has one. -/
def returnType (allowPlus : Bool) : Parser Node := do
  if ← peekMark "->" then
    let arrow ← mark "->"
    return .node .returnType [arrow, ← Rules.parse (.type allowPlus)]
  else return .absent

def parenthesizedArguments : Parser Node := do
  let inputs ← group .parenthesis (commaSeparated (Rules.parse (.type true)))
  return .node .parenthesizedArguments
    [inputs.opening, inputs.content, inputs.closing, ← returnType false]

/-- Change the arguments of the last segment. -/
def setLastArguments (arguments : Node) : List Node → List Node
  | [] => []
  | [.node .segment (name :: _)] => [.node .segment [name, arguments]]
  | part :: rest => part :: setLastArguments arguments rest

/-- The last of the segments has no arguments, or none between its angle brackets. -/
def lastIsBare (segments : List Node) : Bool :=
  match segments.getLast? with
  | some (.node .segment [_, .node .angleArguments [_, _, arguments, _]]) =>
    arguments.isEmptySequence
  | some (.node .segment [_, arguments]) => arguments.isAbsent
  | _ => false

/-- A path with arguments in parentheses behind it, if some follow. -/
def pathOfBound : Parser Node := do
  match ← simplePath false with
  | .node .path [leading, .node .sequence segments] =>
    let follows ← do
      if ← peekGroup .parenthesis then pure true
      else pure ((← peekMark "::") && (← peekBehind 2 (.group .parenthesis)))
    if lastIsBare segments && follows then
      let _ ← optionalMark "::"
      let arguments ← parenthesizedArguments
      return .node .path [leading, .sequence (setLastArguments arguments segments)]
    else return .node .path [leading, .sequence segments]
  | other => return other

end Grammar
end Instrument
