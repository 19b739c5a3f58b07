import Instrument.Grammar.Path

/-!
# Bounds, generic parameters and `where` clauses

An empty pair of angle brackets, an empty `where` clause and a colon in front of no bounds say
nothing, and the tree does not keep them.
-/

namespace Instrument
namespace Grammar

open Instrument.Parser

variable [Rules]

def lifetimeNode : Parser Node := do
  return .node .lifetime [← lifetime]

/-- The lifetimes that a `for` binds, if there is one. -/
def binder : Parser Node := do
  if ← peekWord "for" then
    let keyword ← take
    let opening ← mark "<"
    let bound ← separatedUntil (peekMark ">") (do
      let attributes ← outerAttributes
      return .node .lifetimeParameter [.sequence attributes, ← lifetime, .absent, .absent])
      (mark ",")
    let closing ← mark ">"
    return .node .binder [keyword, opening, .sequence bound, closing]
  else return .absent

/-- The names that an opaque type captures. -/
def captureBound : Parser Node := do
  let keyword ← word "use"
  let opening ← mark "<"
  let (found, _) ← repeating (([], true) : List Node × Bool) fun (found, nameNext) => do
    if nameNext then
      if ← peek .lifetime then return some (.node .capturedName [← take] :: found, false)
      else if ← peekAny [.identifier, .keyword "Self"] then
        return some (.node .capturedName [← take] :: found, false)
      else if ← peekMark ">" then return none
      else failExpected [.lifetime, .identifier, .mark ">"]
    else if ← peekMark "," then return some ((← mark ",") :: found, true)
    else if ← peekMark ">" then return none
    else failExpected [.mark ",", .mark ">"]
  let closing ← mark ">"
  return .node .captureBound [keyword, opening, .sequence found.reverse, closing]

/-- What a trait bound is read as: its parts, or nothing when it is constant and only its tokens
are kept. -/
structure TraitBoundParts where
  modifier : Node
  binder : Node
  path : Node
  isConstant : Bool

/-- A trait with what stands in front of it. -/
def traitBoundParts (allowConst : Bool) : Parser TraitBoundParts := do
  let binding ← binder
  let isConditional ← peekGroup .bracket
  let isTilde ← do pure ((← peekMark "~") && (← peekBehind 1 (.keyword "const")))
  let isUnconditional ← peekWord "const"
  if isConditional then
    let _ ← group .bracket (word "const")
    if !allowConst then refuse "`[const]` is not allowed here"
  else if isTilde then
    let _ ← advance 2
  else if isUnconditional then
    let _ ← take
    if !allowConst then refuse "`const` is not allowed here"
  let modifier ← optionalMark "?"
  let binding ← if binding.isAbsent && modifier.isPresent then binder else pure binding
  let path ← pathOfBound
  if binding.isPresent && modifier.isPresent then
    refuse "`for<...>` binder not allowed with `?` trait polarity modifier"
  return ⟨modifier, binding, path, isConditional || isTilde || isUnconditional⟩

/-- One bound: a lifetime, captured names, or a trait. -/
def bound (allowCapture allowConst : Bool) : Parser Node := do
  if ← peek .lifetime then lifetimeNode
  else if ← peekWord "use" then
    let captured ← captureBound
    if allowCapture then return captured
    else refuse "`use<...>` precise capturing syntax is not allowed here"
  else
    let start ← here
    if ← peekGroup .parenthesis then
      let inside ← group .parenthesis (traitBoundParts allowConst)
      let parts := inside.content
      if parts.isConstant then keptSince start
      else
        return .node .traitBound
          [inside.opening, parts.modifier, parts.binder, parts.path, inside.closing]
    else
      let parts ← traitBoundParts allowConst
      if parts.isConstant then keptSince start
      else
        return .node .traitBound
          [.absent, parts.modifier, parts.binder, parts.path, .absent]

def peekBound (allowConst : Bool) : Parser Bool := do
  if ← peekAny [.word, .mark "::", .mark "?", .lifetime, .group .parenthesis, .mark "~"] then
    return true
  else return allowConst && (← peekGroup .bracket)

/-- Bounds with plus signs between them, or one bound where no plus sign is allowed. -/
def bounds (allowPlus allowCapture allowConst : Bool) : Parser (List Node) := do
  let first ← bound allowCapture allowConst
  let (found, _) ← repeating (([first], false) : List Node × Bool) fun (found, boundNext) => do
    if boundNext then
      if ← peekBound allowConst then
        return some ((← bound allowCapture allowConst) :: found, false)
      else return none
    else if allowPlus && (← peekMark "+") then return some ((← mark "+") :: found, true)
    else return none
  return found.reverse

/-- The terminals at which a list of bounds ends, apart from a colon. -/
def boundsEnd : List Terminal :=
  [.group .brace, .mark ",", .mark ";", .mark "="]

/-- A colon that is not the start of a path. -/
def peekColon : Parser Bool := do
  return (← peekMark ":") && !(← peekMark "::")

def predicateBounds : Parser Node := do
  let ending : Parser Bool := do
    return (← atEnd) || (← peekAny boundsEnd) || (← peekColon)
  return .sequence (← separatedWhile ending (bound false true) "+")

/-- The bounds of a lifetime behind its colon, up to an end. -/
def lifetimeBounds (ending : Parser Bool) : Parser Node := do
  return .sequence (← separatedWhile ending lifetimeNode "+")

/-- A colon and bounds; neither, if there are no bounds. -/
def colonBounds (readBounds : Parser Node) : Parser (Node × Node) := do
  if ← peekMark ":" then
    let colon ← mark ":"
    let found ← readBounds
    if found.isEmptySequence then return (.absent, .absent) else return (colon, found)
  else return (.absent, .absent)

def lifetimeParameter (attributes : Node) : Parser Node := do
  let name ← lifetime
  let (colon, found) ← colonBounds (lifetimeBounds (do
    return (← atEnd) || (← peekAny [.mark ",", .mark ">"])))
  return .node .lifetimeParameter [attributes, name, colon, found]

def typeParameter (attributes : Node) : Parser Node := do
  let name ← identifier
  let (colon, found) ← colonBounds (do
    let ending : Parser Bool := do
      return (← atEnd) || (← peekAny [.mark ",", .mark ">", .mark "="])
    return .sequence (← separatedWhile ending (bound false true) "+"))
  let equals ← optionalMark "="
  let type ← if equals.isPresent then Rules.parse (.type true) else pure .absent
  return .node .typeParameter [attributes, name, colon, found, equals, type]

def constParameter (attributes : Node) : Parser Node := do
  let keyword ← word "const"
  let name ← identifier
  let colon ← mark ":"
  let type ← Rules.parse (.type true)
  if ← peekMark "=" then
    let equals ← mark "="
    return .node .constParameter
      [attributes, keyword, name, colon, type, equals, ← constArgument]
  else return .node .constParameter [attributes, keyword, name, colon, type, .absent, .absent]

def genericParameter : Parser Node := do
  let attributes := .sequence (← outerAttributes)
  if ← peek .lifetime then lifetimeParameter attributes
  else if ← peek .identifier then typeParameter attributes
  else if ← peekWord "const" then constParameter attributes
  else if ← peekWord "_" then
    return .node .typeParameter [attributes, ← take, .absent, .absent, .absent, .absent]
  else failExpected [.lifetime, .identifier, .keyword "const"]

/-- Generic parameters, if there are any between angle brackets. -/
def generics : Parser Node := do
  if ← peekMark "<" then
    let opening ← mark "<"
    let position ← here
    let parameters ← separatedUntil (peekMark ">") genericParameter (mark ",")
    let closing ← mark ">"
    if parameters.isEmpty then return .absent
    else
      let ordered := lifetimesFirst (Tree.isKind .lifetimeParameter) position parameters
      return .node .generics [opening, .sequence ordered, closing]
  else return .absent

/-- Angle brackets behind a keyword hold parameters, and not the start of a qualified path. -/
def peekParameters (skipped : Nat) : Parser Bool := do
  let behind := fun count terminal => peekBehind (skipped + count) terminal
  if !(← behind 0 (.mark "<")) then return false
  else if (← behind 1 (.mark ">")) || (← behind 1 (.mark "#")) then return true
  else if (← behind 1 (.keyword "const")) then return true
  else if (← behind 1 .lifetime) || (← behind 1 .identifier) then
    return (← behind 2 (.mark ">")) || (← behind 2 (.mark ",")) ||
      ((← behind 2 (.mark ":")) && !(← behind 2 (.mark "::"))) || (← behind 2 (.mark "="))
  else return false

def predicate : Parser Node := do
  if (← peek .lifetime) && (← peekBehind 1 (.mark ":")) then
    let name ← lifetime
    let colon ← mark ":"
    let found ← lifetimeBounds (do return (← atEnd) || (← peekAny (.mark ":" :: boundsEnd)))
    return .node .lifetimePredicate [name, colon, found]
  else
    let binding ← binder
    let type ← Rules.parse (.type true)
    let colon ← mark ":"
    return .node .typePredicate [binding, type, colon, ← predicateBounds]

/-- A `where` clause, if there is one with predicates. -/
def whereClause : Parser Node := do
  if ← peekWord "where" then
    let keyword ← take
    if ← peekParameters 0 then
      failHere (.refused "generic parameters on `where` clauses are reserved for future use")
    else
      let ending : Parser Bool := do
        return (← atEnd) || (← peekAny boundsEnd) || (← peekColon)
      let predicates ← separatedWhile ending predicate ","
      if predicates.isEmpty then return .absent
      else return .node .whereClause [keyword, .sequence predicates]
  else return .absent

end Grammar
end Instrument
