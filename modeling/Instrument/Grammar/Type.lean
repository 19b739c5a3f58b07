import Instrument.Grammar.Generics

/-!
# Types

A type is recognised by its first token, with one exception: after a path or a type in parentheses,
a plus sign turns what was read into the first bound of a trait object, where such a type is
allowed.
-/

namespace Instrument
namespace Grammar

open Instrument.Parser

variable [Rules]

/-- The bounds of a trait object behind its keyword. -/
def objectBounds (allowPlus : Bool) : Parser Node := do
  let found ← bounds allowPlus false false
  if found.any (Tree.isKind .traitBound) then return .sequence found
  else refuse "at least one trait is required for an object type"

def bareObject : Parser Node := do
  let keyword ← optionalWord "dyn"
  return .node .objectType [keyword, ← objectBounds true]

/-- Bounds that follow a first one, each behind a plus sign. -/
def furtherBounds (first : Node) : Parser Node := do
  let found ← repeating [first] fun found => do
    if ← peekMark "+" then
      let plus ← mark "+"
      return some ((← bound false false) :: plus :: found)
    else return none
  return .sequence found.reverse

/-- The trait bound that a type in parentheses stands for in front of a plus sign. -/
def boundInParentheses? (opening closing : Node) : Node → Option Node
  | .node .pathType [.node .path parts] =>
    some (.node .traitBound [opening, .absent, .absent, .node .path parts, closing])
  | .node .objectType [dyn, .node .sequence [first]] =>
    if dyn.isPresent then none
    else match first with
      | .node .traitBound [_, modifier, binding, path, _] =>
        some (.node .traitBound [opening, modifier, binding, path, closing])
      | other => some other
  | _ => none

/-- The content of a type in parentheses, as far as it determines what the type is. -/
inductive ParenthesizedContent where
  | empty
  | object (type : Node)
  | relaxed (parts : TraitBoundParts)
  | single (type : Node)
  | several (elements : List Node)

/-- Read the content of a type in parentheses. -/
def parenthesizedContent : Parser ParenthesizedContent := do
  if ← atEnd then return .empty
  else if ← peek .lifetime then return .object (← bareObject)
  else if ← peekMark "?" then return .relaxed (← traitBoundParts false)
  else
    let first ← Rules.parse (.type true)
    if ← peekMark "," then
      let comma ← mark ","
      let rest ← separatedUntil atEnd (Rules.parse (.type true)) (mark ",")
      return .several (first :: comma :: rest)
    else return .single first

/-- A type that starts with a parenthesis. -/
def parenthesizedType (allowPlus : Bool) : Parser Node := do
  let inside ← group .parenthesis parenthesizedContent
  match inside.content with
  | .empty => return .node .tupleType [inside.opening, .sequence [], inside.closing]
  | .several elements => return .node .tupleType [inside.opening, .sequence elements, inside.closing]
  | .object type => return .node .parenthesizedType [inside.opening, type, inside.closing]
  | .relaxed parts =>
    let first := .node .traitBound
      [inside.opening, parts.modifier, parts.binder, parts.path, inside.closing]
    return .node .objectType [.absent, ← furtherBounds first]
  | .single type =>
    let first := if allowPlus && (← peekMark "+")
      then boundInParentheses? inside.opening inside.closing type else none
    match first with
    | some first => return .node .objectType [.absent, ← furtherBounds first]
    | none => return .node .parenthesizedType [inside.opening, type, inside.closing]

/-- The interface that a function is declared with, if one is. -/
def abi : Parser Node := do
  if ← peekWord "extern" then
    let keyword ← take
    let name ← if ← peek .stringLiteral then take else pure .absent
    return .node .abi [keyword, name]
  else return .absent

/-- The last parameter of a function type that takes any number of arguments. -/
def peekTypeVariadic : Parser Bool := do
  if ← peekMark "..." then return true
  else
    return (← peekAny [.identifier, .keyword "_"]) && (← peekBehind 1 (.mark ":")) &&
      (← peekBehind 2 (.mark "..."))

/-- The last parameter of a function type that takes any number of arguments. -/
def functionTypeVariadic (attributes : Node) : Parser (List Node) := do
  let (name, colon) ← do
    if ← peekAny [.identifier, .keyword "_"] then
      let name ← take
      pure (name, ← mark ":")
    else pure (.absent, .absent)
  let dots ← mark "..."
  let variadic : Node := .node .functionTypeVariadic [attributes, name, colon, dots]
  if ← peekMark "," then return [← mark ",", variadic] else return [variadic]

/-- A parameter of a function type.  The first may be the receiver of a method, of which only the
tokens are kept. -/
def functionTypeParameter (attributes : Node) (allowSelf : Bool) : Parser Node := do
  let attributes := .sequence (attributes.parts ++ (← outerAttributes))
  let start ← here
  let isMutableSelf ← do
    pure (allowSelf && (← peekWord "mut") && (← peekBehind 1 (.keyword "self")))
  if isMutableSelf then
    let _ ← advance 1
  let isNamed ← do
    if ← peekAny ([.identifier, .keyword "_"] ++ if allowSelf then [.keyword "self"] else []) then
      pure ((← peekBehind 1 (.mark ":")) && !(← peekBehind 1 (.mark "::")))
    else pure false
  let (name, colon) ← do
    if isNamed then
      let name ← take
      pure (name, ← mark ":")
    else pure (.absent, .absent)
  if isMutableSelf then
    if isNamed then
      let _ ← Rules.parse (.type true)
    else
      let _ ← word "self"
    return .node .functionTypeParameter [attributes, .absent, .absent, ← keptSince start]
  else return .node .functionTypeParameter [attributes, name, colon, ← Rules.parse (.type true)]

def functionTypeParameters : Parser Node := do
  let (found, _) ← repeating (([], true) : List Node × Bool) fun (found, elementNext) => do
    if ← atEnd then return none
    else if elementNext then
      let attributes := .sequence (← outerAttributes)
      if ← peekTypeVariadic then
        return some ((← functionTypeVariadic attributes) ++ found, false)
      else
        return some ((← functionTypeParameter attributes found.isEmpty) :: found, false)
    else if found.any (Tree.isKind .functionTypeVariadic) then return none
    else return some ((← mark ",") :: found, true)
  return .sequence found.reverse

def functionType (binding : Node) : Parser Node := do
  let binding ← if binding.isAbsent then binder else pure binding
  let safety ← optionalWord "unsafe"
  let interface ← abi
  let keyword ← word "fn"
  let inputs ← group .parenthesis functionTypeParameters
  return .node .functionType
    [binding, safety, interface, keyword, inputs.opening, inputs.content, inputs.closing,
      ← returnType false]

/-- The bounds that may follow a path where a type is a trait object. -/
def boundsBehindPath (first : Node) : Parser Node := do
  let (found, _) ← repeating (([first], false) : List Node × Bool) fun (found, boundNext) => do
    if boundNext then
      if ← peekAny [.word, .mark "::", .mark "?", .lifetime, .group .parenthesis] then
        return some ((← bound false false) :: found, false)
      else return none
    else if ← peekMark "+" then return some ((← mark "+") :: found, true)
    else return none
  return .sequence found.reverse

/-- A type that starts with a path. -/
def pathType (binding : Node) (allowPlus : Bool) : Parser Node := do
  let found ← path false
  if found.isKind .qualifiedPath then return .node .pathType [found]
  else if (← peekMark "!") && !(← peekMark "!=") && isPlainPath found then
    return .node .macroType [← invocationBehind found]
  else if binding.isPresent || (allowPlus && (← peekMark "+")) then
    let first := .node .traitBound [.absent, .absent, binding, found, .absent]
    let all ← if allowPlus then boundsBehindPath first else pure (.sequence [first])
    return .node .objectType [.absent, all]
  else return .node .pathType [found]

/-- A type that starts with a square bracket. -/
def bracketType : Parser Node := do
  let inside ← group .bracket do
    let element ← Rules.parse (.type true)
    if ← peekMark ";" then
      let semicolon ← mark ";"
      pure (element, semicolon, ← Rules.parse (.expression true))
    else pure (element, .absent, .absent)
  let (element, semicolon, length) := inside.content
  if semicolon.isPresent then
    return .node .arrayType [inside.opening, element, semicolon, length, inside.closing]
  else return .node .sliceType [inside.opening, element, inside.closing]

def pointerType : Parser Node := do
  let star ← mark "*"
  let (constant, mutable) ← do
    if ← peekWord "const" then pure (← take, .absent)
    else if ← peekWord "mut" then pure (.absent, ← take)
    else failExpected [.keyword "const", .keyword "mut"]
  return .node .pointerType [star, constant, mutable, ← Rules.parse (.type false)]

def referenceType : Parser Node := do
  let ampersand ← mark "&"
  let region ← optionalLifetime
  let mutable ← optionalWord "mut"
  return .node .referenceType [ampersand, region, mutable, ← Rules.parse (.type false)]

def implType (allowPlus : Bool) : Parser Node := do
  let keyword ← word "impl"
  let found ← bounds allowPlus true true
  if found.any fun part => part.isKind .traitBound || part.isKind .verbatim then
    return .node .implType [keyword, .sequence found]
  else refuse "at least one trait must be specified"

/-- A trait object behind its keyword.  With a star, only its tokens are kept. -/
def dynType (allowPlus : Bool) : Parser Node := do
  let start ← here
  let keyword ← word "dyn"
  let star ← optionalMark "*"
  let found ← objectBounds allowPlus
  if star.isPresent then keptSince start else return .node .objectType [keyword, found]

/-- The terminals that can start a type, in the order in which they are tried. -/
def typeStart : List Terminal :=
  [.group .parenthesis, .keyword "fn", .keyword "unsafe", .keyword "extern", .identifier,
    .mark "::", .mark "<", .keyword "dyn", .group .bracket, .mark "*", .mark "&", .mark "!",
    .keyword "impl", .keyword "_", .lifetime]

/-- What may follow lifetimes that a type binds. -/
def boundTypeStart : List Terminal :=
  [.identifier, .keyword "fn", .keyword "unsafe", .keyword "extern", .keyword "super",
    .keyword "self", .keyword "Self", .keyword "crate"]

/-- A type.  `allowPlus` tells whether bounds behind a plus sign belong to it. -/
def type (allowPlus : Bool) : Parser Node := do
  let binds ← peekWord "for"
  let binding ← binder
  if binds then
    if !(← peekAny boundTypeStart) then failExpected boundTypeStart
  if ← peekGroup .parenthesis then parenthesizedType allowPlus
  else if ← peekAny [.keyword "fn", .keyword "unsafe", .keyword "extern"] then
    functionType binding
  else if ← peekAny [.identifier, .keyword "super", .keyword "self", .keyword "Self",
      .keyword "crate", .mark "::", .mark "<"] then
    pathType binding allowPlus
  else if ← peekWord "dyn" then dynType allowPlus
  else if ← peekGroup .bracket then bracketType
  else if ← peekMark "*" then pointerType
  else if ← peekMark "&" then referenceType
  else if (← peekMark "!") && !(← peekMark "=") then return .node .neverType [← take]
  else if ← peekWord "impl" then implType allowPlus
  else if ← peekWord "_" then return .node .inferredType [← take]
  else if ← peek .lifetime then bareObject
  else failExpected (.keyword "for" :: typeStart)

end Grammar
end Instrument
