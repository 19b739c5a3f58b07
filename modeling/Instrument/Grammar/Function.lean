import Instrument.Grammar.Statement

/-!
# Declarations of functions

The four kinds of functions share their signature and differ in what may stand around it: a
visibility, `default`, a body or a semicolon in its place.
-/

namespace Instrument
namespace Grammar

open Instrument.Parser

/-- A restriction of a visibility to a module.  Parentheses with anything else in them are the
start of a type, and are left alone. -/
def restriction : Parser (Option (Enclosed (Node × Node))) := do
  let start ← get
  let inside ← group .parenthesis do
    if ← peekAny [.keyword "crate", .keyword "self", .keyword "super"] then
      let path := pathOfName (← take)
      if ← atEnd then return some (Tree.absent, path) else return none
    else if ← peekWord "in" then
      let keyword ← take
      return some (keyword, ← plainPath)
    else return none
  match inside.content with
  | some found => return some ⟨inside.opening, found, inside.closing⟩
  | none =>
    set start
    return none

def visibility : Parser Node := do
  if ← peekWord "pub" then
    let keyword ← take
    if ← peekGroup .parenthesis then
      match ← restriction with
      | some ⟨opening, (within, path), closing⟩ =>
        return .node .restrictedVisibility [keyword, opening, within, path, closing]
      | none => return .node .publicVisibility [keyword]
    else return .node .publicVisibility [keyword]
  else return .absent

variable [Rules]

/-- A signature of a function starts here.  `allowSafe` admits the word `safe` in it. -/
def peekSignature (allowSafe : Bool) : Parser Bool := do
  if ← peekWord "fn" then return true
  else succeeds do
    let _ ← optionalWord "const"
    let _ ← optionalWord "async"
    if allowSafe && (← peekWord "safe") then
      let _ ← take
    else
      let _ ← optionalWord "unsafe"
    let _ ← abi
    word "fn"

def receiver (attributes : Node) : Parser Node := do
  let (ampersand, region) ← do
    if ← peekMark "&" then
      let ampersand ← take
      pure (ampersand, ← optionalLifetime)
    else pure (.absent, .absent)
  let mutable ← optionalWord "mut"
  let self ← word "self"
  if ampersand.isAbsent && (← peekMark ":") then
    let colon ← mark ":"
    return .node .receiver [attributes, .absent, .absent, mutable, self, colon,
      ← Rules.parse (.type true)]
  else return .node .receiver [attributes, ampersand, region, mutable, self, .absent, .absent]

def parameter (attributes : Node) : Parser Node := do
  match ← attempt (receiver attributes) with
  | some found => return found
  | none =>
    if (← peek .identifier) && (← peekBehind 1 (.mark "<")) then
      let position ← here
      let pattern : Node := .node .wildcardPattern
        [.sequence [], .leaf (.implied "_" position)]
      return .node .parameter
        [attributes, pattern, .leaf (.implied ":" position), ← Rules.parse (.type true)]
    else
      let pattern ← Rules.parse .pattern
      let colon ← mark ":"
      if ← peekMark "..." then
        return .node .variadic [attributes, pattern, colon, ← mark "..."]
      else return .node .parameter [attributes, pattern, colon, ← Rules.parse (.type true)]

/-- The parameters of a function.  A receiver can only be the first one. -/
def parameters : Parser Node := do
  let (found, _) ← repeating (([], true) : List Node × Bool) fun (found, parameterNext) => do
    if ← atEnd then return none
    else if found.any (Tree.isKind .variadic) then
      if parameterNext then return none
      else return some ((← mark ",") :: found, true)
    else if parameterNext then
      let attributes := .sequence (← outerAttributes)
      if ← peekMark "..." then
        let variadic : Node := .node .variadic [attributes, .absent, .absent, ← mark "..."]
        return some (variadic :: found, false)
      else
        let next ← parameter attributes
        if next.isKind .receiver && found.any (Tree.isKind .receiver) then
          refuse "unexpected second method receiver"
        else if next.isKind .receiver && !found.isEmpty then refuse "unexpected method receiver"
        else return some (next :: found, false)
    else return some ((← mark ",") :: found, true)
  return .sequence found.reverse

/-- A signature, and whether it says `safe`. -/
def signatureOrSafe (allowSafe : Bool) : Parser (Node × Bool) := do
  let constant ← optionalWord "const"
  let asynchrony ← optionalWord "async"
  let unsafety ← optionalWord "unsafe"
  let isSafe ← do pure (allowSafe && unsafety.isAbsent && (← peekWord "safe"))
  let safety ← if isSafe then take else pure unsafety
  let interface ← abi
  let keyword ← word "fn"
  let name ← identifier
  let parameterNames ← generics
  let inputs ← group .parenthesis parameters
  let output ← returnType true
  let constraints ← whereClause
  return (.node .signature [constant, asynchrony, safety, interface, keyword, name,
    parameterNames, constraints, inputs.opening, inputs.content, inputs.closing, output], isSafe)

def signature : Parser Node := do
  return (← signatureOrSafe false).1

def functionBehind (kind : Kind) (attributes : List Node) (visible mode declared : Node) :
    Parser Node := do
  let found ← body
  return .node kind [.sequence attributes, found.inner, visible, mode, declared, found.block]

/-- A function that is not a member. -/
def function : Parser Node := do
  let attributes ← outerAttributes
  let visible ← visibility
  functionBehind .function attributes visible .absent (← signature)

/-- A function of a trait, with or without a body. -/
def traitFunction : Parser Node := do
  let attributes ← outerAttributes
  let declared ← signature
  if ← peekGroup .brace then functionBehind .traitFunction attributes .absent .absent declared
  else if ← peekMark ";" then
    return .node .traitFunction
      [.sequence attributes, .sequence [], .absent, .absent, declared, ← mark ";"]
  else failExpected [.group .brace, .mark ";"]

def foreignFunction : Parser Node := do
  let attributes ← outerAttributes
  let visible ← visibility
  let declared ← signature
  return .node .foreignFunction
    [.sequence attributes, .sequence [], visible, .absent, declared, ← mark ";"]

end Grammar
end Instrument
