import Instrument.Grammar.Parser

/-!
# Attributes and macro invocations

Both start with a path of plain names.  What follows in brackets is kept as tokens, except for the
value of `name = value`, which is an expression.
-/

namespace Instrument
namespace Grammar

open Instrument.Parser

/-- A word that can be a segment of a plain path. -/
def plainSegments : List Terminal :=
  [.identifier, .keyword "super", .keyword "self", .keyword "Self", .keyword "crate"]

def plainSegment (name : Node) : Node :=
  .node .segment [name, .absent]

/-- A path that consists of one name. -/
def pathOfName (name : Node) : Node :=
  .node .path [.absent, .sequence [plainSegment name]]

def plainPath : Parser Node := do
  let leading ← optionalMark "::"
  let segments ← repeating (([], true) : List Node × Bool) fun (found, segmentNext) => do
    if segmentNext then
      if ← peekAny plainSegments then return some (plainSegment (← anyWord) :: found, false)
      else return none
    else if ← peekMark "::" then return some ((← mark "::") :: found, true)
    else return none
  match segments with
  | ([], _) => identifier
  | (found, endsInSeparator) =>
    if endsInSeparator then failHere (.missing "path segment after `::`")
    else return .node .path [leading, .sequence found.reverse]

/-- Tokens in brackets of any kind, kept as they are. -/
def bracketed : Parser (Enclosed Node) := do
  if ← peekGroup .parenthesis then group .parenthesis keepRest
  else if ← peekGroup .brace then group .brace keepRest
  else if ← peekGroup .bracket then group .bracket keepRest
  else failHere (.missing "delimiter")

/-- The rest of an invocation behind its path. -/
def invocationBehind (path : Node) : Parser Node := do
  let bang ← mark "!"
  let arguments ← bracketed
  return .node .invocation [path, bang, arguments.opening, arguments.content, arguments.closing]

/-- The token in front of the cursor is a closing brace. -/
def behindBrace : Parser Bool := do
  let cursor ← get
  match (← read).tokens[cursor.position - 1]? with
  | some ⟨.closing .brace, _⟩ => return true
  | _ => return false

variable [Rules]

/-- A literal, which has a sign where it is negative. -/
def literal : Parser Node := do
  if ← peek .literal then
    if ← peekMark "-" then
      let sign ← take
      return .node .negativeNumber [sign, ← take]
    else take
  else failHere (.expected [.literal])

def literalExpression : Parser Node := do
  return .node .literal [.sequence [], ← literal]

def attributeContent : Parser Node := do
  let path ←
    if ← peekWord "unsafe" then pure (pathOfName (← take)) else plainPath
  if ← peekAny [.group .parenthesis, .group .bracket, .group .brace] then
    let arguments ← bracketed
    return .node .metaList [path, arguments.opening, arguments.content, arguments.closing]
  else if ← peekMark "=" then
    let equals ← mark "="
    let isLiteral ← do
      if ← peek .literal then lookAhead (do let _ ← literal; atEnd) else pure false
    let value ←
      if isLiteral then literalExpression
      else if (← peekMark "#") && (← peekBehind 1 (.group .bracket)) then
        failHere (.refused "unexpected attribute inside of attribute")
      else Rules.parse (.expression true)
    return .node .metaValue [path, equals, value]
  else return .node .metaPath [path]

def outerAttribute : Parser Node := do
  let hash ← mark "#"
  let body ← group .bracket attributeContent
  return .node .outerAttribute [hash, body.opening, body.content, body.closing]

def innerAttribute : Parser Node := do
  let hash ← mark "#"
  let bang ← mark "!"
  let body ← group .bracket attributeContent
  return .node .innerAttribute [hash, bang, body.opening, body.content, body.closing]

def outerAttributes : Parser (List Node) :=
  manyWhile (peekMark "#") outerAttribute

/-- All attributes at the start of a body. -/
def innerAttributes : Parser (List Node) :=
  manyWhile (do return (← peekMark "#") && (← peekBehind 1 (.mark "!"))) innerAttribute

end Grammar
end Instrument
