import Instrument.Grammar.Expression

/-!
# Statements

The statements of a block are read one after the other.  One that is an expression needs a
semicolon unless it is the last or ends in a block.  A semicolon without a statement is kept as a
statement of no tokens.
-/

namespace Instrument
namespace Grammar

open Instrument.Parser

variable [Rules]

/-- A `static` that declares an item, and does not start a closure. -/
def peekStaticItem : Parser Bool := do
  if !(← peekWord "static") then return false
  else if ← peekBehind 1 (.keyword "mut") then return true
  else if ← peekBehind 1 .identifier then return true
  else return false

/-- A `const` that declares an item, and does not start a block or a closure. -/
def peekConstItem : Parser Bool := do
  if !(← peekWord "const") then return false
  else if (← peekBehind 1 (.group .brace)) || (← peekBehind 1 (.keyword "static")) ||
      (← peekBehind 1 (.keyword "move")) || (← peekBehind 1 (.mark "|")) then return false
  else if ← peekBehind 1 (.keyword "async") then
    return (← peekBehind 2 (.keyword "unsafe")) || (← peekBehind 2 (.keyword "extern")) ||
      (← peekBehind 2 (.keyword "fn"))
  else return true

/-- An item starts here, and not an expression. -/
def peekItem : Parser Bool := do
  if ← peekAny [.keyword "pub", .keyword "extern", .keyword "use", .keyword "fn", .keyword "mod",
      .keyword "type", .keyword "struct", .keyword "enum", .keyword "trait", .keyword "impl",
      .keyword "macro"] then return true
  else if ← peekWord "crate" then return !(← peekBehind 1 (.mark "::"))
  else if ← peekStaticItem then return true
  else if ← peekConstItem then return true
  else if ← peekWord "unsafe" then return !(← peekBehind 1 (.group .brace))
  else if ← peekWord "async" then
    return (← peekBehind 1 (.keyword "unsafe")) || (← peekBehind 1 (.keyword "extern")) ||
      (← peekBehind 1 (.keyword "fn"))
  else if ← peekWord "union" then peekBehind 1 .identifier
  else if ← peekWord "auto" then peekBehind 1 (.keyword "trait")
  else if ← peekWord "default" then
    return (← peekBehind 1 (.keyword "unsafe")) || (← peekBehind 1 (.keyword "impl"))
  else return false

/-- What an invocation at the start of a statement turns it into. -/
inductive InvocationRole where
  | item
  | statement
  | expression

/-- The role of the invocation at the cursor, which follows from what stands behind it. -/
def invocationRole : Parser InvocationRole := lookAhead do
  match ← attempt plainPath with
  | none => return .expression
  | some _ =>
    if !(← peekMark "!") then return .expression
    else if (← peekBehind 1 .identifier) || (← peekBehind 1 (.keyword "try")) then return .item
    else if ← peekBehind 1 (.group .brace) then
      if (← peekBehind 2 (.mark ".")) && !(← peekBehind 2 (.mark "..")) then return .expression
      else if ← peekBehind 2 (.mark "?") then return .expression
      else return .statement
    else return .expression

/-- The token in front of the cursor ends an expression with a brace. -/
def elseMayFollow : Parser Bool := do
  return !(← behindBrace)

def letStatement (attributes : List Node) : Parser Node := do
  let keyword ← word "let"
  let bound ← Rules.parse .pattern
  let bound ← do
    if ← peekMark ":" then
      let colon ← mark ":"
      pure (.node .typedPattern [.sequence [], bound, colon, ← Rules.parse (.type true)])
    else pure bound
  let initializer ← do
    if ← peekMark "=" then
      let equals ← mark "="
      let value ← Rules.parse (.expression true)
      if (← elseMayFollow) && (← peekWord "else") then
        let keyword ← take
        let otherwise := .node .elseBranch [keyword, ← plainBlockExpression]
        pure (.node .initializer [equals, value, otherwise])
      else pure (.node .initializer [equals, value, .absent])
    else pure .absent
  let semicolon ← mark ";"
  return .node .letStatement [.sequence attributes, keyword, bound, initializer, semicolon]

/-- A statement that is an expression.  An invocation whose end is certain is a statement of its
own kind. -/
def expressionStatement (attributes : List Node) : Parser Node := do
  let found := addLeftmost attributes (← Rules.parse .leadingExpression)
  let semicolon ← optionalMark ";"
  match found with
  | .node .macroExpression [outer, invocation] =>
    if semicolon.isPresent || (← invocationInBraces invocation) then
      return .node .macroStatement [outer, invocation, semicolon]
    else return .node .expressionStatement [found, semicolon]
  | _ => return .node .expressionStatement [found, semicolon]

def statement : Parser Node := do
  let start ← here
  let attributes ← outerAttributes
  match ← invocationRole with
  | .statement =>
    let path ← plainPath
    let invocation ← invocationBehind path
    return .node .macroStatement [.sequence attributes, invocation, ← optionalMark ";"]
  | .item => Rules.parse (.itemBehind start attributes)
  | .expression =>
    if ← peekWord "let" then letStatement attributes
    else if ← peekItem then Rules.parse (.itemBehind start attributes)
    else expressionStatement attributes

/-- A statement cannot be followed by another one. -/
def isUnterminated : Node → Parser Bool
  | .node .expressionStatement [found, semicolon] => do
    if semicolon.isPresent then return false else needsSemicolon found
  | .node .macroStatement [_, invocation, semicolon] => do
    return semicolon.isAbsent && !(← invocationInBraces invocation)
  | _ => return false

/-- The statements up to the end of the group. -/
def statements : Parser Node := do
  let found ← repeating [] fun found => do
    if ← peekMark ";" then
      let empty : Node := .node .expressionStatement [.node .verbatim [], ← mark ";"]
      return some (empty :: found)
    else if ← atEnd then return none
    else
      let next ← statement
      if !(← atEnd) && (← isUnterminated next) then failHere .unterminatedStatement
      else return some (next :: found)
  return .sequence found.reverse

end Grammar
end Instrument
