import Instrument.Grammar.Type

/-!
# Patterns

A name alone binds; followed by a path separator, brackets or a range it refers to something that
exists.  Alternatives are read by `alternatives`, one alternative by the rule of the grammar.
-/

namespace Instrument
namespace Grammar

open Instrument.Parser

def peekBar : Parser Bool := do
  return (← peekMark "|") && !(← peekMark "||") && !(← peekMark "|=")

variable [Rules]

/-- A pattern of alternatives, perhaps with a bar in front. -/
def alternatives : Parser Node := do
  let leading ← optionalMark "|"
  let first ← Rules.parse .pattern
  if leading.isPresent || (← peekBar) then
    let found ← repeating [first] fun found => do
      if ← peekBar then
        let bar ← mark "|"
        return some ((← Rules.parse .pattern) :: bar :: found)
      else return none
    return .node .orPattern [.sequence [], leading, .sequence found.reverse]
  else return first

/-- The limits of a range in an expression. -/
def rangeLimits : Parser Node := do
  if ← peekMark "..=" then mark "..="
  else if (← peekMark "..") && !(← peekMark "...") then mark ".."
  else failExpected [.mark "..", .mark "..="]

/-- The limits of a range in a pattern, which may have three dots. -/
def patternLimits : Parser Node := do
  if ← peekMark "..=" then mark "..="
  else if ← peekMark "..." then mark "..."
  else if ← peekMark ".." then mark ".."
  else failExpected [.mark "..", .mark "..=", .mark "..."]

/-- Limits that include the upper bound. -/
def isClosed (limits : Node) : Bool :=
  match limits with
  | .leaf (.operator _ count) => count == 3
  | _ => false

def pathExpression : Parser Node := do
  return .node .pathExpression [.sequence [], ← path true]

def constBlock : Parser Node := do
  let keyword ← word "const"
  let body ← group .brace do
    let inner ← innerAttributes
    pure (inner, ← Rules.parse .statements)
  let (inner, statements) := body.content
  return .node .constBlock [.sequence [], .sequence inner, keyword,
    .node .block [body.opening, statements, body.closing]]

/-- The bound of a range in a pattern, if one follows. -/
def rangeBound : Parser Node := do
  if (← atEnd) || (← peekMark "|") || (← peekMark "=") || (← peekColon) ||
      (← peekAny [.mark ",", .mark ";", .keyword "if"]) then return .absent
  else if ← peek .literal then literalExpression
  else
    let pathStart : List Terminal :=
      [.identifier, .mark "::", .mark "<", .keyword "self", .keyword "Self", .keyword "super",
        .keyword "crate"]
    if ← peekAny pathStart then pathExpression
    else if ← peekWord "const" then constBlock
    else failExpected (.literal :: pathStart ++ [.keyword "const"])

/-- The rest of a range pattern behind its lower bound. -/
def rangeBehind (lower : Node) : Parser Node := do
  let limits ← patternLimits
  let upper ← rangeBound
  if isClosed limits && upper.isAbsent then
    failHere (.refused "expected range upper bound")
  else return .node .range [.sequence [], lower, limits, upper]

/-- A literal, or a range that starts with one. -/
def literalPattern : Parser Node := do
  let lower ← rangeBound
  if ← peekMark ".." then rangeBehind lower else return lower

/-- A range without a lower bound, or the dots that stand for everything else. -/
def dotsPattern : Parser Node := do
  let limits ← rangeLimits
  let upper ← rangeBound
  if upper.isPresent then return .node .range [.sequence [], .absent, limits, upper]
  else if isClosed limits then failHere (.refused "expected range upper bound")
  else return .node .restPattern [.sequence [], limits]

def namePattern : Parser Node := do
  let byReference ← optionalWord "ref"
  let mutable ← optionalWord "mut"
  let name ← if ← peekWord "self" then take else identifier
  if ← peekMark "@" then
    let separator ← mark "@"
    return .node .namePattern
      [.sequence [], byReference, mutable, name, separator, ← Rules.parse .pattern]
  else return .node .namePattern [.sequence [], byReference, mutable, name, .absent, .absent]

/-- The numbers of fields are below this one. -/
def fieldBound : Nat := Nat.pow 2 32

/-- The name or number of a field. -/
def member : Parser Node := do
  if ← peek .identifier then take
  else if ← peek .integer then
    let cursor ← get
    match lexemeIn (← read) cursor cursor.position with
    | some (.literal text) =>
      match Token.integerParts? text.toList with
      | some (value, []) =>
        if value < fieldBound then return .leaf (.number (← advance 1))
        else refuse "number too large to fit in target type"
      | _ => refuse "expected unsuffixed integer"
    | _ => failHere (.missing "identifier or integer")
  else failHere (.missing "identifier or integer")

def fieldPattern (attributes : Node) : Parser Node := do
  let start ← here
  let boxed ← optionalWord "box"
  let byReference ← optionalWord "ref"
  let mutable ← optionalWord "mut"
  let isPlain := boxed.isAbsent && byReference.isAbsent && mutable.isAbsent
  let isNumber ← do pure (!(← peek .identifier))
  let name ← if isPlain then member else identifier
  if (isPlain && (← peekMark ":")) || (isPlain && isNumber) then
    let colon ← mark ":"
    return .node .fieldPattern [attributes, name, colon, ← alternatives]
  else if boxed.isPresent then
    return .node .fieldPattern [attributes, .absent, .absent, ← keptSince start]
  else
    return .node .fieldPattern [attributes, .absent, .absent,
      .node .namePattern [.sequence [], byReference, mutable, name, .absent, .absent]]

/-- The fields of a struct pattern and the dots behind them. -/
def structPatternFields : Parser (Node × Node) := do
  let (found, rest, _) ← repeating (([], Tree.absent, true) : List Node × Node × Bool)
    fun (found, rest, fieldNext) => do
      if (← atEnd) || rest.isPresent then return none
      else if fieldNext then
        let attributes := .sequence (← outerAttributes)
        if ← peekMark ".." then
          return some (found, .node .restPattern [attributes, ← mark ".."], false)
        else return some ((← fieldPattern attributes) :: found, rest, false)
      else return some ((← mark ",") :: found, rest, true)
  return (.sequence found.reverse, rest)

/-- A pattern that starts with a path. -/
def pathPattern : Parser Node := do
  let found ← path true
  if (← peekMark "!") && !(← peekMark "!=") && isPlainPath found then
    return .node .macroExpression [.sequence [], ← invocationBehind found]
  else if ← peekGroup .brace then
    let body ← group .brace structPatternFields
    let (fields, rest) := body.content
    return .node .structPattern [.sequence [], found, body.opening, fields, rest, body.closing]
  else if ← peekGroup .parenthesis then
    let body ← group .parenthesis (commaSeparated alternatives)
    return .node .tupleStructPattern
      [.sequence [], found, body.opening, body.content, body.closing]
  else
    let plain := .node .pathExpression [.sequence [], found]
    if ← peekMark ".." then rangeBehind plain else return plain

/-- A pattern in parentheses: one pattern, or a tuple. -/
def tuplePattern : Parser Node := do
  let body ← group .parenthesis (commaSeparated alternatives)
  match body.content with
  | .node .sequence [only] =>
    if only.isKind .restPattern then
      return .node .tuplePattern [.sequence [], body.opening, body.content, body.closing]
    else return .node .parenthesizedPattern [.sequence [], body.opening, only, body.closing]
  | elements => return .node .tuplePattern [.sequence [], body.opening, elements, body.closing]

/-- A range that lacks one of its bounds. -/
def isOpenRange : Node → Bool
  | .node .range [_, lower, _, upper] => lower.isAbsent || upper.isAbsent
  | _ => false

def slicePattern : Parser Node := do
  let body ← group .bracket (commaSeparated do
    let element ← alternatives
    if isOpenRange element then
      refuse "range pattern is not allowed unparenthesized inside slice pattern"
    else return element)
  return .node .slicePattern [.sequence [], body.opening, body.content, body.closing]

def referencePattern : Parser Node := do
  let ampersand ← mark "&"
  let mutable ← optionalWord "mut"
  return .node .referencePattern [.sequence [], ampersand, mutable, ← Rules.parse .pattern]

/-- What makes a path of a name in front of it. -/
def behindPathName : List Terminal :=
  [.mark "::", .mark "!", .group .brace, .group .parenthesis, .mark ".."]

/-- A name is followed by one of the terminals. -/
def peekBehindAny (terminals : List Terminal) : Parser Bool := do
  let cursor ← get
  let source ← read
  return terminals.any fun terminal =>
    stands terminal source cursor (behindTrees source cursor.position 1)

/-- A path stands here, and not a name that is bound. -/
def peekPathPattern : Parser Bool := do
  if (← peek .identifier) && (← peekBehindAny behindPathName) then return true
  else if (← peekWord "self") && (← peekBehind 1 (.mark "::")) then return true
  else peekAny [.mark "::", .mark "<", .keyword "Self", .keyword "super", .keyword "crate"]

/-- A pattern without alternatives at its top. -/
def pattern : Parser Node := do
  if ← peekPathPattern then pathPattern
  else if ← peekWord "_" then return .node .wildcardPattern [.sequence [], ← take]
  else if ← peekWord "box" then
    let start ← advance 1
    let _ ← Rules.parse .pattern
    keptSince start
  else if ← peekAny [.mark "-", .literal, .keyword "const"] then literalPattern
  else if ← peekAny [.keyword "ref", .keyword "mut", .keyword "self", .identifier] then
    namePattern
  else if ← peekMark "&" then referencePattern
  else if ← peekGroup .parenthesis then tuplePattern
  else if ← peekGroup .bracket then slicePattern
  else if (← peekMark "..") && !(← peekMark "...") then dotsPattern
  else
    failExpected [.identifier, .mark "::", .mark "<", .keyword "_", .literal, .keyword "const",
      .keyword "ref", .keyword "mut", .mark "&", .group .parenthesis, .group .bracket, .mark "..",
      .keyword "const"]

end Grammar
end Instrument
