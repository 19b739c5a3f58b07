import Instrument.Grammar.Pattern

/-!
# Expressions

Operators are read by their strength: `operators` takes the expression on the left and goes on as
long as the next operator binds at least as strongly as it is allowed to.  Operands are read without
looking at operators; what is attached behind them (calls, fields, indices) belongs to them.
-/

namespace Instrument
namespace Grammar

open Instrument.Parser

/-- The strength of operators, weakest first. -/
inductive Strength where
  | jump
  | assign
  | range
  | or
  | and
  | compare
  | bitOr
  | bitXor
  | bitAnd
  | shift
  | sum
  | product
  | cast
deriving DecidableEq, Repr

namespace Strength

/-- Strengths as numbers, so that they can be compared. -/
def rank : Strength → Nat
  | jump => 0
  | assign => 1
  | range => 2
  | or => 3
  | and => 4
  | compare => 6
  | bitOr => 7
  | bitXor => 8
  | bitAnd => 9
  | shift => 10
  | sum => 11
  | product => 12
  | cast => 13

end Strength

/-- The binary operators with their strengths.  An operator that starts with another one stands in
front of it. -/
def binaryOperators : List (String × Strength) :=
  [("+=", .assign), ("-=", .assign), ("*=", .assign), ("/=", .assign), ("%=", .assign),
    ("^=", .assign), ("&=", .assign), ("|=", .assign), ("<<=", .assign), (">>=", .assign),
    ("&&", .and), ("||", .or), ("<<", .shift), (">>", .shift), ("==", .compare),
    ("<=", .compare), ("!=", .compare), (">=", .compare), ("+", .sum), ("-", .sum),
    ("*", .product), ("/", .product), ("%", .product), ("^", .bitXor), ("&", .bitAnd),
    ("|", .bitOr), ("<", .compare), (">", .compare)]

def peekOperator : Parser (Option (String × Strength)) := do
  let cursor ← get
  let source ← read
  return binaryOperators.find? fun operator =>
    stands (.mark operator.1) source cursor cursor.position

/-- An equals sign that is not the start of an arrow. -/
def peekAssign : Parser Bool := do
  return (← peekMark "=") && !(← peekMark "=>")

/-- The strength of what follows an operand. -/
def peekStrength : Parser Nat := do
  match ← peekOperator with
  | some (_, strength) => return strength.rank
  | none =>
    if ← peekAssign then return Strength.assign.rank
    else if ← peekMark ".." then return Strength.range.rank
    else if ← peekWord "as" then return Strength.cast.rank
    else return Strength.jump.rank

/-- The attributes of an expression put in front of those it has. -/
def addAttributes (attributes : List Node) : Node → Node
  | .node .verbatim tokens => .node .verbatim tokens
  | .node kind (.node .sequence found :: parts) =>
    .node kind (.node .sequence (attributes ++ found) :: parts)
  | other => other

/-- The attributes in front of a statement belong to the leftmost operand of its operators. -/
def addLeftmost (attributes : List Node) : Node → Node
  | .node .assign (outer :: left :: rest) =>
    .node .assign (outer :: addLeftmost attributes left :: rest)
  | .node .binary (outer :: left :: rest) =>
    .node .binary (outer :: addLeftmost attributes left :: rest)
  | .node .cast (outer :: operand :: rest) =>
    .node .cast (outer :: addLeftmost attributes operand :: rest)
  | other => addAttributes attributes other

/-- The kinds of expressions that can stand as a statement without a semicolon. -/
def blockKinds : List Kind :=
  [.ifExpression, .matchExpression, .blockExpression, .unsafeBlock, .whileLoop, .loopExpression,
    .forLoop, .tryBlock, .constBlock]

/-- The expression is a block, or a construct that ends in one. -/
def isBlockLike (node : Node) : Bool :=
  match node.kind? with
  | some kind => blockKinds.contains kind
  | none => false

/-- The bracket that opens the arguments of an invocation is a brace, in a given source. -/
def opensBrace (source : Source) : Node → Bool
  | .leaf (.read position) =>
    (source.tokens[position]?).map Token.lexeme == some (.opening .brace)
  | _ => false

/-- The arguments of an invocation stand in braces. -/
def invocationInBraces (node : Node) : Parser Bool := do
  match node with
  | .node .invocation [_, _, opening, _, _] => return opensBrace (← read) opening
  | _ => return false

/-- An expression needs a semicolon to be a statement in front of another one. -/
def needsSemicolon (node : Node) : Parser Bool := do
  match node with
  | .node .macroExpression [_, invocation] => return !(← invocationInBraces invocation)
  | _ => return !isBlockLike node

variable [Rules]

/-- A block in braces with the attributes at its start. -/
structure Body where
  inner : Node
  block : Node

/-- A block with attributes at its start. -/
def body : Parser Body := do
  let found ← group .brace do
    let inner ← innerAttributes
    pure (inner, ← Rules.parse .statements)
  let (inner, statements) := found.content
  return ⟨.sequence inner, .node .block [found.opening, statements, found.closing]⟩

/-- A block without attributes at its start. -/
def block : Parser Node := do
  let found ← group .brace (Rules.parse .statements)
  return .node .block [found.opening, found.content, found.closing]

def plainBlockExpression : Parser Node := do
  return .node .blockExpression [.sequence [], .sequence [], .absent, ← block]

/-- An expression in front of a block. -/
def condition : Parser Node := Rules.parse (.expression false)

def label : Parser Node := do
  if ← peek .lifetime then
    let name ← take
    return .node .label [name, ← mark ":"]
  else return .absent

def blockExpression : Parser Node := do
  let attributes ← outerAttributes
  let name ← label
  let found ← body
  return .node .blockExpression [.sequence attributes, found.inner, name, found.block]

def whileLoop (name : Node) : Parser Node := do
  let keyword ← word "while"
  let test ← condition
  let found ← body
  return .node .whileLoop [.sequence [], found.inner, name, keyword, test, found.block]

def forLoop (name : Node) : Parser Node := do
  let keyword ← word "for"
  let element ← alternatives
  let separator ← word "in"
  let iterated ← condition
  let found ← body
  return .node .forLoop
    [.sequence [], found.inner, name, keyword, element, separator, iterated, found.block]

/-- A loop without an end of its own. -/
def loopExpression (name : Node) : Parser Node := do
  let keyword ← word "loop"
  let found ← body
  return .node .loopExpression [.sequence [], found.inner, name, keyword, found.block]

/-- A loop or block behind a label. -/
def labelled : Parser Node := do
  let name ← label
  if ← peekWord "while" then whileLoop name
  else if ← peekWord "for" then forLoop name
  else if ← peekWord "loop" then loopExpression name
  else if ← peekGroup .brace then
    let found ← body
    return .node .blockExpression [.sequence [], found.inner, name, found.block]
  else failHere (.missing "loop or block expression")

/-- The clauses of a conditional, innermost last. -/
structure Clause where
  keyword : Node
  test : Node
  body : Node

def clause : Parser Clause := do
  let keyword ← word "if"
  let test ← condition
  return ⟨keyword, test, ← block⟩

/-- A conditional made of clauses and what follows the last one. -/
def conditionalOf (clauses : List (Clause × Node)) (last : Clause) (otherwise : Node) : Node :=
  let innermost := .node .ifExpression [.sequence [], last.keyword, last.test, last.body, otherwise]
  clauses.foldl (fun inner (outer, keyword) =>
    .node .ifExpression [.sequence [], outer.keyword, outer.test, outer.body,
      .node .elseBranch [keyword, inner]]) innermost

/-- How far the clauses of a conditional have been read. -/
inductive Clauses where
  | reading (outer : List (Clause × Node)) (last : Clause)
  | finished (conditional : Node)

def ifExpression : Parser Node := do
  let first ← clause
  let clauses ← repeating (Clauses.reading [] first) fun
    | .finished _ => return none
    | .reading outer last => do
      if ← peekWord "else" then
        let keyword ← take
        if ← peekWord "if" then return some (.reading ((last, keyword) :: outer) (← clause))
        else if ← peekGroup .brace then
          let otherwise := .node .elseBranch [keyword, ← plainBlockExpression]
          return some (.finished (conditionalOf outer last otherwise))
        else failExpected [.keyword "if", .group .brace]
      else return some (.finished (conditionalOf outer last .absent))
  match clauses with
  | .finished conditional => return conditional
  | .reading outer last => return conditionalOf outer last .absent

def arm : Parser Node := do
  let attributes ← outerAttributes
  let tested ← alternatives
  let guard ← do
    if ← peekWord "if" then
      let keyword ← take
      pure (.node .guard [keyword, ← Rules.parse (.expression true)])
    else pure .absent
  let arrow ← mark "=>"
  let result ← Rules.parse .leadingExpression
  let comma ←
    if !isBlockLike result && !(← atEnd) then mark "," else optionalMark ","
  return .node .arm [.sequence attributes, tested, guard, arrow, result, comma]

def matchExpression : Parser Node := do
  let keyword ← word "match"
  let scrutinee ← condition
  let found ← group .brace do
    let inner ← innerAttributes
    pure (inner, ← manyWhile (do return !(← atEnd)) arm)
  let (inner, arms) := found.content
  return .node .matchExpression [.sequence [], .sequence inner, keyword, scrutinee,
    .node .members [found.opening, .sequence arms, found.closing]]

def tryBlock : Parser Node := do
  let keyword ← word "try"
  return .node .tryBlock [.sequence [], keyword, ← block]

def unsafeBlock : Parser Node := do
  let keyword ← word "unsafe"
  let found ← body
  return .node .unsafeBlock [.sequence [], found.inner, keyword, found.block]

def asyncBlock : Parser Node := do
  let keyword ← word "async"
  let capture ← optionalWord "move"
  return .node .asyncBlock [.sequence [], keyword, capture, ← block]

def closureParameter : Parser Node := do
  let attributes ← outerAttributes
  let bound ← Rules.parse .pattern
  if ← peekMark ":" then
    let colon ← mark ":"
    return .node .typedPattern [.sequence attributes, bound, colon, ← Rules.parse (.type true)]
  else return addAttributes attributes bound

def closure (allowStruct : Bool) : Parser Node := do
  let binding ← binder
  let constant ← optionalWord "const"
  let movability ← optionalWord "static"
  let asynchrony ← optionalWord "async"
  let capture ← optionalWord "move"
  let opening ← mark "|"
  let inputs ← separatedUntil (peekMark "|") closureParameter (mark ",")
  let closing ← mark "|"
  let (output, result) ← do
    if ← peekMark "->" then
      let arrow ← mark "->"
      let type ← Rules.parse (.type true)
      pure (.node .returnType [arrow, type], ← plainBlockExpression)
    else pure (.absent, ← Rules.parse (.expression allowStruct))
  return .node .closure [.sequence [], binding, constant, movability, asynchrony, capture, opening,
    .sequence inputs, closing, output, result]

def peekExpression : Parser Bool := do
  if (← peek .word) && !(← peekWord "as") then return true
  else if ← peekAny [.group .parenthesis, .group .bracket, .group .brace, .literal, .mark "..",
      .mark "::", .lifetime, .mark "#"] then return true
  else if ← peekMark "!" then return !(← peekMark "!=")
  else if ← peekMark "-" then return !(← peekMark "-=") && !(← peekMark "->")
  else if ← peekMark "*" then return !(← peekMark "*=")
  else if ← peekMark "|" then return !(← peekMark "|=")
  else if ← peekMark "&" then return !(← peekMark "&=")
  else if ← peekMark "<" then return !(← peekMark "<=") && !(← peekMark "<<=")
  else return false

/-- An expression that follows a keyword, if one does. -/
def optionalExpression : Parser Node := do
  if ← peekExpression then Rules.parse (.expression true) else return .absent

def breakExpression (allowStruct : Bool) : Parser Node := do
  let keyword ← word "break"
  if (← peek .lifetime) && (← peekBehind 1 (.mark ":")) then
    let _ ← Rules.parse (.expression true)
    refuse "parentheses required"
  else
    let target ← optionalLifetime
    let hasValue ← do
      if ← peekExpression then pure (allowStruct || !(← peekGroup .brace)) else pure false
    let value ← if hasValue then Rules.parse (.expression true) else pure .absent
    return .node .breakExpression [.sequence [], keyword, target, value]

/-- A range without a lower bound ends here. -/
def rangeEndsHere (allowStruct : Bool) : Parser Bool := do
  if (← atEnd) || (!allowStruct && (← peekGroup .brace)) then return true
  else if (← peekMark ".") && !(← peekMark "..") then return true
  else
    peekAny [.mark ",", .mark ";", .mark "?", .mark "=>", .mark "=", .mark "+", .mark "/",
      .mark "%", .mark "^", .mark ">", .mark "<=", .mark "!=", .mark "-=", .mark "*=", .mark "&=",
      .mark "|=", .mark "<<=", .keyword "as"]

/-- The operand on the right of an operator, with all operators in it that bind more strongly. -/
def rightOperand (allowStruct : Bool) (strength : Nat) : Parser Node := do
  let first ← Rules.parse (.operand allowStruct)
  let (operand, _) ← repeating (first, true) fun (operand, goOn) => do
    let next ← peekStrength
    if goOn && (strength < next ||
        (next == strength && strength == Strength.assign.rank)) then
      let before ← here
      let extended ← Rules.parse (.operators operand allowStruct next)
      return some (extended, before != (← here))
    else return none
  return operand

/-- The upper bound of a range, if it has one. -/
def rangeEnd (limits : Node) (allowStruct : Bool) : Parser Node := do
  if !isClosed limits && (← rangeEndsHere allowStruct) then return .absent
  else rightOperand allowStruct Strength.range.rank

/-- A cast cannot be followed by what attaches itself to an operand. -/
def checkCast : Parser Unit := do
  let follower ← do
    if (← peekMark ".") && !(← peekMark "..") then
      if ← peekBehind 1 (.keyword "await") then pure (some "`.await`")
      else if (← peekBehind 1 .identifier) &&
          ((← peekBehind 2 (.group .parenthesis)) || (← peekBehind 2 (.mark "::"))) then
        pure (some "a method call")
      else pure (some "a field access")
    else if ← peekMark "?" then pure (some "`?`")
    else if ← peekGroup .bracket then pure (some "indexing")
    else if ← peekGroup .parenthesis then pure (some "a function call")
    else pure none
  match follower with
  | some what => failHere (.refused ("casts cannot be followed by " ++ what))
  | none => return ()

/-- A comparison is not an operand of another one. -/
def isComparison (source : Source) : Node → Bool
  | .node .binary [_, _, .leaf sign, _] =>
    ["==", "<", "<=", "!=", ">=", ">"].contains (sign.token source).text
  | _ => false

/-- The operators behind an operand, as far as they bind at least as strongly as `weakest`. -/
def operators (left : Node) (allowStruct : Bool) (weakest : Nat) : Parser Node := do
  repeating left fun left => do
    if left.isKind .range then return none
    else match ← peekOperator with
    | some (sign, strength) =>
      if strength.rank < weakest then return none
      else if strength == .compare && isComparison (← read) left then
        failHere (.refused "comparison operators cannot be chained")
      else
        let operator ← mark sign
        let right ← rightOperand allowStruct strength.rank
        return some (.node .binary [.sequence [], left, operator, right])
    | none =>
      if decide (weakest ≤ Strength.assign.rank) && (← peekAssign) then
        let equals ← mark "="
        let right ← rightOperand allowStruct Strength.assign.rank
        return some (.node .assign [.sequence [], left, equals, right])
      else if decide (weakest ≤ Strength.range.rank) && (← peekMark "..") then
        let limits ← rangeLimits
        return some (.node .range [.sequence [], left, limits, ← rangeEnd limits allowStruct])
      else if decide (weakest ≤ Strength.cast.rank) && (← peekWord "as") then
        let keyword ← take
        let type ← Rules.parse (.type false)
        checkCast
        return some (.node .cast [.sequence [], left, keyword, type])
      else return none

/-- A field of a struct expression. -/
def fieldValue : Parser Node := do
  let attributes ← outerAttributes
  let isNamed ← peek .identifier
  let name ← member
  if (← peekMark ":") || !isNamed then
    let colon ← mark ":"
    return .node .fieldValue
      [.sequence attributes, name, colon, ← Rules.parse (.expression true)]
  else return .node .fieldValue [.sequence attributes, name, .absent, .absent]

/-- The fields of a struct expression, the dots behind them, and the struct they are completed
from. -/
def structFields : Parser (Node × Node × Node) := do
  let (found, dots, _) ← repeating (([], Tree.absent, true) : List Node × Node × Bool)
    fun (found, dots, fieldNext) => do
      if (← atEnd) || dots.isPresent then return none
      else if fieldNext then
        if ← peekMark ".." then return some (found, ← mark "..", false)
        else return some ((← fieldValue) :: found, dots, false)
      else return some ((← mark ",") :: found, dots, true)
  let rest ←
    if dots.isAbsent || (← atEnd) then pure .absent else Rules.parse (.expression true)
  return (.sequence found.reverse, dots, rest)

/-- An expression that starts with a path: an invocation, a struct, or the path alone. -/
def fromPath (allowStruct : Bool) : Parser Node := do
  let found ← path true
  if (← peekMark "!") && !(← peekMark "!=") && isPlainPath found then
    return .node .macroExpression [.sequence [], ← invocationBehind found]
  else if allowStruct && (← peekGroup .brace) then
    let fields ← group .brace structFields
    let (values, dots, rest) := fields.content
    return .node .structExpression
      [.sequence [], found, fields.opening, values, dots, rest, fields.closing]
  else return .node .pathExpression [.sequence [], found]

/-- Parentheses around an expression, or a tuple. -/
def tuple : Parser Node := do
  let found ← group .parenthesis (commaSeparated (Rules.parse (.expression true)))
  match found.content with
  | .node .sequence [only] =>
    return .node .parenthesized [.sequence [], found.opening, only, found.closing]
  | elements => return .node .tuple [.sequence [], found.opening, elements, found.closing]

/-- An array by its elements, or by one element and a number. -/
def array : Parser Node := do
  let found ← group .bracket do
    if ← atEnd then pure (Tree.sequence [], Tree.absent, Tree.absent)
    else
      let first ← Rules.parse (.expression true)
      if (← atEnd) || (← peekMark ",") then
        let (rest, _) ← repeating (([first], false) : List Node × Bool)
          fun (found, elementNext) => do
            if ← atEnd then return none
            else if elementNext then
              return some ((← Rules.parse (.expression true)) :: found, false)
            else return some ((← mark ",") :: found, true)
        pure (.sequence rest.reverse, .absent, .absent)
      else if ← peekMark ";" then
        let semicolon ← mark ";"
        pure (first, semicolon, ← Rules.parse (.expression true))
      else failHere (.missing "`,` or `;`")
  let (first, semicolon, length) := found.content
  if semicolon.isPresent then
    return .node .repetition
      [.sequence [], found.opening, first, semicolon, length, found.closing]
  else return .node .array [.sequence [], found.opening, first, found.closing]

def letExpression (allowStruct : Bool) : Parser Node := do
  let keyword ← word "let"
  let bound ← alternatives
  let equals ← mark "="
  let left ← Rules.parse (.operand allowStruct)
  let value ← Rules.parse (.operators left allowStruct Strength.compare.rank)
  return .node .letExpression [.sequence [], keyword, bound, equals, value]

def peekClosure : Parser Bool := do
  if (← peekMark "|") || (← peekWord "move") || (← peekWord "static") then return true
  else if ← peekWord "for" then peekParameters 1
  else if ← peekWord "const" then return !(← peekBehind 1 (.group .brace))
  else if ← peekWord "async" then
    return (← peekBehind 1 (.mark "|")) || (← peekBehind 1 (.keyword "move"))
  else return false

/-- A block that runs later starts here. -/
def peekAsyncBlock : Parser Bool := do
  if ← peekWord "async" then
    if ← peekBehind 1 (.group .brace) then return true
    else return (← peekBehind 1 (.keyword "move")) && (← peekBehind 2 (.group .brace))
  else return false

/-- An expression starts with a path here. -/
def peekPath : Parser Bool := do
  if ← peekAny [.identifier, .mark "::", .mark "<", .keyword "self", .keyword "Self",
      .keyword "super", .keyword "crate"] then return true
  else if ← peekWord "try" then
    return (← peekBehind 1 (.mark "!")) || (← peekBehind 1 (.mark "::"))
  else return false

/-- An expression that only its tokens are kept of. -/
def keptExpression : Parser (Option Node) := do
  let start ← here
  if ← peekWord "become" then
    let _ ← take
    let _ ← Rules.parse (.expression true)
    return some (← keptSince start)
  else if (← peekWord "builtin") && (← peekBehind 1 (.mark "#")) then
    let _ ← advance 2
    let _ ← identifier
    let _ ← group .parenthesis keepRest
    return some (← keptSince start)
  else return none

/-- A keyword followed by an optional expression. -/
def jump (kind : Kind) (keyword : String) : Parser Node := do
  let found ← word keyword
  return .node kind [.sequence [], found, ← optionalExpression]

/-- An operand without what is attached behind it. -/
def atom (allowStruct : Bool) : Parser Node := do
  if ← peek .literal then literalExpression
  else if ← peekAsyncBlock then asyncBlock
  else if (← peekWord "try") && (← peekBehind 1 (.group .brace)) then tryBlock
  else if ← peekClosure then closure allowStruct
  else match ← keptExpression with
  | some kept => return kept
  | none =>
    if ← peekPath then fromPath allowStruct
    else if ← peekGroup .parenthesis then tuple
    else if ← peekWord "break" then breakExpression allowStruct
    else if ← peekWord "continue" then
      let keyword ← take
      return .node .continueExpression [.sequence [], keyword, ← optionalLifetime]
    else if ← peekWord "return" then jump .returnExpression "return"
    else if ← peekGroup .bracket then array
    else if ← peekWord "let" then letExpression allowStruct
    else if ← peekWord "if" then ifExpression
    else if ← peekWord "while" then whileLoop .absent
    else if ← peekWord "for" then forLoop .absent
    else if ← peekWord "loop" then loopExpression .absent
    else if ← peekWord "match" then matchExpression
    else if ← peekWord "yield" then jump .yieldExpression "yield"
    else if ← peekWord "unsafe" then unsafeBlock
    else if ← peekWord "const" then constBlock
    else if ← peekGroup .brace then blockExpression
    else if ← peekMark ".." then
      let limits ← rangeLimits
      return .node .range [.sequence [], .absent, limits, ← rangeEnd limits allowStruct]
    else if ← peekWord "_" then return .node .inferred [.sequence [], ← take]
    else if ← peek .lifetime then labelled
    else failHere (.missing "an expression")

/-- The numbers of two field accesses that were written like one floating-point number, and whether
a dot is left behind them. -/
def floatMembers (position : Nat) (text : List Char) : Option (List Node × Bool) :=
  let trailing := text.getLast? == some '.'
  let digits := if trailing then text.dropLast else text
  let first := digits.takeWhile (· != '.')
  let rest := digits.drop (first.length + 1)
  let isNumber (part : List Char) : Bool :=
    match Token.integerParts? part with
    | some (value, []) => decide (value < fieldBound)
    | _ => false
  let number (start : Nat) (part : List Char) : Node :=
    .leaf (.piece position start part.length)
  if digits.contains '.' then
    if isNumber first && isNumber rest then
      some ([number 0 first, .leaf (.dot position), number (first.length + 1) rest], trailing)
    else none
  else if isNumber first then some ([number 0 first], trailing)
  else none

def accessFields (operand dot : Node) : List Node → Node
  | [] => operand
  | [name] => .node .fieldAccess [.sequence [], operand, dot, name]
  | name :: next :: rest =>
    accessFields (.node .fieldAccess [.sequence [], operand, dot, name]) next rest

/-- Why a floating-point number does not stand for two field accesses. -/
def refuseFloat {α : Type} (text : List Char) : Parser α :=
  let parts := [text.takeWhile (· != '.'), (text.dropWhile (· != '.')).drop 1]
  if parts.any fun part => Token.isFloat part then refuse "expected integer literal"
  else refuse "expected unsuffixed integer"

/-- The name, number or call behind a dot. -/
def memberBehind (operand dot : Node) : Parser Node := do
  let isNamed ← peek .identifier
  let name ← member
  let turbofish ← if isNamed && (← peekMark "::") then
      angleArgumentsBehind (← mark "::") else pure .absent
  if isNamed && (turbofish.isPresent || (← peekGroup .parenthesis)) then
    let inputs ← group .parenthesis (commaSeparated (Rules.parse (.expression true)))
    return .node .methodCall [.sequence [], operand, dot, name, turbofish, inputs.opening,
      inputs.content, inputs.closing]
  else return .node .fieldAccess [.sequence [], operand, dot, name]

/-- What stands behind a dot, unless it is a floating-point number. -/
def awaitOrMember (operand dot : Node) : Parser Node := do
  if ← peekWord "await" then return .node .await [.sequence [], operand, dot, ← take]
  else memberBehind operand dot

def behindDot (operand dot : Node) : Parser Node := do
  let cursor ← get
  match lexemeIn (← read) cursor cursor.position with
  | some (.literal text) =>
    if Token.isFloat text.toList then
      match floatMembers cursor.position text.toList with
      | some (members, trailing) =>
        let _ ← advance 1
        let found := accessFields operand dot members
        if trailing then awaitOrMember found (.leaf (.dot cursor.position)) else return found
      | none => refuseFloat text.toList
    else awaitOrMember operand dot
  | _ => awaitOrMember operand dot

/-- What is attached behind an operand: calls, fields, indices, and the mark that passes errors
on. -/
def trailers (operand : Node) : Parser Node := do
  repeating operand fun operand => do
    if ← peekGroup .parenthesis then
      let inputs ← group .parenthesis (commaSeparated (Rules.parse (.expression true)))
      return some (.node .call
        [.sequence [], operand, inputs.opening, inputs.content, inputs.closing])
    else if (← peekMark ".") && !(← peekMark "..") && !operand.isKind .range then
      let dot ← mark "."
      return some (← behindDot operand dot)
    else if ← peekGroup .bracket then
      let found ← group .bracket (Rules.parse (.expression true))
      return some (.node .index
        [.sequence [], operand, found.opening, found.content, found.closing])
    else if (← peekMark "?") && !operand.isKind .range then
      return some (.node .tryExpression [.sequence [], operand, ← take])
    else return none

/-- An operand behind its attributes, which start at a position. -/
def operandBehind (start : Nat) (attributes : List Node) (allowStruct : Bool) : Parser Node := do
  let found ← trailers (← atom allowStruct)
  if found.isKind .verbatim then keptSince start
  else if found.isKind .range && !attributes.isEmpty then
    refuse "attributes are not allowed on range expressions"
  else return addAttributes attributes found

/-- An operand with the operators in front of it. -/
def operand (allowStruct : Bool) : Parser Node := do
  let start ← here
  let attributes ← outerAttributes
  if ← peekMark "&" then
    let ampersand ← mark "&"
    let isRaw ← do
      pure ((← peekWord "raw") &&
        ((← peekBehind 1 (.keyword "mut")) || (← peekBehind 1 (.keyword "const"))))
    if isRaw then
      let raw ← take
      let mode ← take
      return .node .rawAddress
        [.sequence attributes, ampersand, raw, mode, ← Rules.parse (.operand allowStruct)]
    else
      let mutable ← optionalWord "mut"
      return .node .reference
        [.sequence attributes, ampersand, mutable, ← Rules.parse (.operand allowStruct)]
  else if ← peekAny [.mark "*", .mark "!", .mark "-"] then
    let sign ← take
    return .node .unary [.sequence attributes, sign, ← Rules.parse (.operand allowStruct)]
  else operandBehind start attributes allowStruct

def expression (allowStruct : Bool) : Parser Node := do
  let left ← Rules.parse (.operand allowStruct)
  Rules.parse (.operators left allowStruct Strength.jump.rank)

/-- An expression at the start of a statement or of the result of an arm: a block ends it, unless a
field access or an error mark follows. -/
def leadingExpression : Parser Node := do
  let attributes ← outerAttributes
  let first ← do
    if ← peekWord "if" then ifExpression
    else if ← peekWord "while" then whileLoop .absent
    else if (← peekWord "for") && !(← peekParameters 1) then forLoop .absent
    else if ← peekWord "loop" then loopExpression .absent
    else if ← peekWord "match" then matchExpression
    else if (← peekWord "try") && (← peekBehind 1 (.group .brace)) then tryBlock
    else if ← peekWord "unsafe" then unsafeBlock
    else if (← peekWord "const") && (← peekBehind 1 (.group .brace)) then constBlock
    else if ← peekGroup .brace then blockExpression
    else if ← peek .lifetime then labelled
    else Rules.parse (.operand true)
  if !isBlockLike first then
    Rules.parse (.operators (addAttributes attributes first) true Strength.jump.rank)
  else if ((← peekMark ".") && !(← peekMark "..")) || (← peekMark "?") then
    let attached ← trailers first
    Rules.parse (.operators (addAttributes attributes attached) true Strength.jump.rank)
  else return addAttributes attributes first

end Grammar
end Instrument
