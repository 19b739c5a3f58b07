import Instrument.Print.Invocation
import Instrument.Token.Literal

/-!
# Printing expressions

An expression is written in the manner its surroundings ask for: at the start of a line or behind
something, with or without room to break in front of it.  Chains of calls and fields are laid out
as a whole, one link to a line if they do not fit, and so are operators of the same strength.
-/

namespace Instrument
namespace Print

open Layout

/-- Expressions that are blocks in some form and can be the sole argument of a call without being
indented further. -/
def hugsArgument (expression : Tree Token) : Bool :=
  [.array, .asyncBlock, .blockExpression, .closure, .constBlock, .structExpression, .tryBlock,
    .tuple, .unsafeBlock].any expression.isKind && !hasOuterAttributes expression

/-- An operand that an operator in front of it or behind it is looked through to. -/
def inner? : Tree Token → Option (Tree Token)
  | .node .breakExpression [_, _, _, value] => some value
  | .node .call [_, function, _, _, _] => some function
  | .node .letExpression [_, _, _, _, value] => some value
  | .node .parenthesized [_, _, value, _] => some value
  | .node .range [_, _, _, upper] => some upper
  | .node .rawAddress [_, _, _, _, value] => some value
  | .node .reference [_, _, _, value] => some value
  | .node .returnExpression [_, _, value] => some value
  | .node .tryExpression [_, value, _] => some value
  | .node .unary [_, _, value] => some value
  | .node .yieldExpression [_, _, value] => some value
  | _ => none

/-- The block behind a condition starts on a line of its own when the condition takes several
lines.  The number bounds how far operands are looked through. -/
def breaksBeforeBlock : Nat → Tree Token → Bool
  | 0, _ => false
  | fuel + 1, condition =>
    [.assign, .await, .binary, .cast, .fieldAccess, .index, .methodCall].any condition.isKind ||
      match inner? condition with
      | some value => breaksBeforeBlock fuel value
      | none => false

/-- Expressions that end a statement with their closing brace. -/
def endsStatement (expression : Tree Token) : Bool :=
  [.ifExpression, .matchExpression, .blockExpression, .unsafeBlock, .whileLoop, .loopExpression,
    .forLoop, .tryBlock, .constBlock].any expression.isKind

/-- An invocation with its arguments in braces. -/
def invokesInBraces : Tree Token → Bool
  | .node .macroExpression [_, .node .invocation [_, _, .leaf ⟨.opening .brace, _⟩, _, _]] => true
  | _ => false

/-- The operand at the left end of an expression, and whether a statement could end behind it. -/
def leftOperand? : Tree Token → Option (Tree Token × Bool)
  | .node .assign (_ :: left :: _) => some (left, true)
  | .node .binary (_ :: left :: _) => some (left, true)
  | .node .call (_ :: left :: _) => some (left, true)
  | .node .cast (_ :: left :: _) => some (left, true)
  | .node .index (_ :: left :: _) => some (left, true)
  | .node .range (_ :: left :: _) => if left.isAbsent then none else some (left, true)
  | .node .await (_ :: left :: _) => some (left, false)
  | .node .fieldAccess (_ :: left :: _) => some (left, false)
  | .node .methodCall (_ :: left :: _) => some (left, false)
  | .node .tryExpression (_ :: left :: _) => some (left, false)
  | _ => none

/-- An expression reads back as itself at the start of a statement.  The number bounds the length
of the way to its left end. -/
def canStartStatement : Nat → Tree Token → Bool
  | 0, _ => true
  | fuel + 1, expression =>
    match leftOperand? expression with
    | none => true
    | some (left, mayEnd) =>
      if mayEnd && (endsStatement left || invokesInBraces left) then false
      else canStartStatement fuel left

/-- Operators that assign. -/
def assigningOperators : List String :=
  ["+=", "-=", "*=", "/=", "%=", "^=", "&=", "|=", "<<=", ">>="]

/-- A statement that is the expression ends in a semicolon even where it is the last one. -/
def wantsSemicolon : Tree Token → Bool
  | .node .binary [_, _, operator, _] => assigningOperators.contains operator.text
  | expression =>
    [.assign, .breakExpression, .continueExpression, .returnExpression, .yieldExpression].any
      expression.isKind

/-- A statement that is the expression drops its semicolon.  The number bounds the length of a chain
of conditions. -/
def dropsSemicolon : Nat → Tree Token → Bool
  | 0, _ => false
  | fuel + 1, expression =>
    match expression with
    | .node .forLoop _ => true
    | .node .whileLoop _ => true
    | .node .ifExpression [_, _, _, _, .node .elseBranch [_, otherwise]] =>
      dropsSemicolon fuel otherwise
    | .node .ifExpression _ => true
    | _ => false

/-- A name so short that the first method of a chain stays next to it. -/
def isShortName : Tree Token → Bool
  | .node .pathExpression [outer, path] =>
    outer.isEmptySequence && match soleName? path with
      | some name => name.utf8ByteSize ≤ shortName
      | none => false
  | _ => false

/-- A literal that arrays hold many of. -/
def isSmallLiteral : Tree Token → Bool
  | .node .literal [_, .leaf ⟨.word _, _⟩] => true
  | .node .literal [_, .leaf ⟨.literal text, _⟩] =>
    text.startsWith "b'" || text.startsWith "'" || Token.isInteger text.toList
  | .node .literal [_, .node .negativeNumber [_, .leaf ⟨.literal text, _⟩]] =>
    Token.isInteger text.toList
  | _ => false

/-- The gap between a receiver and the dot behind it. -/
def beforeDot (startsLine : Bool) (receiver : Printed) : Document :=
  if startsLine && isShortName receiver.tree then .empty else .cut

/-- The arguments of a call.  A sole argument that is a block is not indented further. -/
def callArguments (inputs : List Printed) : Document :=
  let indented := .body (.cut ++ commaList inputs ++ .outdent)
  match inputs with
  | [only] => if hugsArgument only.tree then only.plain else indented
  | _ => indented

/-- The arguments of a call in their parentheses. -/
def callDocument (inputs : Printed) : Document :=
  .text "(" ++ callArguments inputs.elements ++ .text ")"

/-- The manner in which a receiver is written by an expression that has no box of its own. -/
def receiverManner (startsLine : Bool) : Manner :=
  if startsLine then .lineStart else .plain

/-- A call of a method behind its receiver. -/
def methodDocument (startsLine unindents : Bool) (receiver name turbofish inputs : Printed) :
    Document :=
  receiver.document (.chained startsLine) ++ beforeDot startsLine receiver ++ .text "." ++
    name.plain ++ turbofish.document .value ++
    .box .consistent (if unindents then -Document.step else 0) none (callDocument inputs)

/-- Expressions that follow a receiver: the manner tells whether they have a box of their own. -/
def chainDocument (kind : Kind) (parts : List Printed) (manner : Manner) : Document :=
  let startsLine := match manner with
    | .lineStart => true
    | .chained startsLine => startsLine
    | _ => false
  let isChained := match manner with
    | .chained _ => true
    | _ => false
  let boxed (outer : Printed) (content : Document) : Document :=
    if isChained then content else outer.plain ++ .body content
  let unboxed (outer : Printed) (content : Document) : Document :=
    if isChained then content else outer.plain ++ content
  let receiverOf (receiver : Printed) : Document :=
    receiver.document (if isChained then .chained startsLine else receiverManner startsLine)
  match kind, parts with
  | .await, [outer, receiver, _, _] =>
    boxed outer (receiver.document (.chained startsLine) ++ beforeDot startsLine receiver ++
      .text ".await")
  | .fieldAccess, [outer, receiver, _, name] =>
    boxed outer (receiver.document (.chained startsLine) ++ beforeDot startsLine receiver ++
      .text "." ++ name.plain)
  | .methodCall, [outer, receiver, _, name, turbofish, _, inputs, _] =>
    let unindents := !isChained && startsLine && isShortName receiver.tree
    boxed outer (methodDocument startsLine unindents receiver name turbofish inputs)
  | .call, [outer, function, _, inputs, _] =>
    let called := if isChained then function.document (.chained false) else receiverOf function
    unboxed outer (called ++ callDocument inputs)
  | .index, [outer, receiver, _, position, _] =>
    unboxed outer (receiverOf receiver ++ .text "[" ++ position.plain ++ .text "]")
  | .tryExpression, [outer, receiver, _] => unboxed outer (receiverOf receiver ++ .text "?")
  | _, _ => .empty

/-- Kinds of expressions that follow a receiver. -/
def isChain (kind : Kind) : Bool :=
  [.await, .fieldAccess, .methodCall, .call, .index, .tryExpression].contains kind

/-- An expression in the manner of a condition: it is followed by a space, or by the end of a line
if it takes several. -/
def conditionDocument (condition : Printed) : Document :=
  .level (condition.plain ++
    (if breaksBeforeBlock condition.tree.size condition.tree then .space else .blank))

/-- A word and an operand behind it, if there is one. -/
def jumpDocument (word : String) (operand : Printed) : Document :=
  .text word ++ operand.whenPresent (.blank ++ operand.plain)

def arrayDocument (elements : List Printed) : Document :=
  if elements.isEmpty then .text "[]"
  else if elements.all fun element => isSmallLiteral element.tree then
    .body (.text "[" ++ .cut ++
      .filled 0 (.separated (.text "," ++ .space) (elements.map Printed.plain)) ++ .comma true ++
      .outdent ++ .text "]")
  else bracketed "[" "]" (commaList elements)

/-- An expression in braces of its own. -/
def smallBlockOf (indent : Nat) (expression : Printed) : Document :=
  .text "\x7b" ++ .space ++ .filled indent (expression.document .lineStart) ++ .space ++ .outdent ++
    .text "\x7d"

/-- Gaps around an expression that become brackets when its lines end there. -/
def wrapped (expression : Printed) (manner : Manner) (plainEnd : String) (joined : String) :
    Document :=
  let inBraces := canStartStatement expression.tree.size expression.tree
  let semicolon := if inBraces && wantsSemicolon expression.tree then ";" else ""
  .body (.gap { before := if inBraces then "\x7b" else "(" } ++ expression.document manner ++
    .gap { offset := -Document.step, before := semicolon,
           after := if inBraces then "\x7d" else plainEnd, joined := joined })

/-- A closure whose result has no type written in front of it. -/
def closureBody (body : Printed) : Document :=
  let isWrapped :=
    if body.isKind .matchExpression || body.isKind .call then hasOuterAttributes body.tree
    else !hugsArgument body.tree
  if isWrapped then wrapped body .plain ")" "" else body.plain

/-- The result of a closure behind the type of the result. -/
def typedClosureBody (body : Printed) : Document :=
  match body.tree, body.parts with
  | .node .blockExpression _, [outer, inner, label, _] =>
    if outer.elements.isEmpty && inner.elements.isEmpty && label.isAbsent then body.plain
    else .body (smallBlockOf 0 body)
  | _, _ => .body (smallBlockOf 0 body)

def closureDocument (inputs output body : Printed) : Document :=
  let patterns := inputs.elements
  let bound := (if patterns.isEmpty then .empty else .cut) ++
    .separated (.text "," ++ .space) (patterns.map Printed.plain)
  match output.parts with
  | [_, type] =>
    let ending := if patterns.isEmpty then .empty else .comma true ++ .outdent
    .body (.text "|" ++ bound ++ ending ++ .text "|") ++ .text " -> " ++ type.plain ++ .blank ++
      .glue ++ typedClosureBody body
  | _ =>
    .body (.text "|" ++ bound ++ .text "|" ++ .space ++ .outdent) ++ .glue ++ closureBody body

/-- A range.  The dots of one that has no lower bound are kept apart from an equals sign in front of
them. -/
def rangeDocument (lower limits upper : Printed) : Document :=
  let dots := if limits.word == ".." then ".." else "..="
  let isOpen := match upper.tree with
    | .node .range (_ :: start :: _) => start.isAbsent
    | _ => false
  lower.plain ++ .text dots ++ (if isOpen && dots == "..=" then .blank else .empty) ++ upper.plain

/-- A struct with its fields.  Only a short one stands on one line. -/
def structDocument (path fields rest : Printed) : Document :=
  .box .consistent Document.step (some 34)
    (.filled (-Document.step) (path.document .value) ++ .text " \x7b" ++ .optionalSpace ++
      .eachLast (fun field isLast => field.plain ++ .commaOrSpace (isLast && rest.isAbsent))
        fields.elements ++
      rest.whenPresent (.text ".." ++ rest.plain ++ .space) ++ .outdent) ++
    .text "\x7d"

/-- The elements of a tuple.  A single one keeps its comma. -/
def tupleDocument : List Printed → Document
  | [only] => bracketed "(" ")" (only.plain ++ .text "," ++ .cut)
  | elements => bracketed "(" ")" (commaList elements)

/-- The document of an expression that has no block in it. -/
def expressionDocument (kind : Kind) (parts : List Printed) : Document :=
  match kind, parts with
  | .array, [outer, _, elements, _] => outer.plain ++ arrayDocument elements.elements
  | .assign, [outer, left, _, right] =>
    outer.plain ++ .filled 0 (left.plain ++ .text " = " ++ .glue ++ right.plain)
  | .binary, [outer, left, operator, right] =>
    outer.plain ++ .filled Document.step (.filled (-Document.step) left.plain ++ .space ++
      operator.plain ++ .blank ++ right.plain)
  | .breakExpression, [outer, _, label, value] =>
    outer.plain ++ jumpDocument "break" label ++ value.whenPresent (.blank ++ value.plain)
  | .cast, [outer, value, _, type] =>
    outer.plain ++ .filled Document.step (.filled (-Document.step) value.plain ++ .space ++
      .text "as " ++ type.plain)
  | .closure, [outer, binder, constant, static, asynchrony, move, _, inputs, _, output, body] =>
    outer.plain ++ .filled 0 (binder.plain ++ constant.keyword ++ static.keyword ++
      asynchrony.keyword ++ move.keyword ++ closureDocument inputs output body)
  | .continueExpression, [outer, _, label] => outer.plain ++ jumpDocument "continue" label
  | .inferred, [outer, _] => outer.plain ++ .text "_"
  | .letExpression, [outer, _, pattern, _, value] =>
    outer.plain ++ .filled 0 (.text "let " ++ .filled 0 pattern.plain ++ .text " = " ++ .glue ++
      .filled 0 value.plain)
  | .literal, [outer, value] => outer.plain ++ value.plain
  | .negativeNumber, [sign, value] => sign.plain ++ value.plain
  | .macroExpression, [outer, invocation] => outer.plain ++ invocation.plain
  | .parenthesized, [outer, _, value, _] => outer.plain ++ .text "(" ++ value.plain ++ .text ")"
  | .pathExpression, [outer, path] => outer.plain ++ path.document .value
  | .range, [outer, lower, limits, upper] => outer.plain ++ rangeDocument lower limits upper
  | .rawAddress, [outer, _, _, mode, value] =>
    outer.plain ++ .text "&raw " ++ mode.keyword ++ value.plain
  | .reference, [outer, _, mutable, value] =>
    outer.plain ++ .text "&" ++ mutable.keyword ++ value.plain
  | .repetition, [outer, _, element, _, length, _] =>
    outer.plain ++ .text "[" ++ element.plain ++ .text "; " ++ length.plain ++ .text "]"
  | .returnExpression, [outer, _, value] => outer.plain ++ jumpDocument "return" value
  | .structExpression, [outer, path, _, fields, _, rest, _] =>
    outer.plain ++ structDocument path fields rest
  | .tuple, [outer, _, elements, _] => outer.plain ++ tupleDocument elements.elements
  | .unary, [outer, operator, value] => outer.plain ++ operator.plain ++ value.plain
  | .yieldExpression, [outer, _, value] => outer.plain ++ jumpDocument "yield" value
  | .fieldValue, [outer, name, colon, value] =>
    outer.plain ++ name.plain ++ colon.whenPresent (.text ": " ++ .filled 0 value.plain)
  | .label, [name, _] => name.plain ++ .text ": "
  | _, _ => .empty

end Print
end Instrument
