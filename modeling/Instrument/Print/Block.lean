import Instrument.Print.Expression

/-!
# Printing statements and expressions with blocks

A block that belongs to an item or to a loop has each statement on a line of its own.  A small block
may stand on one line if it holds a single expression.
-/

namespace Instrument
namespace Print

open Layout

/-- The arguments of an invocation are in braces. -/
def isInBraces (invocation : Printed) : Bool :=
  match invocation.parts with
  | [_, _, opening, _, _] => opened opening == .brace
  | _ => false

def expressionLine (expression : Printed) (ending : Bool) : Document :=
  .filled 0 (expression.document .lineStart ++ (if ending then .text ";" else .empty)) ++ .line

/-- The statements of a block, sequence of statements inside its braces. -/
def statementsOf (block : Printed) : List Printed :=
  match block.parts with
  | [_, statements, _] => statements.elements
  | _ => []

/-- The value that a block consists of, if it holds nothing else. -/
def soleValue? (block : Printed) : Option Printed :=
  match statementsOf block with
  | [⟨.node .expressionStatement _, _, [value, semicolon]⟩] =>
    if semicolon.isAbsent then some value else none
  | _ => none

/-- One statement.  `isLast` tells whether it ends its block. -/
def statement (part : Printed) (isLast : Bool) : Document :=
  match part.tree, part.parts with
  | .node .expressionStatement _, [value, semicolon] =>
    if semicolon.isAbsent then expressionLine value (wantsSemicolon value.tree)
    else if value.isKind .verbatim then .empty
    else expressionLine value (!dropsSemicolon value.tree.size value.tree)
  | .node .macroStatement _, [outer, invocation, semicolon] =>
    let isTerminated := semicolon.isPresent || (!isLast && !isInBraces invocation)
    outer.plain ++ invocation.document (if isTerminated then .terminated else .plain) ++ .line
  | _, _ => part.plain

/-- Statements, each on a line of its own. -/
def statementLines (block : Printed) : Document :=
  .eachLast statement (statementsOf block)

/-- A body in braces behind what belongs on the line of its opening brace.  All is in one box, so
that a `where` clause in front of the body is indented less than the body. -/
def braced (head inside : Document) : Document :=
  .body (head ++ .text "\x7b" ++ .optionalLine ++ inside ++ .outdent) ++ .text "\x7d"

/-- A body in braces on lines of its own. -/
def bodyLines (inner block : Printed) : Document :=
  .text "\x7b" ++ .glue ++
    .body (.optionalLine ++ inner.plain ++ statementLines block ++ .outdent) ++ .text "\x7d"

/-- A block that may stand on one line. -/
def smallBlock (inner : Document) (hasInner : Bool) (block : Printed) : Document :=
  let content := match soleValue? block with
    | some value => .filled 0 (value.document .lineStart) ++ .space
    | none => statementLines block
  if hasInner || !(statementsOf block).isEmpty then
    .text "\x7b" ++ .space ++ inner ++ content ++ .outdent ++ .text "\x7d"
  else .text "\x7b\x7d"

/-- A small block with the attributes at its start. -/
def attributedBlock (inner block : Printed) : Document :=
  .body (smallBlock inner.plain (!inner.elements.isEmpty) block)

def plainBlock (block : Printed) : Document :=
  smallBlock .empty false block

def branchCondition (condition : Printed) : Document :=
  .text "if " ++ .outdented (conditionDocument condition)

/-- The block of an expression that is a block. -/
def blockOf (expression : Printed) : Printed :=
  expression.parts.getLast?.getD default

mutual

/-- What stands behind `else`: another condition or a block. -/
def elseDocument (otherwise : Printed) : Document :=
  match otherwise with
  | ⟨.node .ifExpression _, _, [_, _, condition, block, next]⟩ =>
    branchCondition condition ++ plainBlock block ++ elseBranchDocument next
  | ⟨.node .blockExpression _, _, [_, _, _, block]⟩ => plainBlock block
  | other => smallBlockOf Document.step other

/-- The branch that is taken if no condition holds. -/
def elseBranchDocument (branch : Printed) : Document :=
  match branch with
  | ⟨_, _, [_, otherwise]⟩ => .text " else " ++ elseDocument otherwise
  | _ => .empty

end

def ifDocument (condition block otherwise : Printed) : Document :=
  .body (branchCondition condition ++
    (if otherwise.isPresent then plainBlock block ++ elseBranchDocument otherwise
    else if (statementsOf block).isEmpty then .text "\x7b\x7d"
    else .text "\x7b" ++ .line ++ statementLines block ++ .outdent ++ .text "\x7d"))

/-- The expression that an arm gives, without blocks that hold nothing else. -/
def armValue (value : Printed) : Printed :=
  match value with
  | ⟨.node .blockExpression _, _, [outer, inner, label,
      ⟨_, _, [_, ⟨_, _, [⟨.node .expressionStatement _, _, [only, semicolon]⟩]⟩, _]⟩]⟩ =>
    if outer.elements.isEmpty && inner.elements.isEmpty && label.isAbsent && semicolon.isAbsent then
      armValue only
    else value
  | _ => value

/-- The expression gives nothing. -/
def isUnit : Tree Token → Bool
  | .node .tuple [outer, _, elements, _] => outer.isEmptySequence && elements.isEmptySequence
  | _ => false

/-- The expression that an arm gives, in braces if it takes several lines. -/
def armBody (value : Printed) : Document :=
  if isUnit value.tree then .text "\x7b\x7d"
  else match value.tree, value.parts with
  | .node .blockExpression _, [_, inner, label, block] => label.plain ++ bodyLines inner block
  | _, _ =>
    .glue ++ wrapped value .lineStart ")," (if endsStatement value.tree then "" else ",")

/-- The document of an expression with a block in it, or of a part of one. -/
def blockDocument (kind : Kind) (parts : List Printed) : Document :=
  match kind, parts with
  | .asyncBlock, [outer, _, move, block] =>
    outer.plain ++ .text "async " ++ move.keyword ++ .body (plainBlock block)
  | .blockExpression, [outer, inner, label, block] =>
    outer.plain ++ label.plain ++ attributedBlock inner block
  | .constBlock, [outer, inner, _, block] =>
    outer.plain ++ .text "const " ++ attributedBlock inner block
  | .unsafeBlock, [outer, inner, _, block] =>
    outer.plain ++ .text "unsafe " ++ attributedBlock inner block
  | .tryBlock, [outer, _, block] => outer.plain ++ .text "try " ++ .body (plainBlock block)
  | .forLoop, [outer, inner, label, _, pattern, _, iterated, block] =>
    outer.plain ++ .filled 0 (label.plain ++ .text "for " ++ pattern.plain ++ .text " in " ++
      .glue ++ conditionDocument iterated ++ bodyLines inner block)
  | .whileLoop, [outer, inner, label, _, condition, block] =>
    outer.plain ++ label.plain ++ .text "while " ++ conditionDocument condition ++
      bodyLines inner block
  | .loopExpression, [outer, inner, label, _, block] =>
    outer.plain ++ label.plain ++ .text "loop " ++ bodyLines inner block
  | .ifExpression, [outer, _, condition, block, otherwise] =>
    outer.plain ++ ifDocument condition block otherwise
  | .matchExpression, [outer, inner, _, scrutinee, members] =>
    let arms := match members.parts with
      | [_, arms, _] => arms.elements
      | _ => []
    outer.plain ++ .filled 0 (.text "match " ++ conditionDocument scrutinee ++ .text "\x7b" ++
      .glue ++ .body (.optionalLine ++ inner.plain ++
        .join (arms.map fun arm => arm.plain ++ .line) ++ .outdent) ++ .text "\x7d")
  | .arm, [outer, pattern, guard, _, value, _] =>
    outer.plain ++ .filled 0 (pattern.plain ++ guard.plain ++ .text " => " ++
      armBody (armValue value))
  | .guard, [_, condition] => .text " if " ++ condition.plain
  | .letStatement, [outer, _, pattern, initializer, _] =>
    let start := .text "let " ++ pattern.plain
    outer.plain ++ (match initializer.parts with
      | [_, value, otherwise] =>
        if otherwise.isPresent then
          .filled 0 (start ++ .text " = " ++ .glue ++ value.plain ++ .space ++ .text "else ") ++
            .glue ++ .body (plainBlock (blockOf (blockOf otherwise))) ++ .text ";"
        else .filled 0 (start ++ .text " = " ++ .glue ++ value.plain ++ .text ";")
      | _ => .filled 0 (start ++ .text ";")) ++ .line
  | _, _ => .empty

end Print
end Instrument
