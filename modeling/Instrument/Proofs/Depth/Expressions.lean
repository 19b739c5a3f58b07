import Instrument.Proofs.Depth.Types

/-!
# The depth of expressions and statements

A statement may be an expression, an expression starts with an operand, and operators may start
with a type, all of it in front of the same token.  Everything else stands behind a token.
-/

namespace Instrument

open Instrument.Parser

set_option synthInstance.maxSize 1000000000

/-- Operators are written with marks. -/
theorem yields_peekOperator :
    Yields Grammar.peekOperator fun found => ∀ operator ∈ found, IsMark operator.1 := by
  have all : ∀ operator ∈ Grammar.binaryOperators, 0 < operator.1.length := by decide
  refine .after fun cursor => .after fun source => .pure fun operator found => ⟨all operator ?_⟩
  exact List.mem_of_find?_eq_some found

namespace GoAlike

variable {source : Source} [source.IsNested] {depth reserve one other : Nat}
  [DepthsAgree source depth one other]

/-! ## Expressions -/

instance peekOperator : Keeps source depth reserve Grammar.peekOperator := by
  unfold Grammar.peekOperator
  infer_instance

instance peekAssign : Keeps source depth reserve Grammar.peekAssign := by
  unfold Grammar.peekAssign
  infer_instance

instance peekStrength : Keeps source depth reserve Grammar.peekStrength := by
  unfold Grammar.peekStrength
  refine andThen fun operator => ?_
  split <;> infer_instance

instance invocationInBraces {node : Node} :
    Keeps source depth reserve (Grammar.invocationInBraces node) := by
  unfold Grammar.invocationInBraces
  split <;> infer_instance

instance needsSemicolon {node : Node} :
    Keeps source depth reserve (Grammar.needsSemicolon node) := by
  unfold Grammar.needsSemicolon
  split <;> infer_instance

instance body : RuleAlike source depth reserve one other Grammar.body := by
  unfold Grammar.body
  infer_instance

instance block : RuleAlike source depth reserve one other Grammar.block := by
  unfold Grammar.block
  infer_instance

instance plainBlockExpression :
    RuleAlike source depth reserve one other Grammar.plainBlockExpression := by
  unfold Grammar.plainBlockExpression
  infer_instance

instance condition : RuleAlike source depth (reserve + 16) one other Grammar.condition := by
  unfold Grammar.condition
  infer_instance

instance label : Keeps source depth reserve Grammar.label := by
  unfold Grammar.label
  infer_instance

instance blockExpression : RuleAlike source depth reserve one other Grammar.blockExpression := by
  unfold Grammar.blockExpression
  infer_instance

instance whileLoop {name : Node} :
    RuleAlike source depth reserve one other (Grammar.whileLoop name) := by
  unfold Grammar.whileLoop
  infer_instance

instance forLoop {name : Node} :
    RuleAlike source depth reserve one other (Grammar.forLoop name) := by
  unfold Grammar.forLoop
  infer_instance

instance loopExpression {name : Node} :
    RuleAlike source depth reserve one other (Grammar.loopExpression name) := by
  unfold Grammar.loopExpression
  infer_instance

instance labelled : RuleAlike source depth reserve one other Grammar.labelled := by
  unfold Grammar.labelled
  infer_instance

instance clause : RuleAlike source depth reserve one other Grammar.clause := by
  unfold Grammar.clause
  infer_instance

instance ifExpression : RuleAlike source depth reserve one other Grammar.ifExpression := by
  unfold Grammar.ifExpression
  refine andThen fun first => loopThen (fun clauses => ?_) fun clauses => ?_
  · cases clauses <;> infer_instance
  · cases clauses <;> infer_instance

instance arm : RuleAlike source depth (reserve + 16) one other Grammar.arm := by
  unfold Grammar.arm
  infer_instance

instance matchExpression : RuleAlike source depth reserve one other Grammar.matchExpression := by
  unfold Grammar.matchExpression
  infer_instance

instance tryBlock : RuleAlike source depth reserve one other Grammar.tryBlock := by
  unfold Grammar.tryBlock
  infer_instance

instance unsafeBlock : RuleAlike source depth reserve one other Grammar.unsafeBlock := by
  unfold Grammar.unsafeBlock
  infer_instance

instance asyncBlock : RuleAlike source depth reserve one other Grammar.asyncBlock := by
  unfold Grammar.asyncBlock
  infer_instance

instance closureParameter :
    RuleAlike source depth (reserve + 16) one other Grammar.closureParameter := by
  unfold Grammar.closureParameter
  infer_instance

instance closure {allowStruct : Bool} :
    RuleAlike source depth reserve one other (Grammar.closure allowStruct) := by
  unfold Grammar.closure
  infer_instance

instance peekExpression : Keeps source depth reserve Grammar.peekExpression := by
  unfold Grammar.peekExpression
  infer_instance

instance optionalExpression :
    RuleAlike source depth (reserve + 16) one other Grammar.optionalExpression := by
  unfold Grammar.optionalExpression
  infer_instance

instance breakExpression {allowStruct : Bool} :
    RuleAlike source depth reserve one other (Grammar.breakExpression allowStruct) := by
  unfold Grammar.breakExpression
  infer_instance

instance rangeEndsHere {allowStruct : Bool} :
    Keeps source depth reserve (Grammar.rangeEndsHere allowStruct) := by
  unfold Grammar.rangeEndsHere
  infer_instance

instance rightOperand {allowStruct : Bool} {strength : Nat} :
    RuleAlike source depth (reserve + 16) one other
      (Grammar.rightOperand allowStruct strength) := by
  unfold Grammar.rightOperand
  infer_instance

instance rangeEnd {limits : Node} {allowStruct : Bool} :
    RuleAlike source depth (reserve + 16) one other (Grammar.rangeEnd limits allowStruct) := by
  unfold Grammar.rangeEnd
  infer_instance

instance checkCast : Keeps source depth reserve Grammar.checkCast := by
  unfold Grammar.checkCast
  infer_instance

instance operators {left : Node} {allowStruct : Bool} {weakest : Nat} :
    RuleAlike source depth (reserve + 1) one other
      (Grammar.operators left allowStruct weakest) := by
  unfold Grammar.operators
  refine loop fun left => either inferInstance ?_
  refine andThenKnown yields_peekOperator fun operator isMark => ?_
  cases operator with
  | none => infer_instance
  | some operator =>
      have := isMark operator rfl
      infer_instance

instance fieldValue : RuleAlike source depth (reserve + 16) one other Grammar.fieldValue := by
  unfold Grammar.fieldValue
  infer_instance

instance structFields : RuleAlike source depth (reserve + 16) one other Grammar.structFields := by
  unfold Grammar.structFields
  infer_instance

instance fromPath {allowStruct : Bool} :
    RuleAlike source depth reserve one other (Grammar.fromPath allowStruct) := by
  unfold Grammar.fromPath
  infer_instance

instance tuple : RuleAlike source depth reserve one other Grammar.tuple := by
  unfold Grammar.tuple
  refine andThen fun body => ?_
  split <;> infer_instance

instance array : RuleAlike source depth reserve one other Grammar.array := by
  unfold Grammar.array
  infer_instance

instance letExpression {allowStruct : Bool} :
    RuleAlike source depth reserve one other (Grammar.letExpression allowStruct) := by
  unfold Grammar.letExpression
  infer_instance

instance peekClosure : Keeps source depth reserve Grammar.peekClosure := by
  unfold Grammar.peekClosure
  infer_instance

instance peekAsyncBlock : Keeps source depth reserve Grammar.peekAsyncBlock := by
  unfold Grammar.peekAsyncBlock
  infer_instance

instance peekPath : Keeps source depth reserve Grammar.peekPath := by
  unfold Grammar.peekPath
  infer_instance

instance keptExpression : RuleAlike source depth reserve one other Grammar.keptExpression := by
  unfold Grammar.keptExpression
  infer_instance

instance jump {kind : Kind} {keyword : String} :
    RuleAlike source depth reserve one other (Grammar.jump kind keyword) := by
  unfold Grammar.jump
  infer_instance

instance atom {allowStruct : Bool} :
    RuleAlike source depth reserve one other (Grammar.atom allowStruct) := by
  unfold Grammar.atom
  infer_instance

instance refuseFloat {text : List Char} :
    Keeps source depth reserve (Grammar.refuseFloat text : Parser Node) := by
  unfold Grammar.refuseFloat
  infer_instance

instance memberBehind {operand dot : Node} :
    RuleAlike source depth reserve one other (Grammar.memberBehind operand dot) := by
  unfold Grammar.memberBehind
  infer_instance

instance awaitOrMember {operand dot : Node} :
    RuleAlike source depth reserve one other (Grammar.awaitOrMember operand dot) := by
  unfold Grammar.awaitOrMember
  infer_instance

instance behindDot {operand dot : Node} :
    RuleAlike source depth reserve one other (Grammar.behindDot operand dot) := by
  unfold Grammar.behindDot
  refine andThen fun cursor => andThen fun tokens => ?_
  repeat' split
  all_goals infer_instance

instance trailers {operand : Node} :
    RuleAlike source depth reserve one other (Grammar.trailers operand) := by
  unfold Grammar.trailers
  infer_instance

instance operandBehind {start : Nat} {attributes : List Node} {allowStruct : Bool} :
    RuleAlike source depth reserve one other
      (Grammar.operandBehind start attributes allowStruct) := by
  unfold Grammar.operandBehind
  infer_instance

instance operand {allowStruct : Bool} :
    RuleAlike source depth reserve one other (Grammar.operand allowStruct) := by
  unfold Grammar.operand
  infer_instance

instance expression {allowStruct : Bool} :
    RuleAlike source depth (reserve + 2) one other (Grammar.expression allowStruct) := by
  unfold Grammar.expression
  infer_instance

instance leadingExpression :
    RuleAlike source depth (reserve + 2) one other Grammar.leadingExpression := by
  unfold Grammar.leadingExpression
  infer_instance

/-! ## Statements -/

instance peekStaticItem : Keeps source depth reserve Grammar.peekStaticItem := by
  unfold Grammar.peekStaticItem
  infer_instance

instance peekConstItem : Keeps source depth reserve Grammar.peekConstItem := by
  unfold Grammar.peekConstItem
  infer_instance

instance peekItem : Keeps source depth reserve Grammar.peekItem := by
  unfold Grammar.peekItem
  infer_instance

instance invocationRole : Keeps source depth reserve Grammar.invocationRole := by
  unfold Grammar.invocationRole
  infer_instance

instance elseMayFollow : Keeps source depth reserve Grammar.elseMayFollow := by
  unfold Grammar.elseMayFollow
  infer_instance

instance letStatement {attributes : List Node} :
    RuleAlike source depth reserve one other (Grammar.letStatement attributes) := by
  unfold Grammar.letStatement
  infer_instance

instance expressionStatement {attributes : List Node} :
    RuleAlike source depth (reserve + 3) one other (Grammar.expressionStatement attributes) := by
  unfold Grammar.expressionStatement
  refine andThen fun expression => andThen fun semicolon => ?_
  split <;> infer_instance

instance statement : RuleAlike source depth (reserve + 3) one other Grammar.statement := by
  unfold Grammar.statement
  refine andThen fun start => andThen fun attributes => andThen fun role => ?_
  cases role <;> infer_instance

instance isUnterminated {tree : Node} :
    Keeps source depth reserve (Grammar.isUnterminated tree) := by
  unfold Grammar.isUnterminated
  split <;> infer_instance

instance statements : RuleAlike source depth (reserve + 3) one other Grammar.statements := by
  unfold Grammar.statements
  infer_instance

end GoAlike
end Instrument
