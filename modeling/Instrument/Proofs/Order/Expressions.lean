import Instrument.Proofs.Order.Types

/-!
# The order of expressions and statements

Attributes in front of an expression are put into a tree that has been read behind them: into its
root, or into its leftmost operand.  They stand in front of everything else there.  A conditional is
put together from its last clause on.
-/

namespace Instrument

open Instrument.Parser

set_option synthInstance.maxSize 1000000000

/-! ## Trees that are put together anew -/

section Parts

variable {source : Source}

/-- More attributes in its first part change nothing else of a node. -/
theorem Source.map_place_ownLandmark (source : Source) (kind : Kind) (first second : List Node)
    (parts : List Node) :
    (Tree.ownLandmark kind (.node .sequence first :: parts)).map source.place =
      (Tree.ownLandmark kind (.node .sequence second :: parts)).map source.place := by
  cases kind <;> try rfl
  all_goals
    rcases parts with _ | ⟨_, _ | ⟨_, _ | ⟨_, _ | ⟨_, _ | ⟨_, _ | ⟨_, _⟩⟩⟩⟩⟩⟩ <;> rfl

theorem Source.placesIn_addAttributes (attributes : List Node) (tree : Node) :
    (source.placesIn (Grammar.addAttributes attributes tree)).Sublist
      (source.placesIn attributes ++ source.placesIn tree) := by
  unfold Grammar.addAttributes
  split
  next => exact List.sublist_append_right _ _
  next kind found parts _ =>
      cases lifetime : kind.isLifetime with
      | true =>
          rw [source.placesIn_lifetime lifetime]
          exact List.nil_sublist _
      | false =>
          cases operator : kind.isOperator with
          | true =>
              rw [source.placesIn_operator operator, source.placesIn_operator operator]
              exact List.sublist_append_right _ _
          | false =>
              rw [source.placesIn_node lifetime operator, source.placesIn_node lifetime operator,
                source.placesIn_sequence, source.placesIn_sequence, source.placesIn_append,
                source.map_place_ownLandmark kind (attributes ++ found) found]
              simp [List.append_assoc]
  next => exact List.sublist_append_right _ _

theorem Source.placesIn_addLeftmost (attributes : List Node) (tree : Node) :
    (source.placesIn (Grammar.addLeftmost attributes tree)).Sublist
      (source.placesIn attributes ++ source.placesIn tree) := by
  fun_induction Grammar.addLeftmost attributes tree with
  | case1 outer left rest inductionHypothesis
  | case2 outer left rest inductionHypothesis
  | case3 outer left rest inductionHypothesis =>
      rw [source.placesIn_operator rfl, source.placesIn_operator rfl, source.placesIn_cons,
        source.placesIn_cons, ← List.append_assoc]
      exact inductionHypothesis.append_right _
  | case4 tree => exact source.placesIn_addAttributes attributes tree

end Parts

instance : HasPlaces Grammar.Body :=
  ⟨fun source found => source.placesIn [found.inner, found.block]⟩

instance {found : Grammar.Body} : IsRecord found [found.inner, found.block] :=
  ⟨fun _ => rfl⟩

instance : HasPlaces Grammar.Clause :=
  ⟨fun source clause => source.placesIn [clause.keyword, clause.test, clause.body]⟩

instance {clause : Grammar.Clause} : IsRecord clause [clause.keyword, clause.test, clause.body] :=
  ⟨fun _ => rfl⟩

/-- Clauses are listed with the innermost last, and kept the other way round. -/
instance : HasTrail Grammar.Clauses where
  trail source
    | .reading outer last => source.placesIn outer.reverse ++ source.placesIn last
    | .finished conditional => source.placesIn conditional

section Parts

variable {source : Source}

theorem Source.placesIn_ifExpression (clause : Grammar.Clause) (otherwise : Node) :
    source.placesIn (Tree.node .ifExpression
      [.sequence [], clause.keyword, clause.test, clause.body, otherwise]) =
      source.placesIn clause ++ source.placesIn otherwise := by
  have noOuter : source.placesIn (Tree.sequence [] : Node) = [] := source.placesIn_sequence []
  rw [source.placesIn_of_isTransparent rfl fun _ => rfl, source.placesIn_cons, noOuter,
    List.nil_append]
  have apart := source.placesIn_append [clause.keyword, clause.test, clause.body] [otherwise]
  rwa [source.placesIn_single] at apart

/-- The places of a conditional are those of its clauses from the outermost on, and of what follows
the last one. -/
theorem Source.placesIn_conditionalOf (clauses : List (Grammar.Clause × Node))
    (last : Grammar.Clause) (otherwise : Node) :
    source.placesIn (Grammar.conditionalOf clauses last otherwise) =
      source.placesIn clauses.reverse ++ (source.placesIn last ++ source.placesIn otherwise) := by
  rw [← source.placesIn_ifExpression, Grammar.conditionalOf]
  generalize Tree.node Kind.ifExpression _ = inner
  induction clauses generalizing inner with
  | nil => rfl
  | cons clause rest inductionHypothesis =>
      have own : source.placesIn clause = source.placesIn clause.1 ++ source.placesIn clause.2 :=
        rfl
      rw [List.foldl_cons, inductionHypothesis, source.placesIn_ifExpression,
        source.placesIn_node_pair rfl fun _ => rfl, List.reverse_cons, source.placesIn_append,
        source.placesIn_single, own, List.append_assoc, List.append_assoc]

theorem Source.placesIn_fieldAccess (source : Source) {operand dot name : Node}
    (isLeaf : name.isLeaf = true) :
    source.placesIn (Tree.node .fieldAccess [.sequence [], operand, dot, name]) =
      source.placesIn operand ++ source.placesIn dot := by
  rw [source.placesIn_of_isTransparent rfl fun _ => rfl]
  simp only [source.placesIn_cons, source.placesIn_nil, source.placesIn_of_isLeaf isLeaf,
    List.append_nil]
  rfl

/-- The numbers that a floating-point number stands for are fields one after the other. -/
theorem Source.placesIn_accessFields (source : Source) :
    ∀ (members : List Node) (operand dot : Node), (∀ tree ∈ members, tree.isLeaf = true) →
    (source.placesIn (Grammar.accessFields operand dot members)).Sublist
      (source.placesIn operand ++ source.placesIn dot)
  | [], operand, dot, _ => List.sublist_append_left _ _
  | [name], operand, dot, leaves => by
      rw [Grammar.accessFields, source.placesIn_fieldAccess (leaves name (.head _))]
  | name :: next :: rest, operand, dot, leaves => by
      rw [Grammar.accessFields]
      have others := placesIn_accessFields source rest
        (.node .fieldAccess [.sequence [], operand, dot, name]) next
        fun tree member => leaves tree (.tail _ (.tail _ member))
      rwa [source.placesIn_fieldAccess (leaves name (.head _)),
        source.placesIn_of_isLeaf (leaves next (.tail _ (.head _))), List.append_nil] at others

theorem isLeaf_of_floatMembers {position : Nat} {text : List Char} {members : List Node}
    {trailing : Bool} (found : Grammar.floatMembers position text = some (members, trailing)) :
    ∀ tree ∈ members, tree.isLeaf = true := by
  unfold Grammar.floatMembers at found
  extract_lets atEnd digits first rest isNumber number at found
  clear_value atEnd digits first rest isNumber
  repeat' split at found
  all_goals
    cases found
    try simp [number, Tree.isLeaf]

end Parts

namespace Draws

variable {source : Source} {had last middle rest wanted : List Nat}

instance addAttributes {attributes : List Node} {tree : Node}
    [drawn : Draws had (source.placesIn tree) middle]
    [drawn' : Draws middle (source.placesIn attributes) rest] :
    Draws had (source.placesIn (Grammar.addAttributes attributes tree)) rest :=
  .of_sublist (source.placesIn_addAttributes attributes tree) (both drawn drawn')

instance conditionalOf {clauses : List (Grammar.Clause × Node)} {clause : Grammar.Clause}
    {otherwise : Node} [drawn : Draws had (source.placesIn otherwise) last]
    [drawn' : Draws last (source.placesIn clause) middle]
    [drawn'' : Draws middle (source.placesIn clauses.reverse) rest] :
    Draws had (source.placesIn (Grammar.conditionalOf clauses clause otherwise)) rest :=
  of_eq (source.placesIn_conditionalOf clauses clause otherwise) (both (both drawn drawn') drawn'')

instance reading {outer : List (Grammar.Clause × Node)} {clause : Grammar.Clause}
    [drawn : Draws had (source.placesIn clause) middle]
    [drawn' : Draws middle (source.placesIn outer.reverse) rest] :
    Draws had (source.trailIn (Grammar.Clauses.reading outer clause)) rest :=
  both drawn drawn'

instance finished {conditional : Node} [drawn : Draws had (source.placesIn conditional) rest] :
    Draws had (source.trailIn (Grammar.Clauses.finished conditional)) rest :=
  drawn

end Draws

theorem isPresent_of_isLeaf {tree : Node} (isLeaf : tree.isLeaf = true) :
    tree.isPresent = true := by
  cases tree with
  | leaf citation => rfl
  | node kind parts => cases isLeaf

namespace Takes

variable {source : Source} [source.IsNested] [Rules] [Rules.AreOrdered source]

instance body : Takes source Grammar.body [] source.placesIn := by
  unfold Grammar.body
  exact ⟨Reads.groupThen inferInstance fun content opening closing => inferInstance⟩

instance block : Takes source Grammar.block [] source.placesIn := by
  unfold Grammar.block
  exact ⟨inferInstance⟩

instance plainBlockExpression : Takes source Grammar.plainBlockExpression [] source.placesIn := by
  unfold Grammar.plainBlockExpression
  exact ⟨inferInstance⟩

instance condition : Takes source Grammar.condition [] source.placesIn := by
  unfold Grammar.condition
  exact ⟨inferInstance⟩

instance label : Takes source Grammar.label [] source.placesIn := by
  unfold Grammar.label
  exact ⟨inferInstance⟩

instance blockExpression : Takes source Grammar.blockExpression [] source.placesIn := by
  unfold Grammar.blockExpression
  exact ⟨inferInstance⟩

instance whileLoop {name : Node} :
    Takes source (Grammar.whileLoop name) (source.placesIn name) source.placesIn := by
  unfold Grammar.whileLoop
  exact ⟨inferInstance⟩

instance forLoop {name : Node} :
    Takes source (Grammar.forLoop name) (source.placesIn name) source.placesIn := by
  unfold Grammar.forLoop
  exact ⟨inferInstance⟩

instance loopExpression {name : Node} :
    Takes source (Grammar.loopExpression name) (source.placesIn name) source.placesIn := by
  unfold Grammar.loopExpression
  exact ⟨inferInstance⟩

instance labelled : Takes source Grammar.labelled [] source.placesIn := by
  unfold Grammar.labelled
  exact ⟨inferInstance⟩

instance clause : Takes source Grammar.clause [] source.placesIn := by
  unfold Grammar.clause
  exact ⟨inferInstance⟩

instance ifExpression : Takes source Grammar.ifExpression [] source.placesIn := by
  unfold Grammar.ifExpression
  refine ⟨Reads.andThen inferInstance fun first => ?_⟩
  refine stepsThen (fun clauses => ?_) fun clauses => ?_
  · cases clauses with
    | finished conditional => infer_instance
    | reading outer last =>
        change Reads source ([] ++ source.placesIn outer.reverse ++ source.placesIn last) _ _
        dsimp only
        infer_instance
  · cases clauses with
    | finished conditional =>
        change Reads source ([] ++ source.placesIn conditional) _ _
        infer_instance
    | reading outer last =>
        change Reads source ([] ++ source.placesIn outer.reverse ++ source.placesIn last) _ _
        infer_instance

instance arm : Takes source Grammar.arm [] source.placesIn := by
  unfold Grammar.arm
  exact ⟨inferInstance⟩

instance matchExpression : Takes source Grammar.matchExpression [] source.placesIn := by
  unfold Grammar.matchExpression
  refine ⟨Reads.andThen inferInstance fun keyword => Reads.andThen inferInstance fun test => ?_⟩
  exact Reads.groupThen inferInstance fun content opening closing => inferInstance

instance tryBlock : Takes source Grammar.tryBlock [] source.placesIn := by
  unfold Grammar.tryBlock
  exact ⟨inferInstance⟩

instance unsafeBlock : Takes source Grammar.unsafeBlock [] source.placesIn := by
  unfold Grammar.unsafeBlock
  exact ⟨inferInstance⟩

instance asyncBlock : Takes source Grammar.asyncBlock [] source.placesIn := by
  unfold Grammar.asyncBlock
  exact ⟨inferInstance⟩

instance closureParameter : Takes source Grammar.closureParameter [] source.placesIn := by
  unfold Grammar.closureParameter
  exact ⟨inferInstance⟩

instance closure {allowStruct : Bool} :
    Takes source (Grammar.closure allowStruct) [] source.placesIn := by
  unfold Grammar.closure
  exact ⟨inferInstance⟩

instance peekExpression : Takes source Grammar.peekExpression [] source.placesIn := by
  unfold Grammar.peekExpression
  exact ⟨inferInstance⟩

instance optionalExpression : Takes source Grammar.optionalExpression [] source.placesIn := by
  unfold Grammar.optionalExpression
  exact ⟨inferInstance⟩

instance breakExpression {allowStruct : Bool} :
    Takes source (Grammar.breakExpression allowStruct) [] source.placesIn := by
  unfold Grammar.breakExpression
  exact ⟨inferInstance⟩

instance rangeEndsHere {allowStruct : Bool} :
    Takes source (Grammar.rangeEndsHere allowStruct) [] source.placesIn := by
  unfold Grammar.rangeEndsHere
  exact ⟨inferInstance⟩

instance peekOperator : Takes source Grammar.peekOperator [] source.placesIn :=
  looks fun _ _ _ read => by cases read; rfl

instance peekAssign : Takes source Grammar.peekAssign [] source.placesIn := by
  unfold Grammar.peekAssign
  exact ⟨inferInstance⟩

instance peekStrength : Takes source Grammar.peekStrength [] source.placesIn := by
  unfold Grammar.peekStrength
  refine ⟨Reads.lookThen inferInstance fun operator => ?_⟩
  split <;> infer_instance

instance rightOperand {allowStruct : Bool} {strength : Nat} :
    Takes source (Grammar.rightOperand allowStruct strength) [] source.placesIn := by
  unfold Grammar.rightOperand
  exact ⟨inferInstance⟩

instance rangeEnd {limits : Node} {allowStruct : Bool} :
    Takes source (Grammar.rangeEnd limits allowStruct) [] source.placesIn := by
  unfold Grammar.rangeEnd
  exact ⟨inferInstance⟩

instance checkCast : Takes source Grammar.checkCast [] source.placesIn := by
  unfold Grammar.checkCast
  exact ⟨inferInstance⟩

instance operators {left : Node} {allowStruct : Bool} {weakest : Nat} :
    Takes source (Grammar.operators left allowStruct weakest) (source.placesIn left)
      source.placesIn := by
  unfold Grammar.operators
  refine @repeating _ _ _ _ _ fun left => ?_
  refine Reads.either inferInstance (Reads.lookThen inferInstance fun operator => ?_)
  split <;> infer_instance

instance fieldValue : Takes source Grammar.fieldValue [] source.placesIn := by
  unfold Grammar.fieldValue
  exact ⟨inferInstance⟩

/-- Nothing is read behind the dots of a struct but what it is completed from. -/
instance structFields : Takes source Grammar.structFields [] source.placesIn := by
  unfold Grammar.structFields
  refine ⟨loopThen (?_ : ∀ found, HasEnded found → Yields _ _) ?_ (.inl rfl) inferInstance⟩
  · rintro ⟨found, dots, fieldNext⟩ known
    refine Yields.after fun ends => Yields.ite (Yields.pure nofun) (Yields.ite ?_ ?_)
    · refine Yields.after fun isEnd => Yields.ite ?_ ?_
      · refine Yields.bind yields_isLeaf_mark fun dots isLeaf => Yields.pure ?_
        rintro _ ⟨⟩
        exact .inr (isPresent_of_isLeaf isLeaf)
      · refine Yields.after fun field => Yields.pure ?_
        rintro _ ⟨⟩
        exact known
    · refine Yields.after fun comma => Yields.pure ?_
      rintro _ ⟨⟩
      exact known
  · rintro ⟨found, dots, fieldNext⟩ known
    refine Reads.lookThen inferInstance fun ends => ?_
    split
    next => infer_instance
    next goesOn =>
        rcases known with rfl | present
        · infer_instance
        · exact absurd (Bool.or_eq_true_iff.mpr (.inr present)) goesOn

instance fromPath {allowStruct : Bool} :
    Takes source (Grammar.fromPath allowStruct) [] source.placesIn := by
  unfold Grammar.fromPath
  exact ⟨inferInstance⟩

instance tuple : Takes source Grammar.tuple [] source.placesIn := by
  unfold Grammar.tuple
  refine ⟨Reads.groupThen inferInstance fun content opening closing => ?_⟩
  dsimp only
  split
  next only =>
      rw [source.placesIn_sequence_single]
      infer_instance
  next => infer_instance

instance array : Takes source Grammar.array [] source.placesIn := by
  unfold Grammar.array
  exact ⟨inferInstance⟩

instance letExpression {allowStruct : Bool} :
    Takes source (Grammar.letExpression allowStruct) [] source.placesIn := by
  unfold Grammar.letExpression
  exact ⟨inferInstance⟩

instance peekClosure : Takes source Grammar.peekClosure [] source.placesIn := by
  unfold Grammar.peekClosure
  exact ⟨inferInstance⟩

instance peekAsyncBlock : Takes source Grammar.peekAsyncBlock [] source.placesIn := by
  unfold Grammar.peekAsyncBlock
  exact ⟨inferInstance⟩

instance peekPath : Takes source Grammar.peekPath [] source.placesIn := by
  unfold Grammar.peekPath
  exact ⟨inferInstance⟩

instance keptExpression : Takes source Grammar.keptExpression [] source.placesIn := by
  unfold Grammar.keptExpression
  exact ⟨inferInstance⟩

instance returnExpression {keyword : String} :
    Takes source (Grammar.jump .returnExpression keyword) [] source.placesIn := by
  unfold Grammar.jump
  exact ⟨inferInstance⟩

instance yieldExpression {keyword : String} :
    Takes source (Grammar.jump .yieldExpression keyword) [] source.placesIn := by
  unfold Grammar.jump
  exact ⟨inferInstance⟩

instance atom {allowStruct : Bool} :
    Takes source (Grammar.atom allowStruct) [] source.placesIn := by
  unfold Grammar.atom
  refine ⟨Reads.lookThen inferInstance fun _ => Reads.either inferInstance ?_⟩
  refine Reads.lookThen inferInstance fun _ => Reads.either inferInstance ?_
  refine Reads.lookThen inferInstance fun _ => Reads.lookThen inferInstance fun _ => ?_
  refine Reads.either inferInstance ?_
  refine Reads.lookThen inferInstance fun _ => Reads.either inferInstance ?_
  refine Reads.andThen inferInstance fun kept => ?_
  cases kept with
  | none =>
      change Reads source [] _ _
      dsimp only
      infer_instance
  | some kept =>
      have same : source.placesIn (some kept) = source.placesIn kept := List.append_nil _
      rw [same]
      infer_instance

instance refuseFloat {prior : List Nat} {text : List Char} :
    Reads source prior (Grammar.refuseFloat text : Parser Node) source.placesIn := by
  unfold Grammar.refuseFloat
  infer_instance

instance memberBehind {operand dot : Node} :
    Takes source (Grammar.memberBehind operand dot) (source.placesIn operand ++ source.placesIn dot)
      source.placesIn := by
  unfold Grammar.memberBehind
  exact ⟨inferInstance⟩

instance awaitOrMember {operand dot : Node} :
    Takes source (Grammar.awaitOrMember operand dot)
      (source.placesIn operand ++ source.placesIn dot) source.placesIn := by
  unfold Grammar.awaitOrMember
  exact ⟨inferInstance⟩

instance behindDot {operand dot : Node} :
    Takes source (Grammar.behindDot operand dot) (source.placesIn operand ++ source.placesIn dot)
      source.placesIn := by
  unfold Grammar.behindDot
  refine ⟨Reads.lookThen inferInstance fun cursor => Reads.lookThen inferInstance fun tokens => ?_⟩
  split
  next =>
      split
      next =>
          split
          next members trailing found =>
              have : Draws (source.placesIn operand ++ source.placesIn dot)
                  (source.placesIn (Grammar.accessFields operand dot members)) [] :=
                ⟨source.placesIn_accessFields members operand dot (isLeaf_of_floatMembers found)⟩
              infer_instance
          next => infer_instance
      next => infer_instance
  next => infer_instance

instance trailers {operand : Node} :
    Takes source (Grammar.trailers operand) (source.placesIn operand) source.placesIn := by
  unfold Grammar.trailers
  exact @repeating _ _ _ _ _ fun operand => inferInstance

instance operandBehind {start : Nat} {attributes : List Node} {allowStruct : Bool} :
    Takes source (Grammar.operandBehind start attributes allowStruct) (source.placesIn attributes)
      source.placesIn := by
  unfold Grammar.operandBehind
  exact ⟨inferInstance⟩

instance operand {allowStruct : Bool} :
    Takes source (Grammar.operand allowStruct) [] source.placesIn := by
  unfold Grammar.operand
  exact ⟨inferInstance⟩

instance expression {allowStruct : Bool} :
    Takes source (Grammar.expression allowStruct) [] source.placesIn := by
  unfold Grammar.expression
  exact ⟨inferInstance⟩

instance leadingExpression : Takes source Grammar.leadingExpression [] source.placesIn := by
  unfold Grammar.leadingExpression
  exact ⟨inferInstance⟩

/-! ## Statements -/

instance peekStaticItem : Takes source Grammar.peekStaticItem [] source.placesIn := by
  unfold Grammar.peekStaticItem
  exact ⟨inferInstance⟩

instance peekConstItem : Takes source Grammar.peekConstItem [] source.placesIn := by
  unfold Grammar.peekConstItem
  exact ⟨inferInstance⟩

instance peekItem : Takes source Grammar.peekItem [] source.placesIn := by
  unfold Grammar.peekItem
  exact ⟨inferInstance⟩

instance invocationRole : Takes source Grammar.invocationRole [] source.placesIn := by
  unfold Grammar.invocationRole
  exact ⟨inferInstance⟩

instance elseMayFollow : Takes source Grammar.elseMayFollow [] source.placesIn := by
  unfold Grammar.elseMayFollow
  exact ⟨inferInstance⟩

instance letStatement {attributes : List Node} :
    Takes source (Grammar.letStatement attributes) (source.placesIn attributes)
      source.placesIn := by
  unfold Grammar.letStatement
  exact ⟨inferInstance⟩

instance invocationInBraces {tree : Node} :
    Takes source (Grammar.invocationInBraces tree) [] source.placesIn := by
  unfold Grammar.invocationInBraces
  refine ⟨?_⟩
  split <;> infer_instance

instance needsSemicolon {tree : Node} :
    Takes source (Grammar.needsSemicolon tree) [] source.placesIn := by
  unfold Grammar.needsSemicolon
  refine ⟨?_⟩
  split <;> infer_instance

instance isUnterminated {tree : Node} :
    Takes source (Grammar.isUnterminated tree) [] source.placesIn := by
  unfold Grammar.isUnterminated
  refine ⟨?_⟩
  split <;> infer_instance

instance expressionStatement {attributes : List Node} :
    Takes source (Grammar.expressionStatement attributes) (source.placesIn attributes)
      source.placesIn := by
  unfold Grammar.expressionStatement
  refine ⟨Reads.andThen inferInstance fun expression => ?_⟩
  refine Reads.andThen inferInstance fun semicolon => ?_
  have within := (source.placesIn_addLeftmost attributes expression).append_right
    (source.placesIn semicolon)
  refine Reads.forget within ?_
  generalize Grammar.addLeftmost attributes expression = found
  split
  next outer invocation =>
      rw [source.placesIn_node_pair rfl fun _ => rfl]
      infer_instance
  next => infer_instance

instance statement : Takes source Grammar.statement [] source.placesIn := by
  unfold Grammar.statement
  refine ⟨Reads.lookThen inferInstance fun start => ?_⟩
  refine Reads.andThen inferInstance fun attributes => ?_
  refine Reads.lookThen inferInstance fun role => ?_
  split <;> infer_instance

instance statements : Takes source Grammar.statements [] source.placesIn := by
  unfold Grammar.statements
  exact ⟨inferInstance⟩

end Takes
end Instrument
