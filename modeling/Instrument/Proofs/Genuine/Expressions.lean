import Instrument.Proofs.Genuine.Types

/-!
# Genuine expressions and statements

Attributes in front of an expression are moved to the part of it that they belong to.
-/

namespace Instrument

open Instrument.Parser

set_option synthInstance.maxSize 1000000000

/-- Other attributes in front of a tree leave what they are about as it is, where it is. -/
instance GenuineInside.addAttributes {source : Source} {around : List Kind}
    {attributes : List Node} {tree : Node} [added : Genuine source attributes]
    [genuine : GenuineInside source around tree] :
    GenuineInside source around (Grammar.addAttributes attributes tree) := by
  unfold Grammar.addAttributes
  split
  next => exact genuine
  next kind found parts _ =>
      have proper := genuine.proper _ _ (.refl _)
      refine .node (fun home => genuine.housed.member) ⟨?noValue, proper.fitsInside, ?namesType⟩ ?_
      case noValue =>
        intro same
        have noValue := proper.noValue same
        revert noValue
        unfold NoValueBehind
        repeat' split
        all_goals simp_all
      case namesType =>
        intro same
        rcases proper.namesType same with ⟨path, onlyPath, isNamed⟩
        cases onlyPath
        cases isNamed
      refine List.forall_mem_cons.mpr ⟨?_, fun part within => genuine.part (.tail _ within)⟩
      have before := genuine.part (.head _)
      refine .nodeAnywhere rfl (.of_isOther rfl) (List.forall_mem_append.mpr ⟨?_, ?_⟩)
      · exact fun part within => (Genuine.list_iff.mp added part within).inside _
      · exact fun part within => before.part within
  next => exact genuine

namespace Genuine

variable {source : Source}

variable {α : Type} [HasNodes α]

instance : HasNodes Grammar.Body :=
  ⟨fun parts => [parts.inner, parts.block]⟩

namespace Body

variable {parts : Grammar.Body} [genuine : Genuine source parts]

instance inner : Genuine source parts.inner :=
  genuine.ofMember (by simp [HasNodes.nodes])

instance block : Genuine source parts.block :=
  genuine.ofMember (by simp [HasNodes.nodes])

end Body

instance body {inner block : Node} [Genuine source inner] [Genuine source block] :
    Genuine source (Grammar.Body.mk inner block) :=
  ⟨(inferInstance : Genuine source [inner, block]).ofNodes⟩

instance : HasNodes Grammar.Clause :=
  ⟨fun parts => [parts.keyword, parts.test, parts.body]⟩

namespace Clause

variable {parts : Grammar.Clause} [genuine : Genuine source parts]

instance keyword : Genuine source parts.keyword :=
  genuine.ofMember (by simp [HasNodes.nodes])

instance test : Genuine source parts.test :=
  genuine.ofMember (by simp [HasNodes.nodes])

instance body : Genuine source parts.body :=
  genuine.ofMember (by simp [HasNodes.nodes])

end Clause

instance clause {keyword test body : Node} [Genuine source keyword] [Genuine source test]
    [Genuine source body] : Genuine source (Grammar.Clause.mk keyword test body) :=
  ⟨(inferInstance : Genuine source [keyword, test, body]).ofNodes⟩

instance : HasNodes Grammar.Clauses where
  nodes
    | .reading outer last => HasNodes.nodes (outer, last)
    | .finished conditional => [conditional]

instance readingClauses {outer : List (Grammar.Clause × Node)} {last : Grammar.Clause}
    [Genuine source outer] [Genuine source last] :
    Genuine source (Grammar.Clauses.reading outer last) :=
  ⟨(inferInstance : Genuine source (outer, last)).ofNodes⟩

instance finishedClauses {conditional : Node} [genuine : Genuine source conditional] :
    Genuine source (Grammar.Clauses.finished conditional) :=
  ⟨genuine.ofNodes⟩

theorem foldl {step : Node → α → Node} (keeps : ∀ tree value, Genuine source tree →
    Genuine source value → Genuine source (step tree value)) :
    ∀ (values : List α) (tree : Node), Genuine source values → Genuine source tree →
      Genuine source (values.foldl step tree)
  | [], _, _, genuine => genuine
  | value :: rest, tree, genuine, genuine' =>
    foldl keeps rest (step tree value) (cons_iff.mp genuine).2
      (keeps tree value genuine' (cons_iff.mp genuine).1)

instance conditionalOf {clauses : List (Grammar.Clause × Node)} {last : Grammar.Clause}
    {otherwise : Node} [genuine : Genuine source clauses] [Genuine source last]
    [Genuine source otherwise] :
    Genuine source (Grammar.conditionalOf clauses last otherwise) := by
  unfold Grammar.conditionalOf
  refine foldl (fun inner clause _ _ => ?_) clauses _ genuine inferInstance
  infer_instance

instance addAttributes {attributes : List Node} {tree : Node} [Genuine source attributes]
    [genuine : Genuine source tree] : Genuine source (Grammar.addAttributes attributes tree) :=
  have := node_iff.mp genuine
  node_iff.mpr inferInstance

theorem addLeftmost {attributes : List Node} (genuine : Genuine source attributes) :
    ∀ tree : Node, Genuine source tree → Genuine source (Grammar.addLeftmost attributes tree)
  | tree, genuine' => by
      unfold Grammar.addLeftmost
      split
      all_goals try infer_instance
      all_goals
        next outer first rest =>
            have inside := cons_iff.mp genuine'.parts
            have behind := cons_iff.mp inside.2
            have := inside.1
            have := behind.2
            have := addLeftmost genuine first behind.1
            infer_instance

/-- Names and the dots between them follow each other. -/
theorem accessFields : ∀ (names : List Node) (operand dot : Node), Genuine source names →
    Genuine source operand → Genuine source dot →
      Genuine source (Grammar.accessFields operand dot names)
  | [], _, _, _, genuine, _ => genuine
  | [name], operand, dot, inside, _, _ => by
      have := (cons_iff.mp inside).1
      unfold Grammar.accessFields
      infer_instance
  | name :: next :: rest, operand, dot, inside, _, _ => by
      have others := cons_iff.mp (cons_iff.mp inside).2
      have := (cons_iff.mp inside).1
      unfold Grammar.accessFields
      refine accessFields rest _ _ others.2 ?_ others.1
      infer_instance

theorem floatMembers {position : Nat} {text : List Char} {members : List Node} {trailing : Bool}
    (found : Grammar.floatMembers position text = Option.some (members, trailing)) :
    Genuine source members := by
  unfold Grammar.floatMembers at found
  extract_lets atEnd digits first rest isNumber number at found
  clear_value atEnd digits first rest isNumber
  have (start : Nat) (part : List Char) : Genuine source (number start part) := by
    dsimp only [number]
    infer_instance
  repeat' split at found
  all_goals
    cases found
    try infer_instance

end Genuine

namespace ReadsGenuine

variable {source : Source} [source.IsGrouped] [Rules] [Rules.AreGenuine source]

instance body : ReadsGenuine source Grammar.body := by
  unfold Grammar.body
  refine andThenYields inferInstance (.group (.pair Rules.AreFitting.statements)) ?_
  intro found genuine fits
  have : Genuine source (Tree.node .block [found.opening, found.content.2, found.closing]) :=
    Genuine.ofOccupants rfl fits
  infer_instance

instance block : ReadsGenuine source Grammar.block := by
  unfold Grammar.block
  refine andThenYields inferInstance (.group Rules.AreFitting.statements) ?_
  intro found genuine fits
  have : Genuine source (Tree.node .block [found.opening, found.content, found.closing]) :=
    Genuine.ofOccupants rfl fits
  infer_instance

instance plainBlockExpression : ReadsGenuine source Grammar.plainBlockExpression := by
  unfold Grammar.plainBlockExpression
  infer_instance

instance condition : ReadsGenuine source Grammar.condition := by
  unfold Grammar.condition
  infer_instance

instance label : ReadsGenuine source Grammar.label := by
  unfold Grammar.label
  infer_instance

instance blockExpression : ReadsGenuine source Grammar.blockExpression := by
  unfold Grammar.blockExpression
  infer_instance

instance whileLoop {name : Node} [Genuine source name] :
    ReadsGenuine source (Grammar.whileLoop name) := by
  unfold Grammar.whileLoop
  infer_instance

instance forLoop {name : Node} [Genuine source name] :
    ReadsGenuine source (Grammar.forLoop name) := by
  unfold Grammar.forLoop
  infer_instance

instance loopExpression {name : Node} [Genuine source name] :
    ReadsGenuine source (Grammar.loopExpression name) := by
  unfold Grammar.loopExpression
  infer_instance

instance labelled : ReadsGenuine source Grammar.labelled := by
  unfold Grammar.labelled
  infer_instance

instance clause : ReadsGenuine source Grammar.clause := by
  unfold Grammar.clause
  infer_instance

instance ifExpression : ReadsGenuine source Grammar.ifExpression := by
  unfold Grammar.ifExpression
  refine andThen inferInstance fun first _ => ?_
  refine andThen (repeatedly inferInstance fun clauses genuine => ?_) fun clauses genuine => ?_
  · cases clauses with
    | finished conditional => infer_instance
    | reading outer last =>
        have : Genuine source (outer, last) := ⟨genuine.ofNodes⟩
        have := (Genuine.pair_iff.mp this).1
        have := (Genuine.pair_iff.mp ‹Genuine source (outer, last)›).2
        dsimp only
        infer_instance
  · cases clauses with
    | finished conditional =>
        have : Genuine source conditional := ⟨genuine.ofNodes⟩
        infer_instance
    | reading outer last =>
        have : Genuine source (outer, last) := ⟨genuine.ofNodes⟩
        have := (Genuine.pair_iff.mp this).1
        have := (Genuine.pair_iff.mp ‹Genuine source (outer, last)›).2
        dsimp only
        infer_instance

instance arm : ReadsGenuine source Grammar.arm := by
  unfold Grammar.arm
  infer_instance

instance matchExpression : ReadsGenuine source Grammar.matchExpression := by
  unfold Grammar.matchExpression
  refine andThen inferInstance fun keyword _ => andThen inferInstance fun scrutinee _ => ?_
  refine andThenYields inferInstance (.group (.pair (.manyWhile ReadsFitting.arm.yields))) ?_
  intro found genuine fits
  have : Genuine source
      (Tree.node .members [found.opening, .sequence found.content.2, found.closing]) :=
    Genuine.ofOccupants rfl (forall_elements_sequence fits)
  infer_instance

instance tryBlock : ReadsGenuine source Grammar.tryBlock := by
  unfold Grammar.tryBlock
  infer_instance

instance unsafeBlock : ReadsGenuine source Grammar.unsafeBlock := by
  unfold Grammar.unsafeBlock
  infer_instance

instance asyncBlock : ReadsGenuine source Grammar.asyncBlock := by
  unfold Grammar.asyncBlock
  infer_instance

instance closureParameter : ReadsGenuine source Grammar.closureParameter := by
  unfold Grammar.closureParameter
  infer_instance

instance closure {allowStruct : Bool} : ReadsGenuine source (Grammar.closure allowStruct) := by
  unfold Grammar.closure
  infer_instance

instance optionalExpression : ReadsGenuine source Grammar.optionalExpression := by
  unfold Grammar.optionalExpression
  infer_instance

instance breakExpression {allowStruct : Bool} :
    ReadsGenuine source (Grammar.breakExpression allowStruct) := by
  unfold Grammar.breakExpression
  infer_instance

instance rightOperand {allowStruct : Bool} {strength : Nat} :
    ReadsGenuine source (Grammar.rightOperand allowStruct strength) := by
  unfold Grammar.rightOperand
  infer_instance

instance rangeEnd {limits : Node} {allowStruct : Bool} [Genuine source limits] :
    ReadsGenuine source (Grammar.rangeEnd limits allowStruct) := by
  unfold Grammar.rangeEnd
  infer_instance

instance operators {left : Node} {allowStruct : Bool} {weakest : Nat} [Genuine source left] :
    ReadsGenuine source (Grammar.operators left allowStruct weakest) := by
  unfold Grammar.operators
  refine repeatedly inferInstance fun left _ => ?_
  split
  · infer_instance
  refine andThen inferInstance fun operator _ => ?_
  split <;> infer_instance

instance fieldValue : ReadsGenuine source Grammar.fieldValue := by
  unfold Grammar.fieldValue
  infer_instance

instance structFields : ReadsGenuine source Grammar.structFields := by
  unfold Grammar.structFields
  infer_instance

instance fromPath {allowStruct : Bool} : ReadsGenuine source (Grammar.fromPath allowStruct) := by
  unfold Grammar.fromPath
  infer_instance

instance tuple : ReadsGenuine source Grammar.tuple := by
  unfold Grammar.tuple
  refine andThen inferInstance fun found _ => ?_
  have content : Genuine source found.content := inferInstance
  split
  next only same =>
      have : Genuine source only := (Genuine.cons_iff.mp (same ▸ content).parts).1
      infer_instance
  next elements _ => infer_instance

instance array : ReadsGenuine source Grammar.array := by
  unfold Grammar.array
  infer_instance

instance letExpression {allowStruct : Bool} :
    ReadsGenuine source (Grammar.letExpression allowStruct) := by
  unfold Grammar.letExpression
  infer_instance

instance keptExpression : ReadsGenuine source Grammar.keptExpression := by
  unfold Grammar.keptExpression
  infer_instance

instance jump {kind : Kind} {keyword : String} [Holds kind.isOther] :
    ReadsGenuine source (Grammar.jump kind keyword) := by
  unfold Grammar.jump
  infer_instance

instance atom {allowStruct : Bool} : ReadsGenuine source (Grammar.atom allowStruct) := by
  unfold Grammar.atom
  refine andThen inferInstance fun _ _ => either inferInstance ?_
  refine andThen inferInstance fun _ _ => either inferInstance ?_
  refine andThen inferInstance fun _ _ => andThen inferInstance fun _ _ => either inferInstance ?_
  refine andThen inferInstance fun _ _ => either inferInstance ?_
  refine andThen inferInstance fun kept genuine => ?_
  cases kept with
  | none =>
      dsimp only
      infer_instance
  | some kept =>
      have := Genuine.of_some genuine
      infer_instance

instance refuseFloat {text : List Char} :
    ReadsGenuine source (Grammar.refuseFloat text : Parser Node) := by
  unfold Grammar.refuseFloat
  infer_instance

instance memberBehind {operand dot : Node} [Genuine source operand] [Genuine source dot] :
    ReadsGenuine source (Grammar.memberBehind operand dot) := by
  unfold Grammar.memberBehind
  infer_instance

instance awaitOrMember {operand dot : Node} [Genuine source operand] [Genuine source dot] :
    ReadsGenuine source (Grammar.awaitOrMember operand dot) := by
  unfold Grammar.awaitOrMember
  infer_instance

instance behindDot {operand dot : Node} [Genuine source operand] [Genuine source dot] :
    ReadsGenuine source (Grammar.behindDot operand dot) := by
  unfold Grammar.behindDot
  refine andThen inferInstance fun cursor _ => andThen inferInstance fun tokens _ => ?_
  split
  next =>
      split
      next =>
          split
          next members trailing found =>
              have : Genuine source members := Genuine.floatMembers found
              have := Genuine.accessFields members operand dot this inferInstance inferInstance
              infer_instance
          next => infer_instance
      next => infer_instance
  next => infer_instance

instance trailers {operand : Node} [Genuine source operand] :
    ReadsGenuine source (Grammar.trailers operand) := by
  unfold Grammar.trailers
  infer_instance

instance operandBehind {start : Nat} {attributes : List Node} {allowStruct : Bool}
    [Genuine source attributes] :
    ReadsGenuine source (Grammar.operandBehind start attributes allowStruct) := by
  unfold Grammar.operandBehind
  infer_instance

instance operand {allowStruct : Bool} : ReadsGenuine source (Grammar.operand allowStruct) := by
  unfold Grammar.operand
  infer_instance

instance expression {allowStruct : Bool} :
    ReadsGenuine source (Grammar.expression allowStruct) := by
  unfold Grammar.expression
  infer_instance

instance leadingExpression : ReadsGenuine source Grammar.leadingExpression := by
  unfold Grammar.leadingExpression
  infer_instance

/-! ## Statements -/

instance letStatement {attributes : List Node} [Genuine source attributes] :
    ReadsGenuine source (Grammar.letStatement attributes) := by
  unfold Grammar.letStatement
  infer_instance

instance expressionStatement {attributes : List Node} [Genuine source attributes] :
    ReadsGenuine source (Grammar.expressionStatement attributes) := by
  unfold Grammar.expressionStatement
  refine andThen inferInstance fun expression genuine => ?_
  have found := Genuine.addLeftmost ‹Genuine source attributes› expression genuine
  refine andThen inferInstance fun semicolon _ => ?_
  split
  next outer invocation same =>
      have inside := found
      rw [same] at inside
      have parts := Genuine.cons_iff.mp inside.parts
      have := parts.1
      have := (Genuine.cons_iff.mp parts.2).1
      infer_instance
  next => infer_instance

instance statement : ReadsGenuine source Grammar.statement := by
  unfold Grammar.statement
  refine andThen inferInstance fun start _ => andThen inferInstance fun attributes _ => ?_
  refine andThen inferInstance fun role _ => ?_
  split <;> infer_instance

instance statements : ReadsGenuine source Grammar.statements := by
  unfold Grammar.statements
  infer_instance

end ReadsGenuine
end Instrument
