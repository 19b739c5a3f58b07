import Instrument.Proofs.Depth.Steps
import Instrument.Grammar.Parse

/-!
# The depth of attributes, paths, types and patterns

Each of these rules reads a token before it refers to another one by name, or is only referred to
behind a token.
-/

namespace Instrument

open Instrument.Parser

set_option synthInstance.maxSize 1000000000

/-- The number of names that may be passed in a row without a token in front of the next. -/
def Symbol.height : Symbol → Nat
  | .statements => 3
  | .expression _ | .leadingExpression => 2
  | .operators _ _ _ => 1
  | _ => 0

theorem Symbol.height_lt (symbol : Symbol) : symbol.height < 16 := by
  unfold height
  split <;> decide

/-- The rules with their names interpreted to a depth. -/
@[reducible] def Grammar.rulesAt (depth : Nat) : Rules :=
  ⟨interpret depth⟩

open Grammar (rulesAt)

/-- A rule reads alike whether the names in it are interpreted to one depth or to another. -/
abbrev RuleAlike {α : Type} (source : Source) (depth reserve one other : Nat)
    (parser : [Rules] → Parser α) : Prop :=
  GoAlike source depth reserve (@parser (rulesAt one)) (@parser (rulesAt other))

/-- Interpreted to one depth and to another one, names are read alike where there is a reserve for
them. -/
class DepthsAgree (source : Source) (depth one other : Nat) : Prop where
  parse : ∀ symbol reserve, symbol.height < reserve →
    RuleAlike source depth reserve one other (Rules.parse symbol)

/-- The limits of a range are a mark. -/
instance Moves.rangeLimits {source : Source} : Moves source Grammar.rangeLimits := by
  unfold Grammar.rangeLimits
  infer_instance

namespace GoAlike

variable {source : Source} [source.IsNested] {depth reserve one other : Nat}
  [agree : DepthsAgree source depth one other]

/-! ## Names -/

/-- Behind a token there is a reserve for every name. -/
instance parse {symbol : Symbol} :
    RuleAlike source depth (reserve + 16) one other (Rules.parse symbol) :=
  agree.parse symbol _ (Nat.lt_add_left reserve symbol.height_lt)

instance parseOperand {allowStruct : Bool} :
    RuleAlike source depth (reserve + 1) one other (Rules.parse (.operand allowStruct)) :=
  agree.parse _ _ (Nat.succ_pos reserve)

instance parseType {allowPlus : Bool} :
    RuleAlike source depth (reserve + 1) one other (Rules.parse (.type allowPlus)) :=
  agree.parse _ _ (Nat.succ_pos reserve)

instance parseItemBehind {start : Nat} {attributes : List Node} :
    RuleAlike source depth (reserve + 1) one other (Rules.parse (.itemBehind start attributes)) :=
  agree.parse _ _ (Nat.succ_pos reserve)

instance parseOperators {left : Node} {allowStruct : Bool} {weakest : Nat} :
    RuleAlike source depth (reserve + 2) one other
      (Rules.parse (.operators left allowStruct weakest)) :=
  agree.parse _ _ (Nat.lt_add_of_pos_left (Nat.succ_pos reserve))

instance parseLeadingExpression :
    RuleAlike source depth (reserve + 3) one other (Rules.parse .leadingExpression) :=
  agree.parse _ _ (Nat.lt_add_of_pos_left (Nat.succ_pos reserve))

/-! ## Attributes -/

instance plainPath : Keeps source depth reserve Grammar.plainPath := by
  unfold Grammar.plainPath
  refine andThen fun leading => andThen fun segments => ?_
  split <;> infer_instance

instance bracketed : Keeps source depth reserve Grammar.bracketed := by
  unfold Grammar.bracketed
  infer_instance

instance invocationBehind {path : Node} :
    Keeps source depth reserve (Grammar.invocationBehind path) := by
  unfold Grammar.invocationBehind
  infer_instance

instance behindBrace : Keeps source depth reserve Grammar.behindBrace := by
  unfold Grammar.behindBrace
  refine andThen fun cursor => andThen fun tokens => ?_
  split <;> infer_instance

instance literal : Keeps source depth reserve Grammar.literal := by
  unfold Grammar.literal
  infer_instance

instance literalExpression : Keeps source depth reserve Grammar.literalExpression := by
  unfold Grammar.literalExpression
  infer_instance

instance attributeContent : RuleAlike source depth reserve one other Grammar.attributeContent := by
  unfold Grammar.attributeContent
  infer_instance

instance outerAttribute : RuleAlike source depth reserve one other Grammar.outerAttribute := by
  unfold Grammar.outerAttribute
  infer_instance

instance innerAttribute : RuleAlike source depth reserve one other Grammar.innerAttribute := by
  unfold Grammar.innerAttribute
  infer_instance

instance outerAttributes : RuleAlike source depth reserve one other Grammar.outerAttributes := by
  unfold Grammar.outerAttributes
  infer_instance

instance innerAttributes : RuleAlike source depth reserve one other Grammar.innerAttributes := by
  unfold Grammar.innerAttributes
  infer_instance

/-! ## Paths -/

instance constArgument :
    RuleAlike source depth (reserve + 16) one other Grammar.constArgument := by
  unfold Grammar.constArgument
  infer_instance

instance constraintBounds :
    RuleAlike source depth (reserve + 16) one other Grammar.constraintBounds := by
  unfold Grammar.constraintBounds
  infer_instance

instance genericArgument :
    RuleAlike source depth (reserve + 16) one other Grammar.genericArgument := by
  unfold Grammar.genericArgument
  refine andThen fun _ => andThen fun _ => either inferInstance ?_
  refine andThen fun _ => either inferInstance (andThen fun type => ?_)
  split <;> infer_instance

instance angleArgumentsBehind {turbofish : Node} :
    RuleAlike source depth reserve one other (Grammar.angleArgumentsBehind turbofish) := by
  unfold Grammar.angleArgumentsBehind
  infer_instance

instance angleArguments : RuleAlike source depth reserve one other Grammar.angleArguments := by
  unfold Grammar.angleArguments
  infer_instance

instance segment {inExpression : Bool} :
    RuleAlike source depth reserve one other (Grammar.segment inExpression) := by
  unfold Grammar.segment
  infer_instance

instance segmentsBehind {first : Node} {inExpression : Bool} :
    RuleAlike source depth reserve one other (Grammar.segmentsBehind first inExpression) := by
  unfold Grammar.segmentsBehind
  infer_instance

instance simplePath {inExpression : Bool} :
    RuleAlike source depth reserve one other (Grammar.simplePath inExpression) := by
  unfold Grammar.simplePath
  infer_instance

instance path {inExpression : Bool} :
    RuleAlike source depth reserve one other (Grammar.path inExpression) := by
  unfold Grammar.path
  infer_instance

instance returnType {allowPlus : Bool} :
    RuleAlike source depth (reserve + 16) one other (Grammar.returnType allowPlus) := by
  unfold Grammar.returnType
  infer_instance

instance parenthesizedArguments :
    RuleAlike source depth reserve one other Grammar.parenthesizedArguments := by
  unfold Grammar.parenthesizedArguments
  infer_instance

instance pathOfBound : RuleAlike source depth reserve one other Grammar.pathOfBound := by
  unfold Grammar.pathOfBound
  refine andThen fun path => ?_
  split <;> infer_instance

/-! ## Bounds and parameters -/

instance lifetimeNode : Keeps source depth reserve Grammar.lifetimeNode := by
  unfold Grammar.lifetimeNode
  infer_instance

instance binder : RuleAlike source depth reserve one other Grammar.binder := by
  unfold Grammar.binder
  infer_instance

instance captureBound : Keeps source depth reserve Grammar.captureBound := by
  unfold Grammar.captureBound
  infer_instance

instance traitBoundParts {allowConst : Bool} :
    RuleAlike source depth reserve one other (Grammar.traitBoundParts allowConst) := by
  unfold Grammar.traitBoundParts
  infer_instance

instance bound {allowCapture allowConst : Bool} :
    RuleAlike source depth reserve one other (Grammar.bound allowCapture allowConst) := by
  unfold Grammar.bound
  infer_instance

instance peekBound {allowConst : Bool} :
    Keeps source depth reserve (Grammar.peekBound allowConst) := by
  unfold Grammar.peekBound
  infer_instance

instance bounds {allowPlus allowCapture allowConst : Bool} :
    RuleAlike source depth reserve one other
      (Grammar.bounds allowPlus allowCapture allowConst) := by
  unfold Grammar.bounds
  infer_instance

instance peekColon : Keeps source depth reserve Grammar.peekColon := by
  unfold Grammar.peekColon
  infer_instance

instance predicateBounds : RuleAlike source depth reserve one other Grammar.predicateBounds := by
  unfold Grammar.predicateBounds
  infer_instance

instance lifetimeBounds {ending : Parser Bool} [Keeps source depth reserve ending] :
    Keeps source depth reserve (Grammar.lifetimeBounds ending) := by
  unfold Grammar.lifetimeBounds
  infer_instance

instance colonBounds {found found' : Parser Node} [GoAlike source depth reserve found found'] :
    GoAlike source depth reserve (Grammar.colonBounds found)
      (Grammar.colonBounds found') := by
  unfold Grammar.colonBounds
  infer_instance

instance lifetimeParameter {attributes : Node} :
    Keeps source depth reserve (Grammar.lifetimeParameter attributes) := by
  unfold Grammar.lifetimeParameter
  infer_instance

instance typeParameter {attributes : Node} :
    RuleAlike source depth reserve one other (Grammar.typeParameter attributes) := by
  unfold Grammar.typeParameter
  infer_instance

instance constParameter {attributes : Node} :
    RuleAlike source depth reserve one other (Grammar.constParameter attributes) := by
  unfold Grammar.constParameter
  infer_instance

instance genericParameter : RuleAlike source depth reserve one other Grammar.genericParameter := by
  unfold Grammar.genericParameter
  infer_instance

instance generics : RuleAlike source depth reserve one other Grammar.generics := by
  unfold Grammar.generics
  infer_instance

instance peekParameters {skipped : Nat} :
    Keeps source depth reserve (Grammar.peekParameters skipped) := by
  unfold Grammar.peekParameters
  infer_instance

instance predicate : RuleAlike source depth (reserve + 16) one other Grammar.predicate := by
  unfold Grammar.predicate
  infer_instance

instance whereClause : RuleAlike source depth reserve one other Grammar.whereClause := by
  unfold Grammar.whereClause
  infer_instance

/-! ## Types -/

instance objectBounds {allowPlus : Bool} :
    RuleAlike source depth reserve one other (Grammar.objectBounds allowPlus) := by
  unfold Grammar.objectBounds
  infer_instance

instance bareObject : RuleAlike source depth reserve one other Grammar.bareObject := by
  unfold Grammar.bareObject
  infer_instance

instance furtherBounds {first : Node} :
    RuleAlike source depth reserve one other (Grammar.furtherBounds first) := by
  unfold Grammar.furtherBounds
  infer_instance

instance parenthesizedContent :
    RuleAlike source depth (reserve + 16) one other Grammar.parenthesizedContent := by
  unfold Grammar.parenthesizedContent
  infer_instance

instance parenthesizedType {allowPlus : Bool} :
    RuleAlike source depth reserve one other (Grammar.parenthesizedType allowPlus) := by
  unfold Grammar.parenthesizedType
  refine andThen fun inside => ?_
  cases inside.content with
  | empty => infer_instance
  | several elements => infer_instance
  | object type => infer_instance
  | relaxed parts => infer_instance
  | single type =>
      refine andThen fun isBound => ?_
      dsimp only
      split <;> infer_instance

instance abi : Keeps source depth reserve Grammar.abi := by
  unfold Grammar.abi
  infer_instance

instance peekTypeVariadic : Keeps source depth reserve Grammar.peekTypeVariadic := by
  unfold Grammar.peekTypeVariadic
  infer_instance

instance functionTypeVariadic {attributes : Node} :
    Keeps source depth reserve (Grammar.functionTypeVariadic attributes) := by
  unfold Grammar.functionTypeVariadic
  infer_instance

instance functionTypeParameter {attributes : Node} {allowSelf : Bool} :
    RuleAlike source depth (reserve + 16) one other
      (Grammar.functionTypeParameter attributes allowSelf) := by
  unfold Grammar.functionTypeParameter
  infer_instance

instance functionTypeParameters :
    RuleAlike source depth (reserve + 16) one other Grammar.functionTypeParameters := by
  unfold Grammar.functionTypeParameters
  infer_instance

instance functionType {binding : Node} :
    RuleAlike source depth reserve one other (Grammar.functionType binding) := by
  unfold Grammar.functionType
  infer_instance

instance boundsBehindPath {first : Node} :
    RuleAlike source depth reserve one other (Grammar.boundsBehindPath first) := by
  unfold Grammar.boundsBehindPath
  infer_instance

instance pathType {binding : Node} {allowPlus : Bool} :
    RuleAlike source depth reserve one other (Grammar.pathType binding allowPlus) := by
  unfold Grammar.pathType
  infer_instance

instance bracketType : RuleAlike source depth reserve one other Grammar.bracketType := by
  unfold Grammar.bracketType
  infer_instance

instance pointerType : RuleAlike source depth reserve one other Grammar.pointerType := by
  unfold Grammar.pointerType
  infer_instance

instance referenceType : RuleAlike source depth reserve one other Grammar.referenceType := by
  unfold Grammar.referenceType
  infer_instance

instance implType {allowPlus : Bool} :
    RuleAlike source depth reserve one other (Grammar.implType allowPlus) := by
  unfold Grammar.implType
  infer_instance

instance dynType {allowPlus : Bool} :
    RuleAlike source depth reserve one other (Grammar.dynType allowPlus) := by
  unfold Grammar.dynType
  infer_instance

instance type {allowPlus : Bool} :
    RuleAlike source depth reserve one other (Grammar.type allowPlus) := by
  unfold Grammar.type
  infer_instance

/-! ## Patterns -/

instance peekBar : Keeps source depth reserve Grammar.peekBar := by
  unfold Grammar.peekBar
  infer_instance

instance alternatives : RuleAlike source depth (reserve + 16) one other Grammar.alternatives := by
  unfold Grammar.alternatives
  infer_instance

instance rangeLimits : Keeps source depth reserve Grammar.rangeLimits := by
  unfold Grammar.rangeLimits
  infer_instance

instance patternLimits : Keeps source depth reserve Grammar.patternLimits := by
  unfold Grammar.patternLimits
  infer_instance

instance pathExpression : RuleAlike source depth reserve one other Grammar.pathExpression := by
  unfold Grammar.pathExpression
  infer_instance

instance constBlock : RuleAlike source depth reserve one other Grammar.constBlock := by
  unfold Grammar.constBlock
  infer_instance

instance rangeBound : RuleAlike source depth reserve one other Grammar.rangeBound := by
  unfold Grammar.rangeBound
  infer_instance

instance rangeBehind {lower : Node} :
    RuleAlike source depth reserve one other (Grammar.rangeBehind lower) := by
  unfold Grammar.rangeBehind
  infer_instance

instance literalPattern : RuleAlike source depth reserve one other Grammar.literalPattern := by
  unfold Grammar.literalPattern
  infer_instance

instance dotsPattern : RuleAlike source depth reserve one other Grammar.dotsPattern := by
  unfold Grammar.dotsPattern
  infer_instance

instance namePattern : RuleAlike source depth reserve one other Grammar.namePattern := by
  unfold Grammar.namePattern
  infer_instance

instance member : Keeps source depth reserve Grammar.member := by
  unfold Grammar.member
  refine andThen fun isName => either inferInstance ?_
  refine andThen fun isNumber => either ?_ inferInstance
  refine andThen fun cursor => andThen fun tokens => ?_
  repeat' split
  all_goals infer_instance

instance fieldPattern {attributes : Node} :
    RuleAlike source depth (reserve + 16) one other (Grammar.fieldPattern attributes) := by
  unfold Grammar.fieldPattern
  infer_instance

instance structPatternFields :
    RuleAlike source depth (reserve + 16) one other Grammar.structPatternFields := by
  unfold Grammar.structPatternFields
  infer_instance

instance pathPattern : RuleAlike source depth reserve one other Grammar.pathPattern := by
  unfold Grammar.pathPattern
  infer_instance

instance tuplePattern : RuleAlike source depth reserve one other Grammar.tuplePattern := by
  unfold Grammar.tuplePattern
  refine andThen fun body => ?_
  split <;> infer_instance

instance slicePattern : RuleAlike source depth reserve one other Grammar.slicePattern := by
  unfold Grammar.slicePattern
  infer_instance

instance referencePattern : RuleAlike source depth reserve one other Grammar.referencePattern := by
  unfold Grammar.referencePattern
  infer_instance

instance peekBehindAny {terminals : List Terminal} :
    Keeps source depth reserve (Grammar.peekBehindAny terminals) := by
  unfold Grammar.peekBehindAny
  infer_instance

instance peekPathPattern : Keeps source depth reserve Grammar.peekPathPattern := by
  unfold Grammar.peekPathPattern
  infer_instance

instance pattern : RuleAlike source depth reserve one other Grammar.pattern := by
  unfold Grammar.pattern
  infer_instance

end GoAlike
end Instrument
