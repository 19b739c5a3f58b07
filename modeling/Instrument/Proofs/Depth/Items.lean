import Instrument.Proofs.Depth.Expressions
import Instrument.Proofs.Order.Lines

/-!
# The depth of functions and items, and of whole texts

Behind its keyword every item has the reserve that the keyword sets free, and so has every member
behind the brace that it stands in.  With this each rule reads alike to all depths that suffice, and
by induction on the depth so do the names.  The depth of the grammar therefore suffices for every
text: it is never used up, and a greater one would make no difference.
-/

namespace Instrument

open Instrument.Parser
open Grammar (rulesAt)

set_option synthInstance.maxSize 1000000000

namespace GoAlike

variable {source : Source} [source.IsNested] {depth reserve one other : Nat}
  [DepthsAgree source depth one other]

/-! ## Functions -/

instance restriction : Keeps source depth (reserve + 16) Grammar.restriction := by
  unfold Grammar.restriction
  refine rememberThen fun start _ => andThen fun inside => ?_
  cases inside.content <;> infer_instance

instance visibility : Keeps source depth reserve Grammar.visibility := by
  unfold Grammar.visibility
  infer_instance

instance peekSignature {allowSafe : Bool} :
    Keeps source depth reserve (Grammar.peekSignature allowSafe) := by
  unfold Grammar.peekSignature
  infer_instance

instance receiver {attributes : Node} :
    RuleAlike source depth reserve one other (Grammar.receiver attributes) := by
  unfold Grammar.receiver
  infer_instance

instance parameter {attributes : Node} :
    RuleAlike source depth (reserve + 16) one other (Grammar.parameter attributes) := by
  unfold Grammar.parameter
  infer_instance

instance parameters : RuleAlike source depth (reserve + 16) one other Grammar.parameters := by
  unfold Grammar.parameters
  infer_instance

instance signatureOrSafe {allowSafe : Bool} :
    RuleAlike source depth reserve one other (Grammar.signatureOrSafe allowSafe) := by
  unfold Grammar.signatureOrSafe
  infer_instance

instance signature : RuleAlike source depth reserve one other Grammar.signature := by
  unfold Grammar.signature
  infer_instance

instance functionBehind {kind : Kind} {attributes : List Node} {visible mode declared : Node} :
    RuleAlike source depth reserve one other
      (Grammar.functionBehind kind attributes visible mode declared) := by
  unfold Grammar.functionBehind
  infer_instance

instance function : RuleAlike source depth reserve one other Grammar.function := by
  unfold Grammar.function
  infer_instance

instance traitFunction : RuleAlike source depth reserve one other Grammar.traitFunction := by
  unfold Grammar.traitFunction
  infer_instance

instance foreignFunction : RuleAlike source depth reserve one other Grammar.foreignFunction := by
  unfold Grammar.foreignFunction
  infer_instance

/-! ## Items and members -/

section Members

variable {element element' : Parser Node}

instance untilEnd [GoAlike source depth reserve element element'] :
    GoAlike source depth reserve (Grammar.untilEnd element) (Grammar.untilEnd element') := by
  unfold Grammar.untilEnd
  infer_instance

instance memberBody [GoAlike source depth (reserve + 16) element element'] :
    GoAlike source depth reserve (@Grammar.memberBody (rulesAt one) element)
      (@Grammar.memberBody (rulesAt other) element') := by
  unfold Grammar.memberBody
  infer_instance

end Members

instance item : RuleAlike source depth (reserve + 1) one other Grammar.item := by
  unfold Grammar.item
  infer_instance

instance namedField : RuleAlike source depth (reserve + 16) one other Grammar.namedField := by
  unfold Grammar.namedField
  infer_instance

instance tupleField : RuleAlike source depth (reserve + 16) one other Grammar.tupleField := by
  unfold Grammar.tupleField
  infer_instance

instance namedFields : RuleAlike source depth reserve one other Grammar.namedFields := by
  unfold Grammar.namedFields
  infer_instance

instance tupleFields : RuleAlike source depth reserve one other Grammar.tupleFields := by
  unfold Grammar.tupleFields
  infer_instance

instance structItem {attributes : Node} :
    RuleAlike source depth reserve one other (Grammar.structItem attributes) := by
  unfold Grammar.structItem
  infer_instance

instance variant : RuleAlike source depth (reserve + 16) one other Grammar.variant := by
  unfold Grammar.variant
  infer_instance

instance enumItem {attributes : Node} :
    RuleAlike source depth reserve one other (Grammar.enumItem attributes) := by
  unfold Grammar.enumItem
  infer_instance

instance unionItem {attributes : Node} :
    RuleAlike source depth reserve one other (Grammar.unionItem attributes) := by
  unfold Grammar.unionItem
  infer_instance

instance identifierOrUnderscore : Keeps source depth reserve Grammar.identifierOrUnderscore := by
  unfold Grammar.identifierOrUnderscore
  infer_instance

instance externCrateItem {attributes : Node} :
    Keeps source depth reserve (Grammar.externCrateItem attributes) := by
  unfold Grammar.externCrateItem
  infer_instance

instance usePathBehind {name : Node} :
    RuleAlike source depth reserve one other (Grammar.usePathBehind name) := by
  unfold Grammar.usePathBehind
  infer_instance

instance useGroup {allowRoot : Bool} :
    RuleAlike source depth reserve one other (Grammar.useGroup allowRoot) := by
  unfold Grammar.useGroup
  infer_instance

instance useTree {allowRoot : Bool} :
    RuleAlike source depth reserve one other (Grammar.useTree allowRoot) := by
  unfold Grammar.useTree
  infer_instance

instance useItem {start : Nat} {attributes : Node} :
    RuleAlike source depth reserve one other (Grammar.useItem start attributes) := by
  unfold Grammar.useItem
  infer_instance

instance staticItem {start : Nat} {attributes : Node} :
    RuleAlike source depth reserve one other (Grammar.staticItem start attributes) := by
  unfold Grammar.staticItem
  infer_instance

instance constBehind : RuleAlike source depth reserve one other Grammar.constBehind := by
  unfold Grammar.constBehind
  infer_instance

instance constItem {start : Nat} {attributes : Node} :
    RuleAlike source depth reserve one other (Grammar.constItem start attributes) := by
  unfold Grammar.constItem
  infer_instance

instance typeBehind {place : Grammar.WherePlace} :
    RuleAlike source depth reserve one other (Grammar.typeBehind place) := by
  unfold Grammar.typeBehind
  infer_instance

instance typeItem {start : Nat} {attributes : Node} :
    RuleAlike source depth reserve one other (Grammar.typeItem start attributes) := by
  unfold Grammar.typeItem
  infer_instance

instance moduleItem {attributes : Node} :
    RuleAlike source depth reserve one other (Grammar.moduleItem attributes) := by
  unfold Grammar.moduleItem
  infer_instance

instance macroDefinition {start : Nat} :
    Keeps source depth reserve (Grammar.macroDefinition start) := by
  unfold Grammar.macroDefinition
  infer_instance

instance invocationEnd {opening : Node} :
    Keeps source depth reserve (Grammar.invocationEnd opening) := by
  unfold Grammar.invocationEnd
  infer_instance

instance macroItem {attributes : Node} :
    Keeps source depth reserve (Grammar.macroItem attributes) := by
  unfold Grammar.macroItem
  infer_instance

instance macroMember {attributes : Node} :
    Keeps source depth reserve (Grammar.macroMember attributes) := by
  unfold Grammar.macroMember
  infer_instance

instance foreignMember :
    RuleAlike source depth (reserve + 16) one other Grammar.foreignMember := by
  unfold Grammar.foreignMember
  refine andThen fun start => andThen fun outer => rememberThen fun before _ => ?_
  infer_instance

instance foreignModule {attributes : Node} :
    RuleAlike source depth reserve one other (Grammar.foreignModule attributes) := by
  unfold Grammar.foreignModule
  infer_instance

instance traitMember : RuleAlike source depth (reserve + 16) one other Grammar.traitMember := by
  unfold Grammar.traitMember
  infer_instance

instance superBounds {ending : Terminal} :
    RuleAlike source depth reserve one other (Grammar.superBounds ending) := by
  unfold Grammar.superBounds
  infer_instance

instance traitBehind {attributes visible safety auto keyword name parameterNames : Node} :
    RuleAlike source depth reserve one other
      (Grammar.traitBehind attributes visible safety auto keyword name parameterNames) := by
  unfold Grammar.traitBehind
  infer_instance

instance qualifiedTrait {attributes : Node} :
    RuleAlike source depth reserve one other (Grammar.qualifiedTrait attributes) := by
  unfold Grammar.qualifiedTrait
  infer_instance

instance traitOrAlias {attributes : Node} :
    RuleAlike source depth reserve one other (Grammar.traitOrAlias attributes) := by
  unfold Grammar.traitOrAlias
  infer_instance

instance implMember : RuleAlike source depth (reserve + 16) one other Grammar.implMember := by
  unfold Grammar.implMember
  refine andThen fun start => andThen fun outer => rememberThen fun before _ => ?_
  infer_instance

instance implHead : RuleAlike source depth (reserve + 16) one other Grammar.implHead := by
  unfold Grammar.implHead
  refine andThen fun start => andThen fun isMark => andThen fun isBlock => ?_
  refine either (andThen fun polarity => ?_) (andThen fun polarity => ?_)
  all_goals
    refine andThen fun first => andThen fun isTrait => either ?_ inferInstance
    refine andThen fun keyword => andThen fun type => ?_
    split <;> infer_instance

instance implItem {start : Nat} {attributes : Node} :
    RuleAlike source depth reserve one other (Grammar.implItem start attributes) := by
  unfold Grammar.implItem
  infer_instance

instance functionItem {start : Nat} {attributes : List Node} :
    RuleAlike source depth reserve one other (Grammar.functionItem start attributes) := by
  unfold Grammar.functionItem
  infer_instance

instance externForm : Keeps source depth reserve Grammar.externForm := by
  unfold Grammar.externForm
  infer_instance

instance unsafeForm : Keeps source depth reserve Grammar.unsafeForm := by
  unfold Grammar.unsafeForm
  infer_instance

instance itemForm : Keeps source depth reserve Grammar.itemForm := by
  unfold Grammar.itemForm
  infer_instance

instance itemBehind {start : Nat} {attributes : List Node} :
    RuleAlike source depth reserve one other (Grammar.itemBehind start attributes) := by
  unfold Grammar.itemBehind
  refine andThen fun form => ?_
  cases form <;> infer_instance

instance file : RuleAlike source depth (reserve + 1) one other Grammar.file := by
  unfold Grammar.file
  infer_instance

/-! ## Names -/

/-- The rule of a name needs no more reserve than names are passed in it. -/
theorem rule {symbol : Symbol} (enough : symbol.height ≤ reserve) :
    RuleAlike source depth reserve one other (Grammar.rule symbol) := by
  rcases Nat.exists_eq_add_of_le' enough with ⟨more, rfl⟩
  cases symbol with
  | expression allowStruct => exact expression
  | leadingExpression => exact leadingExpression
  | operand allowStruct => exact operand
  | operators left allowStruct weakest => exact operators
  | blockExpression => exact blockExpression
  | statements => exact statements
  | type allowPlus => exact type
  | bound allowCapture allowConst => exact bound
  | pattern => exact pattern
  | itemBehind start attributes => exact itemBehind
  | useTree allowRoot => exact useTree

end GoAlike

namespace Grammar

variable {source : Source} [source.IsNested]

/-- Names are read alike to all depths that suffice. -/
theorem depthsAgree {depth one other : Nat} (below : depth ≤ one) (below' : depth ≤ other) :
    DepthsAgree source depth one other := by
  induction depth generalizing one other with
  | zero =>
      refine ⟨fun symbol reserve lower => ⟨fun cursor has => ?_⟩⟩
      have := has.le_depth
      omega
  | succ depth inductionHypothesis =>
      rcases Nat.exists_eq_add_of_le' below with ⟨one, rfl⟩
      rcases Nat.exists_eq_add_of_le' below' with ⟨other, rfl⟩
      have := inductionHypothesis (Nat.le_add_left depth one) (Nat.le_add_left depth other)
      refine ⟨fun symbol reserve lower => ?_⟩
      rcases Nat.exists_eq_add_of_lt lower with ⟨more, rfl⟩
      have alike : RuleAlike source depth (symbol.height + more) (one + depth) (other + depth)
          (rule symbol) := .rule (Nat.le_add_right _ _)
      exact alike.deeper

/-! ## Whole texts -/

/-- What is read as a whole. -/
class IsWhole (start : [Rules] → Parser Node) : Prop where
  goAlike : ∀ (source : Source) [source.IsNested] (depth reserve one other : Nat)
    [DepthsAgree source depth one other], RuleAlike source depth (reserve + 16) one other start

instance : IsWhole file :=
  ⟨fun _ _ _ _ _ _ _ => .file⟩

instance : IsWhole function :=
  ⟨fun _ _ _ _ _ _ _ => .function⟩

instance : IsWhole traitFunction :=
  ⟨fun _ _ _ _ _ _ _ => .traitFunction⟩

instance : IsWhole foreignFunction :=
  ⟨fun _ _ _ _ _ _ _ => .foreignFunction⟩

variable {start : [Rules] → Parser Node} [whole : IsWhole start]

theorem agreeAt_of_le {depth : Nat} (enough : 16 * (source.tokens.size + 4) ≤ depth) :
    AgreeAt source (16 * (source.tokens.size + 4)) 16 ⟨0, source.tokens.size, none⟩
      (@start (rulesFor source.tokens.size)) (@start (rulesAt depth)) := by
  have : DepthsAgree source _ _ depth := depthsAgree (Nat.le_refl _) enough
  refine (whole.goAlike source _ 0 _ depth).agreeAt _ ⟨?_⟩
  dsimp only
  omega

/-- A greater depth makes no difference. -/
theorem reading_of_le {depth : Nat} (enough : 16 * (source.tokens.size + 4) ≤ depth) :
    reading source ⟨0, source.tokens.size, none⟩ (@start (rulesAt depth)) =
      reading source ⟨0, source.tokens.size, none⟩ (@start (rulesFor source.tokens.size)) :=
  (agreeAt_of_le enough).same.symm

theorem ne_exhausted_of_cite {failure : Failure} (rejected : cite start source = .error failure) :
    failure.cause ≠ .exhausted := by
  have agree : AgreeAt source _ 16 ⟨0, source.tokens.size, none⟩
      (@start (rulesFor source.tokens.size)) (@start (rulesAt _)) := agreeAt_of_le (Nat.le_refl _)
  unfold cite at rejected
  dsimp only at rejected
  split at rejected
  next read =>
      cases rejected
      exact (agree.fails failure read).ne_exhausted
  next =>
      split at rejected
      next =>
          cases rejected
          simp
      next =>
          split at rejected
          all_goals cases rejected
          simp

/-- No text is rejected because the depth is used up. -/
theorem ne_exhausted_of_parseTokens {tokens : List Token} {failure : Failure}
    (rejected : parseTokens start tokens = .error failure) : failure.cause ≠ .exhausted := by
  unfold parseTokens at rejected
  dsimp only at rejected
  split at rejected
  next => cases rejected
  next fails =>
      cases rejected
      exact ne_exhausted_of_cite fails

theorem ne_exhausted_of_parseText {text : String} {failure : Failure}
    (rejected : parseText start text = .error failure) : failure.cause ≠ .exhausted := by
  unfold parseText at rejected
  split at rejected
  next => exact ne_exhausted_of_parseTokens rejected
  next =>
      cases rejected
      simp

end Grammar
end Instrument
