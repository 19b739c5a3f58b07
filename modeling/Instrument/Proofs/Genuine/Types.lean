import Instrument.Proofs.Genuine.Attributes

/-!
# Genuine paths, types and patterns

Most rules are proved by going through their steps.  The others look into a tree that they have read
and put its parts together anew.
-/

namespace Instrument

open Instrument.Parser

set_option synthInstance.maxSize 1000000

namespace Genuine

variable {source : Source}

theorem soleSegment {type name arguments : Node} (genuine : Genuine source type)
    (sole : Grammar.soleSegment? type = Option.some (name, arguments)) :
    Genuine source name ∧ Genuine source arguments := by
  unfold Grammar.soleSegment? at sole
  split at sole
  next =>
      split at sole
      next =>
          cases sole
          have segments := (Genuine.cons_iff.mp (Genuine.cons_iff.mp genuine.parts).1.parts).2
          have segment := (Genuine.cons_iff.mp (Genuine.cons_iff.mp segments).1.parts).1
          have := Genuine.cons_iff.mp segment.parts
          exact ⟨this.1, (Genuine.cons_iff.mp this.2).1⟩
      next => cases sole
  next => cases sole

theorem pairs : ∀ elements : List Node, Genuine source elements →
    Genuine source (Grammar.lifetimesFirst.pairs elements)
  | [], _ => Genuine.nil
  | [element], genuine => by
      have := (Genuine.cons_iff.mp genuine).1
      unfold Grammar.lifetimesFirst.pairs
      infer_instance
  | element :: separator :: rest, genuine => by
      have others := Genuine.cons_iff.mp (Genuine.cons_iff.mp genuine).2
      have := (Genuine.cons_iff.mp genuine).1
      have := others.1
      have := pairs rest others.2
      unfold Grammar.lifetimesFirst.pairs
      infer_instance

instance lifetimesFirst {isLifetime : Node → Bool} {position : Nat} {elements : List Node}
    [genuine : Genuine source elements] :
    Genuine source (Grammar.lifetimesFirst isLifetime position elements) := by
  have := pairs elements genuine
  unfold Grammar.lifetimesFirst
  extract_lets all first others written
  have (group : List (Node × Option Node)) [Genuine source group] :
      Genuine source (written group) := by
    dsimp only [written]
    infer_instance
  split <;> infer_instance

theorem setLastArguments {arguments : Node} (genuine : Genuine source arguments) :
    ∀ segments : List Node, Genuine source segments →
      Genuine source (Grammar.setLastArguments arguments segments)
  | [], _ => Genuine.nil
  | part :: rest, genuine' => by
      have others := Genuine.cons_iff.mp genuine'
      have := others.1
      have := setLastArguments genuine rest others.2
      unfold Grammar.setLastArguments
      split
      next => infer_instance
      next same =>
          cases same
          have := (Genuine.cons_iff.mp others.1.parts).1
          infer_instance
      next same =>
          cases same
          infer_instance

instance : HasNodes Grammar.TraitBoundParts :=
  ⟨fun parts => [parts.modifier, parts.binder, parts.path]⟩

namespace TraitBoundParts

variable {parts : Grammar.TraitBoundParts} [genuine : Genuine source parts]

instance modifier : Genuine source parts.modifier :=
  genuine.ofMember (by simp [HasNodes.nodes])

instance binder : Genuine source parts.binder :=
  genuine.ofMember (by simp [HasNodes.nodes])

instance path : Genuine source parts.path :=
  genuine.ofMember (by simp [HasNodes.nodes])

end TraitBoundParts

instance traitBoundParts {modifier binder path : Node} {isConstant : Bool}
    [Genuine source modifier] [Genuine source binder] [Genuine source path] :
    Genuine source (Grammar.TraitBoundParts.mk modifier binder path isConstant) :=
  ⟨(inferInstance : Genuine source [modifier, binder, path]).ofNodes⟩

instance : HasNodes Grammar.ParenthesizedContent where
  nodes
    | .empty => []
    | .object type => [type]
    | .relaxed parts => HasNodes.nodes parts
    | .single type => [type]
    | .several elements => HasNodes.nodes elements

instance emptyContent : Genuine source Grammar.ParenthesizedContent.empty :=
  ⟨fun tree inside => by cases inside⟩

instance objectContent {type : Node} [genuine : Genuine source type] :
    Genuine source (Grammar.ParenthesizedContent.object type) :=
  ⟨genuine.ofNodes⟩

instance relaxedContent {parts : Grammar.TraitBoundParts} [genuine : Genuine source parts] :
    Genuine source (Grammar.ParenthesizedContent.relaxed parts) :=
  ⟨genuine.ofNodes⟩

instance singleContent {type : Node} [genuine : Genuine source type] :
    Genuine source (Grammar.ParenthesizedContent.single type) :=
  ⟨genuine.ofNodes⟩

instance severalContent {elements : List Node} [genuine : Genuine source elements] :
    Genuine source (Grammar.ParenthesizedContent.several elements) :=
  ⟨genuine.ofNodes⟩

theorem boundInParentheses {opening closing type first : Node} (genuine : Genuine source opening)
    (genuine' : Genuine source closing) (inside : Genuine source type)
    (found : Grammar.boundInParentheses? opening closing type = Option.some first) :
    Genuine source first := by
  unfold Grammar.boundInParentheses? at found
  split at found
  next parts =>
      cases found
      have := (cons_iff.mp inside.parts).1
      infer_instance
  next dyn only =>
      have bounds := (cons_iff.mp (cons_iff.mp inside.parts).2).1.parts
      have only := (cons_iff.mp bounds).1
      split at found
      next => cases found
      next =>
          split at found
          next head modifier binding path last =>
              cases found
              have parts := (cons_iff.mp only.parts).2
              have := (cons_iff.mp parts).1
              have := (cons_iff.mp (cons_iff.mp parts).2).1
              have := (cons_iff.mp (cons_iff.mp (cons_iff.mp parts).2).2).1
              infer_instance
          next =>
              cases found
              exact only
  next => cases found

end Genuine

/-! ## Names of paths -/

/-- What has been read of a path ends in a segment, but for separators. -/
def EndsInSegment (found : List Node) : Prop :=
  ∃ last, (found.filter fun part => !part.isLeaf).head? = some last ∧ last.IsSegment

theorem EndsInSegment.of_isSegment {last : Node} (isSegment : last.IsSegment) (before : List Node) :
    EndsInSegment (last :: before) := by
  refine ⟨last, ?_, isSegment⟩
  rcases isSegment with ⟨name, rest, rfl⟩
  rfl

theorem EndsInSegment.of_isLeaf {separator : Node} (isLeaf : separator.isLeaf = true)
    {before : List Node} (ends : EndsInSegment before) : EndsInSegment (separator :: before) := by
  rw [EndsInSegment, List.filter_cons_of_neg (by simp [isLeaf])]
  exact ends

theorem EndsInSegment.getLast?_elements {found : List Node} (ends : EndsInSegment found) :
    ∃ last, (Tree.sequence found.reverse).elements.getLast? = some last ∧ last.IsSegment := by
  rcases ends with ⟨last, first, isSegment⟩
  refine ⟨last, ?_, isSegment⟩
  have reversed : (Tree.sequence found.reverse).elements =
      (found.filter fun part => !part.isLeaf).reverse := List.filter_reverse
  rw [reversed, List.getLast?_reverse, first]

theorem yields_mark {text : String} : Yields (mark text) fun tree => tree.isLeaf = true := by
  refine .after fun present => .ite (.ite ?_ ?_) (.throw _)
  · exact .after fun position => .pure rfl
  · exact .after fun position => .pure rfl

section Names

variable [Rules] {inExpression : Bool}

theorem yields_segment : Yields (Grammar.segment inExpression) Tree.IsSegment := by
  refine .after fun isKeyword => .ite (.after fun name => .pure ⟨name, _, rfl⟩) ?_
  refine .after fun isSelf => ?_
  extract_lets behindName
  have named (name : Node) : Yields (behindName name) Tree.IsSegment := by
    refine .after fun isOpen => ?_
    extract_lets behindOpening
    have withArguments (has : Bool) : Yields (behindOpening has) Tree.IsSegment :=
      .ite (.after fun arguments => .pure ⟨name, _, rfl⟩) (.pure ⟨name, _, rfl⟩)
    refine .after fun isLessEqual => .after fun isShift => .ite (.after withArguments) ?_
    exact .after fun isSeparated => .after fun isBehind => .after withArguments
  exact .ite (.after named) (.after named)

theorem yields_simplePath : Yields (Grammar.simplePath inExpression) Tree.IsNamedPath := by
  refine .after fun leading => .bind yields_segment fun first isSegment => ?_
  refine .bind (?_ : Yields (Grammar.segmentsBehind first inExpression) fun segments =>
    ∃ last, segments.elements.getLast? = some last ∧ last.IsSegment) ?_
  · refine .bind (?_ : Yields _ EndsInSegment) fun found ends => .pure ends.getLast?_elements
    refine .repeating (fun found ends => .after fun present => .after fun opens => .ite ?_ ?_)
      (.of_isSegment isSegment [])
    · refine .after fun separator => .bind yields_segment fun next isSegment => .pure ?_
      rintro _ ⟨⟩
      exact .of_isSegment isSegment _
    · exact .pure nofun
  · rintro segments ⟨last, found, isSegment⟩
    exact .pure (.path found isSegment)

theorem yields_path : Yields (Grammar.path inExpression) Tree.IsNamedPath := by
  refine .after fun isQualified => .ite ?_ yields_simplePath
  refine .after fun opening => .after fun type => ?_
  extract_lets behindTrait
  have named (trait : Node × Node) : Yields (behindTrait trait) Tree.IsNamedPath := by
    refine .after fun closing => .after fun separator => ?_
    refine .bind (?_ : Yields _ fun state => EndsInSegment state.1) fun state ends => ?_
    · refine .repeating_of_first (.bind yields_segment fun first isSegment => .pure ?_) ?_
      · exact ⟨_, rfl, .of_isSegment isSegment []⟩
      · rintro ⟨found, segmentNext⟩ ends
        refine .ite (.bind yields_segment fun next isSegment => .pure ?_) ?_
        · rintro _ ⟨⟩
          exact .of_isSegment isSegment _
        · refine .after fun present => .ite (.bind yields_mark fun mark isLeaf => .pure ?_) ?_
          · rintro _ ⟨⟩
            exact .of_isLeaf isLeaf ends
          · exact .pure nofun
    · rcases ends.getLast?_elements with ⟨last, found, isSegment⟩
      exact .pure (.qualified found isSegment)
  exact .after fun present => .ite (.after fun as => .after fun trait => .after named) (.after named)

end Names

namespace ReadsGenuine

variable {source : Source} [source.IsGrouped] [Rules] [Rules.AreGenuine source]

instance constArgument : ReadsGenuine source Grammar.constArgument := by
  unfold Grammar.constArgument
  infer_instance

instance constraintBounds : ReadsGenuine source Grammar.constraintBounds := by
  unfold Grammar.constraintBounds
  infer_instance

instance genericArgument : ReadsGenuine source Grammar.genericArgument := by
  unfold Grammar.genericArgument
  refine andThen inferInstance fun _ _ => andThen inferInstance fun _ _ => ?_
  split
  · infer_instance
  refine andThen inferInstance fun _ _ => ?_
  split
  · infer_instance
  refine andThen inferInstance fun type _ => ?_
  split
  next => infer_instance
  next name arguments sole =>
      have := (Genuine.soleSegment ‹_› sole).1
      have := (Genuine.soleSegment ‹_› sole).2
      infer_instance

instance angleArgumentsBehind {turbofish : Node} [Genuine source turbofish] :
    ReadsGenuine source (Grammar.angleArgumentsBehind turbofish) := by
  unfold Grammar.angleArgumentsBehind
  infer_instance

instance angleArguments : ReadsGenuine source Grammar.angleArguments := by
  unfold Grammar.angleArguments
  infer_instance

instance segment {inExpression : Bool} : ReadsGenuine source (Grammar.segment inExpression) := by
  unfold Grammar.segment
  infer_instance

instance segmentsBehind {first : Node} {inExpression : Bool} [Genuine source first] :
    ReadsGenuine source (Grammar.segmentsBehind first inExpression) := by
  unfold Grammar.segmentsBehind
  infer_instance

instance simplePath {inExpression : Bool} :
    ReadsGenuine source (Grammar.simplePath inExpression) := by
  unfold Grammar.simplePath
  infer_instance

instance path {inExpression : Bool} : ReadsGenuine source (Grammar.path inExpression) := by
  unfold Grammar.path
  infer_instance

instance returnType {allowPlus : Bool} : ReadsGenuine source (Grammar.returnType allowPlus) := by
  unfold Grammar.returnType
  infer_instance

instance parenthesizedArguments : ReadsGenuine source Grammar.parenthesizedArguments := by
  unfold Grammar.parenthesizedArguments
  infer_instance

instance pathOfBound : ReadsGenuine source Grammar.pathOfBound := by
  unfold Grammar.pathOfBound
  refine andThen inferInstance fun path _ => ?_
  split
  next leading segments genuine =>
      have parts := Genuine.cons_iff.mp genuine.parts
      have := parts.1
      have : Genuine source segments := (Genuine.cons_iff.mp parts.2).1.parts
      have (arguments : {arguments // Genuine source arguments}) :=
        Genuine.setLastArguments arguments.2 segments this
      infer_instance
  next => infer_instance


/-! ## Bounds and parameters -/

instance lifetimeNode : ReadsGenuine source Grammar.lifetimeNode := by
  unfold Grammar.lifetimeNode
  infer_instance

instance binder : ReadsGenuine source Grammar.binder := by
  unfold Grammar.binder
  infer_instance

instance captureBound : ReadsGenuine source Grammar.captureBound := by
  unfold Grammar.captureBound
  infer_instance

instance traitBoundParts {allowConst : Bool} :
    ReadsGenuine source (Grammar.traitBoundParts allowConst) := by
  unfold Grammar.traitBoundParts
  infer_instance

instance bound {allowCapture allowConst : Bool} :
    ReadsGenuine source (Grammar.bound allowCapture allowConst) := by
  unfold Grammar.bound
  infer_instance

instance bounds {allowPlus allowCapture allowConst : Bool} :
    ReadsGenuine source (Grammar.bounds allowPlus allowCapture allowConst) := by
  unfold Grammar.bounds
  infer_instance

instance predicateBounds : ReadsGenuine source Grammar.predicateBounds := by
  unfold Grammar.predicateBounds
  infer_instance

instance lifetimeBounds {ending : Parser Bool} :
    ReadsGenuine source (Grammar.lifetimeBounds ending) := by
  unfold Grammar.lifetimeBounds
  infer_instance

instance colonBounds {readBounds : Parser Node} [ReadsGenuine source readBounds] :
    ReadsGenuine source (Grammar.colonBounds readBounds) := by
  unfold Grammar.colonBounds
  infer_instance

instance lifetimeParameter {attributes : Node} [Genuine source attributes] :
    ReadsGenuine source (Grammar.lifetimeParameter attributes) := by
  unfold Grammar.lifetimeParameter
  infer_instance

instance typeParameter {attributes : Node} [Genuine source attributes] :
    ReadsGenuine source (Grammar.typeParameter attributes) := by
  unfold Grammar.typeParameter
  infer_instance

instance constParameter {attributes : Node} [Genuine source attributes] :
    ReadsGenuine source (Grammar.constParameter attributes) := by
  unfold Grammar.constParameter
  infer_instance

instance genericParameter : ReadsGenuine source Grammar.genericParameter := by
  unfold Grammar.genericParameter
  infer_instance

instance generics : ReadsGenuine source Grammar.generics := by
  unfold Grammar.generics
  infer_instance

instance predicate : ReadsGenuine source Grammar.predicate := by
  unfold Grammar.predicate
  infer_instance

instance whereClause : ReadsGenuine source Grammar.whereClause := by
  unfold Grammar.whereClause
  infer_instance

/-! ## Types -/

instance objectBounds {allowPlus : Bool} :
    ReadsGenuine source (Grammar.objectBounds allowPlus) := by
  unfold Grammar.objectBounds
  infer_instance

instance bareObject : ReadsGenuine source Grammar.bareObject := by
  unfold Grammar.bareObject
  infer_instance

instance furtherBounds {first : Node} [Genuine source first] :
    ReadsGenuine source (Grammar.furtherBounds first) := by
  unfold Grammar.furtherBounds
  infer_instance

instance parenthesizedContent : ReadsGenuine source Grammar.parenthesizedContent := by
  unfold Grammar.parenthesizedContent
  infer_instance

instance parenthesizedType {allowPlus : Bool} :
    ReadsGenuine source (Grammar.parenthesizedType allowPlus) := by
  unfold Grammar.parenthesizedType
  refine andThen inferInstance fun inside _ => ?_
  have content : Genuine source inside.content := inferInstance
  split
  next => infer_instance
  next elements same =>
      have : Genuine source elements := ⟨(same ▸ content).ofNodes⟩
      infer_instance
  next type same =>
      have : Genuine source type := ⟨(same ▸ content).ofNodes⟩
      infer_instance
  next parts same =>
      have : Genuine source parts := ⟨(same ▸ content).ofNodes⟩
      infer_instance
  next type same =>
      have single : Genuine source type := ⟨(same ▸ content).ofNodes⟩
      refine andThen inferInstance fun _ _ => ?_
      extract_lets first
      cases found : first with
      | none => infer_instance
      | some bound =>
          have : Genuine source bound := by
            dsimp only [first] at found
            split at found
            next => exact Genuine.boundInParentheses inferInstance inferInstance single found
            next => cases found
          infer_instance

instance abi : ReadsGenuine source Grammar.abi := by
  unfold Grammar.abi
  infer_instance

instance functionTypeVariadic {attributes : Node} [Genuine source attributes] :
    ReadsGenuine source (Grammar.functionTypeVariadic attributes) := by
  unfold Grammar.functionTypeVariadic
  infer_instance

instance functionTypeParameter {attributes : Node} {allowSelf : Bool}
    [Genuine source attributes.parts] :
    ReadsGenuine source (Grammar.functionTypeParameter attributes allowSelf) := by
  unfold Grammar.functionTypeParameter
  infer_instance

instance functionTypeParameters : ReadsGenuine source Grammar.functionTypeParameters := by
  unfold Grammar.functionTypeParameters
  infer_instance

instance functionType {binding : Node} [Genuine source binding] :
    ReadsGenuine source (Grammar.functionType binding) := by
  unfold Grammar.functionType
  infer_instance

instance boundsBehindPath {first : Node} [Genuine source first] :
    ReadsGenuine source (Grammar.boundsBehindPath first) := by
  unfold Grammar.boundsBehindPath
  infer_instance

/-- The rule for types that are paths, the only one that makes nodes of their kind. -/
instance pathType {binding : Node} {allowPlus : Bool} [Genuine source binding] :
    ReadsGenuine source (Grammar.pathType binding allowPlus) := by
  unfold Grammar.pathType
  refine andThenYields inferInstance yields_path fun found genuine isNamed => ?_
  have : Genuine source (Tree.node .pathType [found]) :=
    Genuine.node rfl inferInstance
      ⟨nofun, fitsInside_of_not_holdsOccupants rfl, fun _ => ⟨found, rfl, isNamed⟩⟩
  infer_instance

instance bracketType : ReadsGenuine source Grammar.bracketType := by
  unfold Grammar.bracketType
  infer_instance

instance pointerType : ReadsGenuine source Grammar.pointerType := by
  unfold Grammar.pointerType
  infer_instance

instance referenceType : ReadsGenuine source Grammar.referenceType := by
  unfold Grammar.referenceType
  infer_instance

instance implType {allowPlus : Bool} : ReadsGenuine source (Grammar.implType allowPlus) := by
  unfold Grammar.implType
  infer_instance

instance dynType {allowPlus : Bool} : ReadsGenuine source (Grammar.dynType allowPlus) := by
  unfold Grammar.dynType
  infer_instance

instance type {allowPlus : Bool} : ReadsGenuine source (Grammar.type allowPlus) := by
  unfold Grammar.type
  infer_instance

/-! ## Patterns -/

instance alternatives : ReadsGenuine source Grammar.alternatives := by
  unfold Grammar.alternatives
  infer_instance

instance rangeLimits : ReadsGenuine source Grammar.rangeLimits := by
  unfold Grammar.rangeLimits
  infer_instance

instance patternLimits : ReadsGenuine source Grammar.patternLimits := by
  unfold Grammar.patternLimits
  infer_instance

instance pathExpression : ReadsGenuine source Grammar.pathExpression := by
  unfold Grammar.pathExpression
  infer_instance

instance constBlock : ReadsGenuine source Grammar.constBlock := by
  unfold Grammar.constBlock
  refine andThen inferInstance fun keyword _ => ?_
  refine andThenYields inferInstance (.group (.pair Rules.AreFitting.statements)) ?_
  intro found genuine fits
  have : Genuine source (Tree.node .block [found.opening, found.content.2, found.closing]) :=
    Genuine.ofOccupants rfl fits
  infer_instance

instance rangeBound : ReadsGenuine source Grammar.rangeBound := by
  unfold Grammar.rangeBound
  infer_instance

instance rangeBehind {lower : Node} [Genuine source lower] :
    ReadsGenuine source (Grammar.rangeBehind lower) := by
  unfold Grammar.rangeBehind
  infer_instance

instance literalPattern : ReadsGenuine source Grammar.literalPattern := by
  unfold Grammar.literalPattern
  infer_instance

instance dotsPattern : ReadsGenuine source Grammar.dotsPattern := by
  unfold Grammar.dotsPattern
  infer_instance

instance namePattern : ReadsGenuine source Grammar.namePattern := by
  unfold Grammar.namePattern
  infer_instance

instance member : ReadsGenuine source Grammar.member := by
  unfold Grammar.member
  refine andThen inferInstance fun _ _ => ?_
  split
  · infer_instance
  refine andThen inferInstance fun _ _ => ?_
  split
  next =>
      refine andThen inferInstance fun cursor _ => andThen inferInstance fun tokens _ => ?_
      repeat' split
      all_goals infer_instance
  next => infer_instance

instance fieldPattern {attributes : Node} [Genuine source attributes] :
    ReadsGenuine source (Grammar.fieldPattern attributes) := by
  unfold Grammar.fieldPattern
  infer_instance

instance structPatternFields : ReadsGenuine source Grammar.structPatternFields := by
  unfold Grammar.structPatternFields
  infer_instance

instance pathPattern : ReadsGenuine source Grammar.pathPattern := by
  unfold Grammar.pathPattern
  infer_instance

instance tuplePattern : ReadsGenuine source Grammar.tuplePattern := by
  unfold Grammar.tuplePattern
  refine andThen inferInstance fun body genuine => ?_
  have content : Genuine source body.content := inferInstance
  split
  next only same =>
      have : Genuine source only := (Genuine.cons_iff.mp (same ▸ content).parts).1
      infer_instance
  next elements _ => infer_instance

instance slicePattern : ReadsGenuine source Grammar.slicePattern := by
  unfold Grammar.slicePattern
  infer_instance

instance referencePattern : ReadsGenuine source Grammar.referencePattern := by
  unfold Grammar.referencePattern
  infer_instance

instance pattern : ReadsGenuine source Grammar.pattern := by
  unfold Grammar.pattern
  infer_instance

end ReadsGenuine
end Instrument
