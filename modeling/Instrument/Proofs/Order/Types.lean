import Instrument.Proofs.Order.Attributes
import Mathlib.Data.List.Flatten

/-!
# The order of paths, types and patterns

Most rules put what they have read together in the order in which they read it.  The exceptions are
lifetimes, which are moved in front of what else stands between angle brackets, and the arguments of
a path, which are put into its last segment.
-/

namespace Instrument

open Instrument.Parser

set_option synthInstance.maxSize 1000000000

/-! ## Lifetimes in front -/

/-- The separators in a list of elements are leaves. -/
def AreSeparated (elements : List Node) : Prop :=
  ∀ index separator, index % 2 = 1 → elements[index]? = some separator → separator.isLeaf = true

/-- What a loop has read of elements and separators, backwards, and whether an element is next. -/
structure AreSeparatedSoFar (found : List Node) (elementNext : Bool) : Prop where
  separated : AreSeparated found.reverse
  parity : elementNext = decide (found.length % 2 = 0)

theorem AreSeparatedSoFar.cons {found : List Node} {elementNext : Bool} {next : Node}
    (soFar : AreSeparatedSoFar found elementNext)
    (fits : elementNext = false → next.isLeaf = true) :
    AreSeparatedSoFar (next :: found) (!elementNext) where
  separated index separator odd there := by
    rw [List.reverse_cons] at there
    rcases Nat.lt_trichotomy index found.reverse.length with before | same | beyond
    · rw [List.getElem?_append_left before] at there
      exact soFar.separated index separator odd there
    · subst same
      rw [List.getElem?_concat_length] at there
      cases there
      rw [List.length_reverse] at odd
      refine fits ?_
      rw [soFar.parity, decide_eq_false_iff_not]
      omega
    · rw [List.getElem?_eq_none (by rw [List.length_append]; exact beyond)] at there
      cases there
  parity := by
    rw [soFar.parity, ← decide_not, decide_eq_decide, List.length_cons]
    omega

theorem yields_separatedUntil {ending : Parser Bool} {element separator : Parser Node}
    (leaves : Yields separator fun tree => tree.isLeaf = true) :
    Yields (separatedUntil ending element separator) AreSeparated := by
  unfold separatedUntil
  refine Yields.bind (?_ : Yields _ fun found => AreSeparatedSoFar found.1 found.2) ?_
  · refine Yields.repeating ?_ ⟨nofun, rfl⟩
    rintro ⟨found, elementNext⟩ soFar
    refine Yields.after fun ends => Yields.ite (Yields.pure nofun) ?_
    cases elementNext with
    | true =>
        refine Yields.after fun next => Yields.pure ?_
        rintro _ ⟨⟩
        exact soFar.cons nofun
    | false =>
        refine Yields.bind leaves fun next isLeaf => Yields.pure ?_
        rintro _ ⟨⟩
        exact soFar.cons fun _ => isLeaf
  · exact fun found soFar => Yields.pure soFar.separated

theorem yields_isLeaf_mark {text : String} :
    Yields (mark text) fun tree => tree.isLeaf = true := by
  refine Yields.after fun present => Yields.ite ?_ (Yields.throw _)
  split
  all_goals exact Yields.after fun position => Yields.pure rfl

theorem yields_isBare_optionalMark {text : String} : Yields (optionalMark text) IsBare := by
  refine Yields.after fun present => Yields.ite ?_ (Yields.pure inferInstance)
  intro source cursor tree behind read
  exact .of_isLeaf (yields_isLeaf_mark source cursor tree behind read)

/-- The separators are leaves when elements are paired with them. -/
theorem AreSeparated.isLeaf_of_mem_pairs : ∀ {elements : List Node}, AreSeparated elements →
    ∀ pair ∈ Grammar.lifetimesFirst.pairs elements, ∀ separator ∈ pair.2, separator.isLeaf = true
  | [], _ => nofun
  | [element], _ => by
      intro pair member separator inside
      rw [List.mem_singleton.mp member] at inside
      cases inside
  | element :: separator :: rest, separated => by
      have others : AreSeparated rest := fun index separator odd there =>
        separated (index + 2) separator (by omega) there
      intro pair member separator inside
      rcases List.mem_cons.mp member with rfl | member
      · cases inside
        exact separated 1 separator rfl rfl
      · exact others.isLeaf_of_mem_pairs pair member separator inside

section LifetimesFirst

variable {source : Source} {elements : List Node}

/-- Elements with the separators behind them, as a list. -/
def flattenPairs (pairs : List (Node × Option Node)) : List Node :=
  (pairs.map fun (element, separator) => element :: separator.toList).flatten

theorem flattenPairs_pairs : ∀ elements : List Node,
    flattenPairs (Grammar.lifetimesFirst.pairs elements) = elements
  | [] => rfl
  | [_] => rfl
  | element :: separator :: rest =>
    congrArg (fun rest => element :: separator :: rest) (flattenPairs_pairs rest)

theorem Source.placesIn_sublist {first second : List Node} (within : first.Sublist second) :
    (source.placesIn first).Sublist (source.placesIn second) :=
  within.flatMap _

theorem Source.placesIn_of_isLeaf (source : Source) {tree : Node} (isLeaf : tree.isLeaf = true) :
    source.placesIn tree = [] := by
  cases tree with
  | leaf citation => rfl
  | node kind parts => cases isLeaf

/-- Among the places are only those of the elements that are no lifetimes. -/
theorem Source.placesIn_lifetimesFirst (source : Source) (isLifetime : Node → Bool) (position : Nat)
    (separated : AreSeparated elements)
    (nothing : ∀ tree, isLifetime tree = true → source.placesIn tree = []) :
    (source.placesIn (Grammar.lifetimesFirst isLifetime position elements)).Sublist
      (source.placesIn elements) := by
  let all := Grammar.lifetimesFirst.pairs elements
  let first := all.filter fun pair => isLifetime pair.1
  let others := all.filter fun pair => !isLifetime pair.1
  have noPlaces : source.placesIn (flattenPairs first) = [] := by
    refine List.flatMap_eq_nil_iff.mpr fun tree member => ?_
    rcases List.mem_flatten.mp member with ⟨written, inside, member⟩
    rcases List.mem_map.mp inside with ⟨pair, chosen, rfl⟩
    have chosen := List.mem_filter.mp chosen
    rcases List.mem_cons.mp member with rfl | member
    · exact nothing _ chosen.2
    · exact source.placesIn_of_isLeaf
        (separated.isLeaf_of_mem_pairs pair chosen.1 tree (Option.mem_toList.mp member))
  have within : (source.placesIn (flattenPairs others)).Sublist (source.placesIn elements) := by
    refine Source.placesIn_sublist ?_
    have fewer : (flattenPairs others).Sublist (flattenPairs all) :=
      (List.filter_sublist.map _).flatten
    rwa [flattenPairs_pairs] at fewer
  have moved (comma : List Node) (leaves : source.placesIn comma = []) :
      (source.placesIn (flattenPairs first ++ comma ++ flattenPairs others)).Sublist
        (source.placesIn elements) := by
    rw [source.placesIn_append, source.placesIn_append, noPlaces, leaves]
    exact within
  rw [Grammar.lifetimesFirst]
  dsimp only
  split
  next => exact moved [_] rfl
  next =>
      have := moved [] rfl
      rwa [List.append_nil] at this

end LifetimesFirst
/-! ## Trees that are looked into -/

section Parts

variable {source : Source}

/-- The name and the arguments of the only segment of a type have places of the type. -/
theorem Source.placesIn_soleSegment {type name arguments : Node}
    (sole : Grammar.soleSegment? type = some (name, arguments)) :
    (source.placesIn name ++ source.placesIn arguments).Sublist (source.placesIn type) := by
  unfold Grammar.soleSegment? at sole
  split at sole
  next leading _ _ =>
      split at sole
      next =>
          cases sole
          rw [source.placesIn_node_single rfl fun _ => rfl,
            source.placesIn_node_pair rfl fun _ => rfl, source.placesIn_sequence,
            source.placesIn_single, source.placesIn_node_pair rfl fun _ => rfl]
          exact List.sublist_append_right _ _
      next => cases sole
  next => cases sole

/-- Arguments that are put into the last segment stand behind everything else in a path. -/
theorem Source.placesIn_setLastArguments (arguments : Node) : ∀ segments : List Node,
    (source.placesIn (Grammar.setLastArguments arguments segments)).Sublist
      (source.placesIn segments ++ source.placesIn arguments)
  | [] => List.nil_sublist _
  | part :: rest => by
      have behind := placesIn_setLastArguments arguments rest
      unfold Grammar.setLastArguments
      split
      next => exact List.nil_sublist _
      next name others same =>
          cases same
          rw [source.placesIn_single, source.placesIn_single,
            source.placesIn_node_pair rfl fun _ => rfl, source.placesIn_of_isTransparent rfl
              fun _ => rfl, source.placesIn_cons]
          exact (List.sublist_append_left _ _).append_right _
      next same =>
          cases same
          rw [source.placesIn_cons, source.placesIn_cons, List.append_assoc]
          exact behind.append_left _

/-- The bound that a type in parentheses stands for has places of the type. -/
theorem Source.placesIn_boundInParentheses {opening closing type first : Node} [IsBare opening]
    [IsBare closing] (found : Grammar.boundInParentheses? opening closing type = some first) :
    (source.placesIn first).Sublist (source.placesIn type) := by
  unfold Grammar.boundInParentheses? at found
  split at found
  next parts =>
      cases found
      rw [source.placesIn_of_isTransparent rfl fun _ => rfl,
        source.placesIn_of_isTransparent (rfl : Kind.isTransparent .pathType = true) fun _ => rfl]
      simp [source.placesIn_nil, source.placesIn_cons, source.placesIn_of_isBare]
  next dyn only =>
      split at found
      next => cases found
      next =>
          have inside : (source.placesIn only).Sublist
              (source.placesIn (Tree.node .objectType [dyn, .node .sequence [only]])) := by
            rw [source.placesIn_node_pair rfl fun _ => rfl, source.placesIn_sequence,
              source.placesIn_single]
            exact List.sublist_append_right _ _
          refine List.Sublist.trans ?_ inside
          split at found
          next =>
              cases found
              rw [source.placesIn_of_isTransparent rfl fun _ => rfl,
                source.placesIn_of_isTransparent rfl fun _ => rfl]
              simp [source.placesIn_nil, source.placesIn_cons, source.placesIn_of_isBare]
          next =>
              cases found
              exact List.Sublist.refl _
  next => cases found

end Parts

instance : HasPlaces Grammar.TraitBoundParts :=
  ⟨fun source found => source.placesIn [found.modifier, found.binder, found.path]⟩

instance {found : Grammar.TraitBoundParts} : IsRecord found
    [found.modifier, found.binder, found.path] :=
  ⟨fun _ => rfl⟩

instance : HasPlaces Grammar.ParenthesizedContent where
  places source
    | .empty => []
    | .object type => source.placesIn type
    | .relaxed parts => source.placesIn parts
    | .single type => source.placesIn type
    | .several elements => source.placesIn elements

namespace Draws

variable {source : Source} {had last middle rest wanted : List Nat}

instance emptyContent : Draws had (source.placesIn Grammar.ParenthesizedContent.empty) had :=
  of_nil rfl

instance objectContent {type : Node} [drawn : Draws had (source.placesIn type) rest] :
    Draws had (source.placesIn (Grammar.ParenthesizedContent.object type)) rest :=
  drawn

instance relaxedContent {parts : Grammar.TraitBoundParts}
    [drawn : Draws had (source.placesIn parts) rest] :
    Draws had (source.placesIn (Grammar.ParenthesizedContent.relaxed parts)) rest :=
  drawn

instance singleContent {type : Node} [drawn : Draws had (source.placesIn type) rest] :
    Draws had (source.placesIn (Grammar.ParenthesizedContent.single type)) rest :=
  drawn

instance severalContent {elements : List Node} [drawn : Draws had (source.placesIn elements) rest] :
    Draws had (source.placesIn (Grammar.ParenthesizedContent.several elements)) rest :=
  drawn

end Draws

/-- Elements that are rearranged have the places they had before. -/
theorem Draws.lifetimesFirst (source : Source) (kind : Kind) (lifetime : kind.isLifetime = true)
    (position : Nat) {elements : List Node} (separated : AreSeparated elements)
    (had rest : List Nat) [drawn : Draws had (source.placesIn elements) rest] :
    Draws had (source.placesIn
      (Grammar.lifetimesFirst (Tree.isKind kind) position elements)) rest := by
  refine .of_sublist (source.placesIn_lifetimesFirst _ position separated ?_) drawn
  intro tree isKind
  cases tree with
  | leaf citation => rfl
  | node other parts =>
      rw [Tree.isKind, beq_iff_eq] at isKind
      cases isKind
      exact source.placesIn_lifetime lifetime parts

/-- The part that ends a list of fields is there, or nothing stands in its place. -/
def HasEnded (found : List Node × Node × Bool) : Prop :=
  found.2.1 = .absent ∨ found.2.1.isPresent = true

namespace Takes

variable {source : Source} [source.IsNested] [Rules] [Rules.AreOrdered source]

instance constArgument : Takes source Grammar.constArgument [] source.placesIn := by
  unfold Grammar.constArgument
  exact ⟨inferInstance⟩

instance constraintBounds : Takes source Grammar.constraintBounds [] source.placesIn := by
  unfold Grammar.constraintBounds
  exact ⟨inferInstance⟩

instance genericArgument : Takes source Grammar.genericArgument [] source.placesIn := by
  unfold Grammar.genericArgument
  refine ⟨Reads.lookThen inferInstance fun isLifetime => ?_⟩
  refine Reads.lookThen inferInstance fun isPlus => ?_
  refine Reads.either inferInstance (Reads.lookThen inferInstance fun isConst => ?_)
  refine Reads.either inferInstance (Reads.andThen inferInstance fun type => ?_)
  split
  next => infer_instance
  next name arguments sole =>
      refine Reads.lookThen inferInstance fun isEquals => ?_
      have drawn : (source.placesIn name ++ source.placesIn arguments).Sublist _ :=
        source.placesIn_soleSegment sole
      refine Reads.either (Reads.forget drawn inferInstance) ?_
      refine Reads.lookThen inferInstance fun isColon => ?_
      exact Reads.either (Reads.forget drawn inferInstance) inferInstance

instance angleArgumentsBehind {turbofish : Node} :
    Takes source (Grammar.angleArgumentsBehind turbofish) (source.placesIn turbofish)
      source.placesIn := by
  unfold Grammar.angleArgumentsBehind
  refine ⟨Reads.andThen inferInstance fun opening => ?_⟩
  refine Reads.lookThen inferInstance fun position => ?_
  refine Reads.andThenKnown inferInstance (yields_separatedUntil yields_isLeaf_mark) ?_
  intro arguments separated
  have := Draws.lifetimesFirst source .lifetime rfl position separated
  infer_instance

instance angleArguments :
    Takes source Grammar.angleArguments [] source.placesIn := by
  unfold Grammar.angleArguments
  exact ⟨inferInstance⟩

instance segment {inExpression : Bool} :
    Takes source (Grammar.segment inExpression) [] source.placesIn := by
  unfold Grammar.segment
  exact ⟨inferInstance⟩

instance segmentsBehind {first : Node} {inExpression : Bool} :
    Takes source (Grammar.segmentsBehind first inExpression) (source.placesIn first)
      source.placesIn := by
  unfold Grammar.segmentsBehind
  exact ⟨inferInstance⟩

instance simplePath {inExpression : Bool} :
    Takes source (Grammar.simplePath inExpression) [] source.placesIn := by
  unfold Grammar.simplePath
  exact ⟨inferInstance⟩

instance path {inExpression : Bool} :
    Takes source (Grammar.path inExpression) [] source.placesIn := by
  unfold Grammar.path
  exact ⟨inferInstance⟩

instance returnType {allowPlus : Bool} :
    Takes source (Grammar.returnType allowPlus) [] source.placesIn := by
  unfold Grammar.returnType
  exact ⟨inferInstance⟩

instance parenthesizedArguments :
    Takes source Grammar.parenthesizedArguments [] source.placesIn := by
  unfold Grammar.parenthesizedArguments
  exact ⟨inferInstance⟩

instance pathOfBound : Takes source Grammar.pathOfBound [] source.placesIn := by
  unfold Grammar.pathOfBound
  refine ⟨Reads.andThen inferInstance fun path => ?_⟩
  split
  next leading segments =>
      have drawn (arguments : Node) : Draws
          ([] ++ source.placesIn leading ++ source.placesIn segments ++ source.placesIn arguments)
          (source.placesIn (Grammar.setLastArguments arguments segments))
          ([] ++ source.placesIn leading) := by
        refine .of_sublist (source.placesIn_setLastArguments arguments segments) ?_
        infer_instance
      have same : source.placesIn (Tree.node .path [leading, .node .sequence segments]) =
          source.placesIn leading ++ source.placesIn segments := by
        rw [source.placesIn_node_pair rfl fun _ => rfl, source.placesIn_sequence]
      rw [same, ← List.append_assoc]
      infer_instance
  next => infer_instance

/-! ## Bounds and parameters -/

instance lifetimeNode :
    Takes source Grammar.lifetimeNode [] source.placesIn := by
  unfold Grammar.lifetimeNode
  exact ⟨inferInstance⟩

instance binder :
    Takes source Grammar.binder [] source.placesIn := by
  unfold Grammar.binder
  exact ⟨inferInstance⟩

instance captureBound :
    Takes source Grammar.captureBound [] source.placesIn := by
  unfold Grammar.captureBound
  exact ⟨inferInstance⟩

instance traitBoundParts {allowConst : Bool} :
    Takes source (Grammar.traitBoundParts allowConst) [] source.placesIn := by
  unfold Grammar.traitBoundParts
  refine ⟨Reads.andThen inferInstance fun binding => ?_⟩
  refine Reads.lookThen inferInstance fun isConditional => Reads.lookThen inferInstance fun _ => ?_
  refine Reads.lookThen inferInstance fun _ => Reads.lookThen inferInstance fun isTilde => ?_
  refine Reads.lookThen inferInstance fun isUnconditional => ?_
  extract_lets behind
  -- A binder stands in front of a question mark or behind it, which has no landmarks.
  have (checked : PUnit) :
      Takes source (behind checked) (source.placesIn binding) source.placesIn :=
    ⟨Reads.bareThen inferInstance yields_isBare_optionalMark fun modifier bare => inferInstance⟩
  clear_value behind
  infer_instance

instance bound {allowCapture allowConst : Bool} :
    Takes source (Grammar.bound allowCapture allowConst) [] source.placesIn := by
  unfold Grammar.bound
  exact ⟨inferInstance⟩

instance peekBound {allowConst : Bool} :
    Takes source (Grammar.peekBound allowConst) [] source.placesIn := by
  unfold Grammar.peekBound
  exact ⟨inferInstance⟩

instance bounds {allowPlus allowCapture allowConst : Bool} :
    Takes source (Grammar.bounds allowPlus allowCapture allowConst) [] source.placesIn := by
  unfold Grammar.bounds
  exact ⟨inferInstance⟩

instance peekColon :
    Takes source Grammar.peekColon [] source.placesIn := by
  unfold Grammar.peekColon
  exact ⟨inferInstance⟩

instance predicateBounds :
    Takes source Grammar.predicateBounds [] source.placesIn := by
  unfold Grammar.predicateBounds
  exact ⟨inferInstance⟩

section Ending

variable {ending : Parser Bool} [Reads source [] ending source.placesIn] {readBounds : Parser Node}
  [Reads source [] readBounds source.placesIn]

instance lifetimeBounds :
    Takes source (Grammar.lifetimeBounds ending) [] source.placesIn := by
  unfold Grammar.lifetimeBounds
  exact ⟨inferInstance⟩

instance colonBounds :
    Takes source (Grammar.colonBounds readBounds) [] source.placesIn := by
  unfold Grammar.colonBounds
  exact ⟨inferInstance⟩

end Ending

instance lifetimeParameter {attributes : Node} :
    Takes source (Grammar.lifetimeParameter attributes) (source.placesIn attributes)
      source.placesIn := by
  unfold Grammar.lifetimeParameter
  exact ⟨inferInstance⟩

instance typeParameter {attributes : Node} :
    Takes source (Grammar.typeParameter attributes) (source.placesIn attributes)
      source.placesIn := by
  unfold Grammar.typeParameter
  exact ⟨inferInstance⟩

instance constParameter {attributes : Node} :
    Takes source (Grammar.constParameter attributes) (source.placesIn attributes)
      source.placesIn := by
  unfold Grammar.constParameter
  exact ⟨inferInstance⟩

instance genericParameter :
    Takes source Grammar.genericParameter [] source.placesIn := by
  unfold Grammar.genericParameter
  exact ⟨inferInstance⟩

instance generics : Takes source Grammar.generics [] source.placesIn := by
  unfold Grammar.generics
  refine ⟨Reads.lookThen inferInstance fun isThere => Reads.either ?_ inferInstance⟩
  refine Reads.andThen inferInstance fun opening => Reads.lookThen inferInstance fun position => ?_
  refine Reads.andThenKnown inferInstance (yields_separatedUntil yields_isLeaf_mark) ?_
  intro parameters separated
  have := Draws.lifetimesFirst source .lifetimeParameter rfl position separated
  infer_instance

instance peekParameters {skipped : Nat} :
    Takes source (Grammar.peekParameters skipped) [] source.placesIn := by
  unfold Grammar.peekParameters
  exact ⟨inferInstance⟩

instance predicate :
    Takes source Grammar.predicate [] source.placesIn := by
  unfold Grammar.predicate
  exact ⟨inferInstance⟩

instance whereClause :
    Takes source Grammar.whereClause [] source.placesIn := by
  unfold Grammar.whereClause
  exact ⟨inferInstance⟩

/-! ## Types -/

instance objectBounds {allowPlus : Bool} :
    Takes source (Grammar.objectBounds allowPlus) [] source.placesIn := by
  unfold Grammar.objectBounds
  exact ⟨inferInstance⟩

instance bareObject : Takes source Grammar.bareObject [] source.placesIn := by
  unfold Grammar.bareObject
  exact ⟨inferInstance⟩

instance furtherBounds {first : Node} :
    Takes source (Grammar.furtherBounds first) (source.placesIn first) source.placesIn := by
  unfold Grammar.furtherBounds
  exact ⟨inferInstance⟩

instance parenthesizedContent : Takes source Grammar.parenthesizedContent [] source.placesIn := by
  unfold Grammar.parenthesizedContent
  exact ⟨inferInstance⟩

instance parenthesizedType {allowPlus : Bool} :
    Takes source (Grammar.parenthesizedType allowPlus) [] source.placesIn := by
  unfold Grammar.parenthesizedType
  refine ⟨Reads.groupThen inferInstance fun content opening closing => ?_⟩
  cases content with
  | empty => infer_instance
  | several elements =>
      change Reads source ([] ++ source.placesIn elements) _ _
      dsimp only
      infer_instance
  | object type =>
      change Reads source ([] ++ source.placesIn type) _ _
      dsimp only
      infer_instance
  | relaxed parts =>
      change Reads source ([] ++ source.placesIn parts) _ _
      dsimp only
      infer_instance
  | single type =>
      change Reads source ([] ++ source.placesIn type) _ _
      dsimp -zeta only
      refine Reads.lookThen inferInstance fun _ => ?_
      extract_lets first
      cases found : first with
      | none => infer_instance
      | some bound =>
          have within : (source.placesIn bound).Sublist (source.placesIn type) := by
            dsimp only [first] at found
            split at found
            next => exact source.placesIn_boundInParentheses found
            next => cases found
          exact Reads.forget within inferInstance

instance abi : Takes source Grammar.abi [] source.placesIn := by
  unfold Grammar.abi
  exact ⟨inferInstance⟩

instance peekTypeVariadic : Takes source Grammar.peekTypeVariadic [] source.placesIn := by
  unfold Grammar.peekTypeVariadic
  exact ⟨inferInstance⟩

instance functionTypeVariadic {attributes : Node} :
    Takes source (Grammar.functionTypeVariadic attributes) (source.placesIn attributes)
      source.trailIn := by
  unfold Grammar.functionTypeVariadic
  exact ⟨inferInstance⟩

instance functionTypeParameter {attributes : Node} {allowSelf : Bool} :
    Takes source (Grammar.functionTypeParameter attributes allowSelf)
      (source.placesIn attributes.parts) source.placesIn := by
  unfold Grammar.functionTypeParameter
  exact ⟨inferInstance⟩

instance functionTypeParameters :
    Takes source Grammar.functionTypeParameters [] source.placesIn := by
  unfold Grammar.functionTypeParameters
  exact ⟨inferInstance⟩

instance functionType {binding : Node} :
    Takes source (Grammar.functionType binding) (source.placesIn binding) source.placesIn := by
  unfold Grammar.functionType
  exact ⟨inferInstance⟩

instance boundsBehindPath {first : Node} :
    Takes source (Grammar.boundsBehindPath first) (source.placesIn first) source.placesIn := by
  unfold Grammar.boundsBehindPath
  exact ⟨inferInstance⟩

instance pathType {binding : Node} {allowPlus : Bool} :
    Takes source (Grammar.pathType binding allowPlus) (source.placesIn binding)
      source.placesIn := by
  unfold Grammar.pathType
  exact ⟨inferInstance⟩

instance bracketType : Takes source Grammar.bracketType [] source.placesIn := by
  unfold Grammar.bracketType
  exact ⟨inferInstance⟩

instance pointerType : Takes source Grammar.pointerType [] source.placesIn := by
  unfold Grammar.pointerType
  exact ⟨inferInstance⟩

instance referenceType : Takes source Grammar.referenceType [] source.placesIn := by
  unfold Grammar.referenceType
  exact ⟨inferInstance⟩

instance implType {allowPlus : Bool} :
    Takes source (Grammar.implType allowPlus) [] source.placesIn := by
  unfold Grammar.implType
  exact ⟨inferInstance⟩

instance dynType {allowPlus : Bool} :
    Takes source (Grammar.dynType allowPlus) [] source.placesIn := by
  unfold Grammar.dynType
  exact ⟨inferInstance⟩

instance type {allowPlus : Bool} :
    Takes source (Grammar.type allowPlus) [] source.placesIn := by
  unfold Grammar.type
  exact ⟨inferInstance⟩

/-! ## Patterns -/

instance peekBar : Takes source Grammar.peekBar [] source.placesIn := by
  unfold Grammar.peekBar
  exact ⟨inferInstance⟩

instance alternatives : Takes source Grammar.alternatives [] source.placesIn := by
  unfold Grammar.alternatives
  exact ⟨inferInstance⟩

instance rangeLimits : Takes source Grammar.rangeLimits [] source.placesIn := by
  unfold Grammar.rangeLimits
  exact ⟨inferInstance⟩

instance patternLimits : Takes source Grammar.patternLimits [] source.placesIn := by
  unfold Grammar.patternLimits
  exact ⟨inferInstance⟩

instance pathExpression : Takes source Grammar.pathExpression [] source.placesIn := by
  unfold Grammar.pathExpression
  exact ⟨inferInstance⟩

instance constBlock : Takes source Grammar.constBlock [] source.placesIn := by
  unfold Grammar.constBlock
  refine ⟨Reads.andThen inferInstance fun keyword => ?_⟩
  exact Reads.groupThen inferInstance fun content opening closing => inferInstance

instance rangeBound : Takes source Grammar.rangeBound [] source.placesIn := by
  unfold Grammar.rangeBound
  exact ⟨inferInstance⟩

instance rangeBehind {lower : Node} :
    Takes source (Grammar.rangeBehind lower) (source.placesIn lower) source.placesIn := by
  unfold Grammar.rangeBehind
  exact ⟨inferInstance⟩

instance literalPattern : Takes source Grammar.literalPattern [] source.placesIn := by
  unfold Grammar.literalPattern
  exact ⟨inferInstance⟩

instance dotsPattern : Takes source Grammar.dotsPattern [] source.placesIn := by
  unfold Grammar.dotsPattern
  exact ⟨inferInstance⟩

instance namePattern : Takes source Grammar.namePattern [] source.placesIn := by
  unfold Grammar.namePattern
  exact ⟨inferInstance⟩

instance member : Takes source Grammar.member [] source.placesIn := by
  unfold Grammar.member
  refine ⟨Reads.lookThen inferInstance fun isName => Reads.either inferInstance ?_⟩
  refine Reads.lookThen inferInstance fun isNumber => Reads.either ?_ inferInstance
  refine Reads.lookThen inferInstance fun cursor => Reads.lookThen inferInstance fun tokens => ?_
  repeat' split
  all_goals infer_instance

instance fieldPattern {attributes : Node} :
    Takes source (Grammar.fieldPattern attributes) (source.placesIn attributes)
      source.placesIn := by
  unfold Grammar.fieldPattern
  exact ⟨inferInstance⟩

/-- Nothing is read behind the dots of a pattern, so the fields stand in front of them. -/
instance structPatternFields : Takes source Grammar.structPatternFields [] source.placesIn := by
  unfold Grammar.structPatternFields
  refine ⟨loopThen (?_ : ∀ found, HasEnded found → Yields _ _) ?_ (.inl rfl) inferInstance⟩
  · rintro ⟨found, rest, fieldNext⟩ known
    refine Yields.after fun ends => Yields.ite (Yields.pure nofun) (Yields.ite ?_ ?_)
    · refine Yields.after fun attributes => Yields.after fun isEnd => Yields.ite ?_ ?_
      · refine Yields.after fun dots => Yields.pure ?_
        rintro _ ⟨⟩
        exact .inr rfl
      · refine Yields.after fun field => Yields.pure ?_
        rintro _ ⟨⟩
        exact known
    · refine Yields.after fun comma => Yields.pure ?_
      rintro _ ⟨⟩
      exact known
  · rintro ⟨found, rest, fieldNext⟩ known
    refine Reads.lookThen inferInstance fun ends => ?_
    split
    next => infer_instance
    next goesOn =>
        rcases known with rfl | present
        · infer_instance
        · exact absurd (Bool.or_eq_true_iff.mpr (.inr present)) goesOn

instance pathPattern : Takes source Grammar.pathPattern [] source.placesIn := by
  unfold Grammar.pathPattern
  exact ⟨inferInstance⟩

instance tuplePattern : Takes source Grammar.tuplePattern [] source.placesIn := by
  unfold Grammar.tuplePattern
  refine ⟨Reads.groupThen inferInstance fun content opening closing => ?_⟩
  dsimp only
  split
  next only =>
      rw [source.placesIn_sequence_single]
      infer_instance
  next => infer_instance

instance slicePattern : Takes source Grammar.slicePattern [] source.placesIn := by
  unfold Grammar.slicePattern
  exact ⟨inferInstance⟩

instance referencePattern : Takes source Grammar.referencePattern [] source.placesIn := by
  unfold Grammar.referencePattern
  exact ⟨inferInstance⟩

instance peekBehindAny {terminals : List Terminal} :
    Takes source (Grammar.peekBehindAny terminals) [] source.placesIn :=
  looks fun _ _ _ read => by cases read; rfl

instance peekPathPattern : Takes source Grammar.peekPathPattern [] source.placesIn := by
  unfold Grammar.peekPathPattern
  exact ⟨inferInstance⟩

instance pattern : Takes source Grammar.pattern [] source.placesIn := by
  unfold Grammar.pattern
  exact ⟨inferInstance⟩

end Takes
end Instrument
