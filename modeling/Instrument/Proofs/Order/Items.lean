import Instrument.Proofs.Order.Expressions

/-!
# The order of items and files

The keyword of a function stands behind its attributes and in front of everything else that has
landmarks: a visibility has none, and neither do the words in front of the keyword.  With the items
all rules are there, so every name reads landmarks in their order at every depth, and a parsed file
has its landmarks in the order of the source.
-/

namespace Instrument

open Instrument.Parser

set_option synthInstance.maxSize 1000000000

/-! ## Parts without landmarks -/

section Bare

theorem IsBare.sequence {parts : List Node} (bare : ∀ part ∈ parts, IsBare part) :
    IsBare (Tree.node .sequence parts) :=
  IsBare.of_isTransparent rfl (fun _ => rfl) bare

theorem IsBare.plainSegment {name : Node} (bare : IsBare name) :
    IsBare (Grammar.plainSegment name) :=
  IsBare.of_isTransparent rfl (fun _ => rfl) (by simp [bare, IsBare.absent])

theorem IsBare.path {leading : Node} {segments : List Node} (bare : IsBare leading)
    (all : ∀ segment ∈ segments, IsBare segment) :
    IsBare (Tree.node .path [leading, .node .sequence segments]) :=
  IsBare.of_isTransparent rfl (fun _ => rfl) (by simp [bare, IsBare.sequence all])

theorem yields_isBare_take : Yields take IsBare :=
  Yields.after fun _ => Yields.pure .leaf

theorem yields_isBare_optionalWord {text : String} : Yields (optionalWord text) IsBare :=
  Yields.after fun _ => Yields.ite yields_isBare_take (Yields.pure .absent)

theorem yields_isBare_anyWord : Yields anyWord IsBare :=
  Yields.after fun _ => Yields.ite yields_isBare_take (Yields.failHere _)

theorem yields_isBare_identifier : Yields identifier IsBare := by
  refine Yields.after fun cursor => Yields.after fun tokens => ?_
  split
  next => exact Yields.ite (Yields.failHere _) yields_isBare_take
  next => exact Yields.failHere _

theorem yields_isBare_plainPath : Yields Grammar.plainPath IsBare := by
  refine Yields.bind yields_isBare_optionalMark fun leading bare => ?_
  refine Yields.bind (?_ : Yields _ fun found => ∀ part ∈ found.1, IsBare part) fun found all => ?_
  · refine Yields.repeating ?_ nofun
    rintro ⟨found, segmentNext⟩ all
    refine Yields.ite (Yields.after fun _ => Yields.ite ?_ (Yields.pure nofun))
      (Yields.after fun _ => Yields.ite ?_ (Yields.pure nofun))
    · refine Yields.bind yields_isBare_anyWord fun name bare => Yields.pure ?_
      rintro _ ⟨⟩
      exact List.forall_mem_cons.mpr ⟨IsBare.plainSegment bare, all⟩
    · refine Yields.bind yields_isLeaf_mark fun separator isLeaf => Yields.pure ?_
      rintro _ ⟨⟩
      exact List.forall_mem_cons.mpr ⟨.of_isLeaf isLeaf, all⟩
  · split
    next => exact yields_isBare_identifier
    next found _ _ =>
        refine Yields.ite (Yields.failHere _) (Yields.pure (IsBare.path bare ?_))
        exact fun segment member => all segment (List.mem_reverse.mp member)

theorem yields_isBare_abi : Yields Grammar.abi IsBare := by
  refine Yields.after fun _ => Yields.ite ?_ (Yields.pure .absent)
  refine Yields.bind yields_isBare_take fun keyword bare => Yields.after fun isNamed => ?_
  extract_lets named
  have behind (name : Node) (bare' : IsBare name) : Yields (named name) IsBare :=
    Yields.pure (IsBare.of_isTransparent rfl (fun _ => rfl) (by simp [bare, bare']))
  exact Yields.ite (Yields.bind yields_isBare_take behind) (behind _ .absent)

/-- The brackets of a group have no landmarks. -/
theorem yields_group {α : Type} {delimiter : Delimiter} {content : Parser α} {inside : α → Prop}
    (within : Yields content inside) :
    Yields (group delimiter content) fun found =>
      IsBare found.opening ∧ inside found.content ∧ IsBare found.closing := by
  intro source cursor found behind read
  rcases leaves_group found behind read with ⟨value, stop, opening, closing, reached, rfl, _⟩
  exact ⟨.leaf, within _ _ _ _ reached, .leaf⟩

/-- What a visibility is restricted to has no landmarks. -/
theorem yields_restriction : Yields Grammar.restriction fun found => ∀ inside ∈ found,
    IsBare inside.opening ∧ IsBare inside.content.1 ∧ IsBare inside.content.2 ∧
      IsBare inside.closing := by
  refine Yields.after fun start => ?_
  refine Yields.bind (yields_group (?_ : Yields _ fun found =>
    ∀ inside ∈ found, IsBare inside.1 ∧ IsBare inside.2)) fun found bare => ?_
  · refine Yields.after fun isWord => Yields.ite ?_ (Yields.after fun isIn => Yields.ite ?_ ?_)
    · refine Yields.bind yields_isBare_take fun name bare => Yields.after fun ends => ?_
      refine Yields.ite (Yields.pure ?_) (Yields.pure fun _ member => by cases member)
      rintro _ ⟨⟩
      exact ⟨.absent, IsBare.path .absent (by simp [IsBare.plainSegment bare])⟩
    · refine Yields.bind yields_isBare_take fun keyword bare => ?_
      refine Yields.bind yields_isBare_plainPath fun path bare' => Yields.pure ?_
      rintro _ ⟨⟩
      exact ⟨bare, bare'⟩
    · exact Yields.pure fun _ member => by cases member
  · split
    next inside same =>
        have inner := bare.2.1 inside same
        refine Yields.pure ?_
        rintro _ ⟨⟩
        exact ⟨bare.1, inner.1, inner.2, bare.2.2⟩
    next => exact Yields.after fun _ => Yields.pure fun _ member => by cases member

theorem yields_isBare_visibility : Yields Grammar.visibility IsBare := by
  refine Yields.after fun _ => Yields.ite ?_ (Yields.pure .absent)
  refine Yields.bind yields_isBare_take fun keyword bare => Yields.after fun _ => ?_
  have alone : IsBare (Tree.node .publicVisibility [keyword]) :=
    IsBare.of_isTransparent rfl (fun _ => rfl) (by simp [bare])
  refine Yields.ite (Yields.bind yields_restriction fun found inside => ?_) (Yields.pure alone)
  split
  next =>
      refine Yields.pure (IsBare.of_isTransparent rfl (fun _ => rfl) ?_)
      simp [bare, inside _ rfl]
  next => exact Yields.pure alone

end Bare
/-! ## Functions -/

/-- A declaration of a function, of any of the four kinds. -/
abbrev Kind.isFunction : Kind → Bool
  | .function | .implFunction | .traitFunction | .foreignFunction => true
  | _ => false

namespace Source

variable (source : Source)

/-- The places of a signature, behind that of the keyword in it. -/
def headPlaces (declared : Node) : List Nat :=
  [source.place declared.keyword] ++ source.placesIn declared

/-- The keyword stands in front of everything in a signature that has places. -/
theorem headPlaces_signature {constant asynchrony safety interface : Node} [IsBare constant]
    [IsBare asynchrony] [IsBare safety] [IsBare interface] (position : Nat)
    (name parameters constraints opening inputs closing output : Node) :
    source.headPlaces (.node .signature [constant, asynchrony, safety, interface,
      .leaf (.read position), name, parameters, constraints, opening, inputs, closing, output]) =
      [position] ++ source.placesIn [name, parameters, opening, inputs, closing, output] := by
  unfold headPlaces
  rw [source.placesIn_node rfl rfl, source.placesIn_of_isBare constant]
  change [position] ++ ([] ++ [] ++ source.placesIn (asynchrony :: safety :: interface ::
    .leaf (.read position) :: [name, parameters, opening, inputs, closing, output])) = _
  rw [source.placesIn_cons, source.placesIn_cons, source.placesIn_cons, source.placesIn_cons,
    source.placesIn_of_isBare, source.placesIn_of_isBare, source.placesIn_of_isBare,
    source.placesIn_of_isBare]
  rfl

/-- The keyword of a function stands behind its attributes and in front of everything else that has
places. -/
theorem placesIn_function {kind : Kind} (isFunction : kind.isFunction = true)
    {visible mode : Node} [IsBare visible] [IsBare mode] (outer inner declared block : Node) :
    source.placesIn (Tree.node kind [outer, inner, visible, mode, declared, block]) =
      source.placesIn outer ++ source.headPlaces declared ++ source.placesIn inner ++
        source.placesIn block := by
  cases kind <;> try cases isFunction
  all_goals
    rw [source.placesIn_node rfl rfl]
    change _ ++ [source.place declared.keyword] ++
      source.placesIn [visible, mode, declared, inner, block] = _
    simp only [source.placesIn_cons, source.placesIn_nil, source.placesIn_of_isBare,
      List.append_nil, List.nil_append, List.append_assoc, headPlaces]

end Source

/-! The parts of a record are where its nodes are; a `where` clause is not among them. -/

instance : HasPlaces Grammar.ConstParts :=
  ⟨fun source found => source.placesIn
    [found.name, found.colon, found.type, found.equals,
    found.value, found.semicolon]⟩

instance {found : Grammar.ConstParts} : IsRecord found
    [found.name, found.colon, found.type, found.equals,
    found.value, found.semicolon] :=
  ⟨fun _ => rfl⟩

instance : HasPlaces Grammar.TypeParts :=
  ⟨fun source found => source.placesIn
    [found.name, found.parameterNames, found.colon, found.bounds,
    found.equals, found.type, found.semicolon]⟩

instance {found : Grammar.TypeParts} : IsRecord found
    [found.name, found.parameterNames, found.colon, found.bounds,
    found.equals, found.type, found.semicolon] :=
  ⟨fun _ => rfl⟩

instance : HasPlaces Grammar.ImplHead :=
  ⟨fun source head => source.placesIn [head.implemented, head.type]⟩

instance {head : Grammar.ImplHead} : IsRecord head [head.implemented, head.type] :=
  ⟨fun _ => rfl⟩

namespace Draws

variable {source : Source} {had last middle rest wanted : List Nat}

instance keptUseTree : Draws had (source.placesIn Grammar.keptUseTree) had :=
  of_nil (source.placesIn_node_nil rfl)

instance function {kind : Kind} [isFunction : Holds kind.isFunction]
    {outer inner visible mode declared block : Node} [IsBare visible] [IsBare mode]
    {first : List Nat}
    [drawn : Draws had (source.placesIn block) last]
    [drawn' : Draws last (source.placesIn inner) middle]
    [drawn'' : Draws middle (source.headPlaces declared) first]
    [last' : Draws first (source.placesIn outer) rest] :
    Draws had (source.placesIn (Tree.node kind [outer, inner, visible, mode, declared, block]))
      rest :=
  of_eq (source.placesIn_function isFunction.eq_true outer inner declared block)
    (both drawn (both drawn' (both drawn'' last')))

instance signature {constant asynchrony safety interface : Node} [IsBare constant]
    [IsBare asynchrony] [IsBare safety] [IsBare interface] {position : Nat}
    {name parameters constraints opening inputs closing output : Node}
    [drawn : Draws had (source.placesIn [name, parameters, opening, inputs, closing, output])
      (rest ++ [position])] :
    Draws had (source.headPlaces (.node .signature [constant, asynchrony, safety, interface,
      .leaf (.read position), name, parameters, constraints, opening, inputs, closing, output]))
      rest :=
  of_eq (source.headPlaces_signature position name parameters constraints opening inputs closing
    output) (both drawn found)

end Draws

namespace Takes

variable {source : Source} [source.IsNested]

/-- Behind a restriction the reader is behind the parentheses, or in front of them again. -/
theorem leaves_restriction {cursor : Cursor} :
    Leaves source cursor Grammar.restriction fun _ behind =>
      behind.limit = cursor.limit ∧ cursor.position ≤ behind.position := by
  refine Leaves.look (rfl : reading source cursor MonadState.get = _) ?_
  refine Leaves.bind leaves_group fun found middle stops => ?_
  rcases stops with ⟨value, stop, opening, closing, content, rfl, stops⟩
  split
  next =>
      have forward : cursor.position ≤ middle.position := by
        rw [stops.position]
        exact Nat.le_of_lt (Source.IsNested.lt_behindTrees _)
      exact Leaves.pure ⟨stops.limit, forward⟩
  next =>
      refine Leaves.bind leaves_set fun _ behind same => ?_
      subst same
      exact Leaves.pure ⟨rfl, Nat.le_refl _⟩

instance restriction : Takes source Grammar.restriction [] source.placesIn where
  reads := ⟨fun cursor found behind _ read => by
    have bare := yields_restriction _ _ _ _ read
    have nothing : source.placesIn found = [] := by
      cases found with
      | none => rfl
      | some inside =>
          rcases bare inside rfl with ⟨_, _, _, _⟩
          change (source.placesIn inside.opening ++
            (source.placesIn inside.content.1 ++ source.placesIn inside.content.2) ++
              source.placesIn inside.closing) ++ [] = []
          simp only [source.placesIn_of_isBare, List.append_nil]
    have stops := leaves_restriction found behind read
    rw [nothing]
    exact .of_sublist (List.Sublist.refl _) stops.1 stops.2⟩

instance visibility : Takes source Grammar.visibility [] source.placesIn := by
  unfold Grammar.visibility
  refine ⟨Reads.lookThen inferInstance fun _ => Reads.either ?_ inferInstance⟩
  refine Reads.andThen inferInstance fun keyword => Reads.lookThen inferInstance fun _ => ?_
  refine Reads.either (Reads.andThen inferInstance fun found => ?_) inferInstance
  split
  next opening within path closing =>
      have same : source.placesIn (some (Enclosed.mk opening (within, path) closing)) =
          source.placesIn (Enclosed.mk opening (within, path) closing) := List.append_nil _
      rw [same]
      infer_instance
  next => infer_instance

variable [Rules] [Rules.AreOrdered source]

instance peekSignature {allowSafe : Bool} :
    Takes source (Grammar.peekSignature allowSafe) [] source.placesIn := by
  unfold Grammar.peekSignature
  exact ⟨inferInstance⟩

instance receiver {attributes : Node} :
    Takes source (Grammar.receiver attributes) (source.placesIn attributes) source.placesIn := by
  unfold Grammar.receiver
  exact ⟨inferInstance⟩

instance parameter {attributes : Node} :
    Takes source (Grammar.parameter attributes) (source.placesIn attributes) source.placesIn := by
  unfold Grammar.parameter
  refine ⟨Reads.attemptThen (fun found => ?_) ?_⟩
  · dsimp only
    infer_instance
  · dsimp only
    infer_instance

instance parameters : Takes source Grammar.parameters [] source.placesIn := by
  unfold Grammar.parameters
  exact ⟨inferInstance⟩

instance signatureOrSafe {allowSafe : Bool} :
    Takes source (Grammar.signatureOrSafe allowSafe) [] fun found => source.headPlaces found.1 := by
  unfold Grammar.signatureOrSafe
  refine ⟨Reads.bareThen inferInstance yields_isBare_optionalWord fun constant _ => ?_⟩
  refine Reads.bareThen inferInstance yields_isBare_optionalWord fun asynchrony _ => ?_
  refine Reads.bareThen inferInstance yields_isBare_optionalWord fun unsafety _ => ?_
  refine Reads.lookThen inferInstance fun isThere => Reads.lookThen inferInstance fun isSafe => ?_
  extract_lets behind
  have behind (safety : Node) (_ : IsBare safety) : Reads source [] (behind safety) fun found =>
      source.headPlaces found.1 := by
    refine Reads.bareThen inferInstance yields_isBare_abi fun interface _ => ?_
    refine Reads.landmarkThen readsToken_word fun position => ?_
    exact inferInstance
  exact Reads.either (Reads.bareThen inferInstance yields_isBare_take behind)
    (behind _ inferInstance)

instance signature : Takes source Grammar.signature [] source.headPlaces := by
  unfold Grammar.signature
  exact ⟨inferInstance⟩

instance functionBehind {kind : Kind} [Holds kind.isFunction] {attributes : List Node}
    {visible mode declared : Node} [IsBare visible] [IsBare mode] :
    Takes source (Grammar.functionBehind kind attributes visible mode declared)
      (source.placesIn attributes ++ source.headPlaces declared) source.placesIn := by
  unfold Grammar.functionBehind
  exact ⟨inferInstance⟩

instance traitFunction : Takes source Grammar.traitFunction [] source.placesIn := by
  unfold Grammar.traitFunction
  exact ⟨inferInstance⟩

/-! ## Items -/

instance untilEnd {element : Parser Node} [Reads source [] element source.placesIn] :
    Takes source (Grammar.untilEnd element) [] source.placesIn := by
  unfold Grammar.untilEnd
  exact ⟨inferInstance⟩

instance memberBody {element : Parser Node} [Reads source [] element source.placesIn] :
    Takes source (Grammar.memberBody element) [] source.placesIn := by
  unfold Grammar.memberBody
  exact ⟨Reads.groupThen inferInstance fun content opening closing => inferInstance⟩

instance item : Takes source Grammar.item [] source.placesIn := by
  unfold Grammar.item
  exact ⟨inferInstance⟩

instance namedField : Takes source Grammar.namedField [] source.placesIn := by
  unfold Grammar.namedField
  exact ⟨inferInstance⟩

instance tupleField : Takes source Grammar.tupleField [] source.placesIn := by
  unfold Grammar.tupleField
  exact ⟨inferInstance⟩

instance namedFields : Takes source Grammar.namedFields [] source.placesIn := by
  unfold Grammar.namedFields
  exact ⟨inferInstance⟩

instance tupleFields : Takes source Grammar.tupleFields [] source.placesIn := by
  unfold Grammar.tupleFields
  exact ⟨inferInstance⟩

instance structItem {attributes : Node} :
    Takes source (Grammar.structItem attributes) (source.placesIn attributes) source.placesIn := by
  unfold Grammar.structItem
  exact ⟨inferInstance⟩

instance variant : Takes source Grammar.variant [] source.placesIn := by
  unfold Grammar.variant
  exact ⟨inferInstance⟩

instance enumItem {attributes : Node} :
    Takes source (Grammar.enumItem attributes) (source.placesIn attributes) source.placesIn := by
  unfold Grammar.enumItem
  exact ⟨inferInstance⟩

instance unionItem {attributes : Node} :
    Takes source (Grammar.unionItem attributes) (source.placesIn attributes) source.placesIn := by
  unfold Grammar.unionItem
  exact ⟨inferInstance⟩

instance identifierOrUnderscore :
    Takes source Grammar.identifierOrUnderscore [] source.placesIn := by
  unfold Grammar.identifierOrUnderscore
  exact ⟨inferInstance⟩

instance externCrateItem {attributes : Node} :
    Takes source (Grammar.externCrateItem attributes) (source.placesIn attributes)
      source.placesIn := by
  unfold Grammar.externCrateItem
  exact ⟨inferInstance⟩

instance usePathBehind {name : Node} :
    Takes source (Grammar.usePathBehind name) (source.placesIn name) source.placesIn := by
  unfold Grammar.usePathBehind
  exact ⟨inferInstance⟩

instance useGroup {allowRoot : Bool} :
    Takes source (Grammar.useGroup allowRoot) [] source.placesIn := by
  unfold Grammar.useGroup
  refine ⟨Reads.groupThen inferInstance fun content opening closing => ?_⟩
  rcases content with ⟨trees, startsAtRoot⟩
  infer_instance

instance useTree {allowRoot : Bool} :
    Takes source (Grammar.useTree allowRoot) [] source.placesIn := by
  unfold Grammar.useTree
  exact ⟨inferInstance⟩

instance useItem {start : Nat} {attributes : Node} :
    Takes source (Grammar.useItem start attributes) (source.placesIn attributes)
      source.placesIn := by
  unfold Grammar.useItem
  exact ⟨inferInstance⟩

instance staticItem {start : Nat} {attributes : Node} :
    Takes source (Grammar.staticItem start attributes) (source.placesIn attributes)
      source.placesIn := by
  unfold Grammar.staticItem
  exact ⟨inferInstance⟩

instance constBehind : Takes source Grammar.constBehind [] source.placesIn := by
  unfold Grammar.constBehind
  exact ⟨inferInstance⟩

instance constItem {start : Nat} {attributes : Node} :
    Takes source (Grammar.constItem start attributes) (source.placesIn attributes)
      source.placesIn := by
  unfold Grammar.constItem
  exact ⟨inferInstance⟩

instance typeBehind {place : Grammar.WherePlace} :
    Takes source (Grammar.typeBehind place) [] source.placesIn := by
  unfold Grammar.typeBehind
  exact ⟨inferInstance⟩

instance typeItem {start : Nat} {attributes : Node} :
    Takes source (Grammar.typeItem start attributes) (source.placesIn attributes)
      source.placesIn := by
  unfold Grammar.typeItem
  exact ⟨inferInstance⟩

instance moduleItem {attributes : Node} :
    Takes source (Grammar.moduleItem attributes) (source.placesIn attributes) source.placesIn := by
  unfold Grammar.moduleItem
  exact ⟨inferInstance⟩

instance macroDefinition {start : Nat} :
    Takes source (Grammar.macroDefinition start) [] source.placesIn := by
  unfold Grammar.macroDefinition
  exact ⟨inferInstance⟩

instance invocationEnd {opening : Node} :
    Takes source (Grammar.invocationEnd opening) [] source.placesIn := by
  unfold Grammar.invocationEnd
  exact ⟨inferInstance⟩

instance macroItem {attributes : Node} :
    Takes source (Grammar.macroItem attributes) (source.placesIn attributes) source.placesIn := by
  unfold Grammar.macroItem
  exact ⟨inferInstance⟩

instance macroMember {attributes : Node} :
    Takes source (Grammar.macroMember attributes) (source.placesIn attributes) source.placesIn := by
  unfold Grammar.macroMember
  exact ⟨inferInstance⟩

instance foreignMember : Takes source Grammar.foreignMember [] source.placesIn := by
  unfold Grammar.foreignMember
  refine ⟨Reads.lookThen inferInstance fun start => Reads.andThen inferInstance fun outer => ?_⟩
  refine Reads.getThen fun before => LeadsOn.bind yields_isBare_visibility fun visible _ => ?_
  refine LeadsOn.after fun isFunction => LeadsOn.either LeadsOn.ofReads ?_
  refine LeadsOn.after fun _ => LeadsOn.after fun _ => LeadsOn.after fun _ => ?_
  refine LeadsOn.after fun _ => LeadsOn.either LeadsOn.ofReads ?_
  refine LeadsOn.after fun isType => LeadsOn.either LeadsOn.ofReads ?_
  exact LeadsOn.after fun isInvocation => LeadsOn.either LeadsOn.back LeadsOn.ofReads

instance foreignModule {attributes : Node} :
    Takes source (Grammar.foreignModule attributes) (source.placesIn attributes)
      source.placesIn := by
  unfold Grammar.foreignModule
  exact ⟨inferInstance⟩

instance traitMember : Takes source Grammar.traitMember [] source.placesIn := by
  unfold Grammar.traitMember
  exact ⟨inferInstance⟩

instance superBounds {ending : Terminal} :
    Takes source (Grammar.superBounds ending) [] source.placesIn := by
  unfold Grammar.superBounds
  exact ⟨inferInstance⟩

instance traitBehind {attributes visible safety auto keyword name parameterNames : Node} :
    Takes source
      (Grammar.traitBehind attributes visible safety auto keyword name parameterNames)
      (source.placesIn [attributes, visible, safety, auto, keyword, name, parameterNames])
      source.placesIn := by
  unfold Grammar.traitBehind
  -- The parts that are known already are taken apart behind nothing else that is known.
  refine ⟨(?_ : Reads source ([] ++ source.placesIn
    [attributes, visible, safety, auto, keyword, name, parameterNames]) _ _)⟩
  infer_instance

instance qualifiedTrait {attributes : Node} :
    Takes source (Grammar.qualifiedTrait attributes) (source.placesIn attributes)
      source.placesIn := by
  unfold Grammar.qualifiedTrait
  exact ⟨inferInstance⟩

instance traitOrAlias {attributes : Node} :
    Takes source (Grammar.traitOrAlias attributes) (source.placesIn attributes)
      source.placesIn := by
  unfold Grammar.traitOrAlias
  exact ⟨inferInstance⟩

instance implMember : Takes source Grammar.implMember [] source.placesIn := by
  unfold Grammar.implMember
  refine ⟨Reads.lookThen inferInstance fun start => Reads.andThen inferInstance fun outer => ?_⟩
  refine Reads.getThen fun before => LeadsOn.bind yields_isBare_visibility fun visible _ => ?_
  refine LeadsOn.after fun _ => LeadsOn.after fun _ => LeadsOn.after fun hasMode => ?_
  extract_lets behind
  have behind (mode : Node) (_ : IsBare mode) : LeadsOn source before ([] ++ source.placesIn outer)
      (behind mode) source.placesIn := by
    refine LeadsOn.after fun isFunction => LeadsOn.either LeadsOn.ofReads ?_
    refine LeadsOn.after fun isConst => LeadsOn.either LeadsOn.ofReads ?_
    refine LeadsOn.after fun isType => LeadsOn.either LeadsOn.ofReads ?_
    exact LeadsOn.after fun isInvocation => LeadsOn.either LeadsOn.back LeadsOn.ofReads
  exact LeadsOn.either (LeadsOn.bind yields_isBare_take behind) (behind _ .absent)

instance implHead : Takes source Grammar.implHead [] source.placesIn := by
  unfold Grammar.implHead
  refine ⟨Reads.lookThen inferInstance fun start => ?_⟩
  refine Reads.lookThen inferInstance fun _ => Reads.lookThen inferInstance fun _ => ?_
  extract_lets behindPolarity
  have (polarity : Node) :
      Takes source (behindPolarity polarity) (source.placesIn polarity) source.placesIn := by
    refine ⟨Reads.andThen inferInstance fun first => Reads.lookThen inferInstance fun _ => ?_⟩
    refine Reads.either ?_ inferInstance
    refine Reads.andThen inferInstance fun keyword => Reads.andThen inferInstance fun type => ?_
    split
    next parts =>
        rw [source.placesIn_node_single rfl fun _ => rfl]
        infer_instance
    next => infer_instance
  clear_value behindPolarity
  infer_instance

instance implItem {start : Nat} {attributes : Node} :
    Takes source (Grammar.implItem start attributes) (source.placesIn attributes)
      source.placesIn := by
  unfold Grammar.implItem
  exact ⟨inferInstance⟩

instance functionItem {start : Nat} {attributes : List Node} :
    Takes source (Grammar.functionItem start attributes) (source.placesIn attributes)
      source.placesIn := by
  unfold Grammar.functionItem
  exact ⟨Reads.bareThen inferInstance yields_isBare_visibility fun visible _ => inferInstance⟩

instance itemForm : Takes source Grammar.itemForm [] source.placesIn := by
  unfold Grammar.itemForm
  exact ⟨inferInstance⟩

instance itemBehind {start : Nat} {attributes : List Node} :
    Takes source (Grammar.itemBehind start attributes) (source.placesIn attributes)
      source.placesIn := by
  unfold Grammar.itemBehind
  refine ⟨Reads.lookThen inferInstance fun form => ?_⟩
  cases form <;> infer_instance

instance file : Takes source Grammar.file [] source.placesIn := by
  unfold Grammar.file
  exact ⟨inferInstance⟩

end Takes

/-! ## All rules together -/

namespace Reads

variable {source : Source} [source.IsNested]

theorem rule [Rules] [Rules.AreOrdered source] (symbol : Symbol) :
    Reads source (source.placesIn symbol) (Grammar.rule symbol) source.placesIn := by
  unfold Grammar.rule
  cases symbol <;> exact Takes.reads

/-- At depth zero nothing is read, and a name has its rule one level higher. -/
theorem interpret : ∀ (depth : Nat) (symbol : Symbol),
    Reads source (source.placesIn symbol) (Grammar.interpret depth symbol) source.placesIn
  | 0, _ => throw
  | depth + 1, symbol =>
    have := @Rules.AreOrdered.mk source ⟨Grammar.interpret depth⟩ (interpret depth)
    @rule _ _ ⟨Grammar.interpret depth⟩ this symbol

end Reads

/-- The landmarks of a file are read in the order of the source. -/
theorem Source.rising_places_of_cite {source : Source} [source.IsNested]
    (confines : source.Confines ⟨0, source.tokens.size, none⟩) {tree : Node}
    (read : Grammar.cite Grammar.file source = .ok tree) :
    (source.places tree).Pairwise (· < ·) ∧
      ∀ place ∈ source.places tree, place < source.tokens.size := by
  have := @Rules.AreOrdered.mk source (Grammar.rulesFor source.tokens.size) (Reads.interpret _)
  have reads := (@Takes.file source _ (Grammar.rulesFor source.tokens.size) this).reads
  obtain ⟨_, reached, _, _⟩ := Grammar.cite_eq_ok_iff.mp read
  have follows := reads.ofReading _ _ _ confines reached
  have nothing : Rising ([] ++ []) 0 := List.pairwise_singleton _ 0
  exact ⟨(Rising.iff.mp (follows.rising [] nothing)).1, follows.inside nofun⟩

end Instrument
