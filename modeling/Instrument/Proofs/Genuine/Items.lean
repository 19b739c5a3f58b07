import Instrument.Proofs.Genuine.Expressions

/-!
# Genuine items and files

The rules of the grammar read genuine trees as far as the rules do that they refer to by name.  So
every name does at every depth, and a parsed file is genuine.
-/

namespace Instrument

open Instrument.Parser

set_option synthInstance.maxSize 1000000000

namespace Genuine

variable {source : Source}

instance : HasNodes Grammar.ConstParts :=
  ⟨fun parts => [parts.name, parts.colon, parts.type, parts.equals, parts.value, parts.semicolon]⟩

namespace ConstParts

variable {parts : Grammar.ConstParts} [genuine : Genuine source parts]

instance name : Genuine source parts.name :=
  genuine.ofMember (by simp [HasNodes.nodes])

instance colon : Genuine source parts.colon :=
  genuine.ofMember (by simp [HasNodes.nodes])

instance type : Genuine source parts.type :=
  genuine.ofMember (by simp [HasNodes.nodes])

instance equals : Genuine source parts.equals :=
  genuine.ofMember (by simp [HasNodes.nodes])

instance value : Genuine source parts.value :=
  genuine.ofMember (by simp [HasNodes.nodes])

instance semicolon : Genuine source parts.semicolon :=
  genuine.ofMember (by simp [HasNodes.nodes])

end ConstParts

instance constParts {name colon type equals value semicolon : Node} {isGeneric : Bool}
    [Genuine source name] [Genuine source colon] [Genuine source type] [Genuine source equals]
    [Genuine source value] [Genuine source semicolon] :
    Genuine source (Grammar.ConstParts.mk name colon type equals value semicolon isGeneric) :=
  ⟨(inferInstance : Genuine source [name, colon, type, equals, value, semicolon]).ofNodes⟩

instance : HasNodes Grammar.TypeParts :=
  ⟨fun parts => [parts.name, parts.parameterNames, parts.constraints, parts.colon, parts.bounds,
    parts.equals, parts.type, parts.semicolon]⟩

namespace TypeParts

variable {parts : Grammar.TypeParts} [genuine : Genuine source parts]

instance name : Genuine source parts.name :=
  genuine.ofMember (by simp [HasNodes.nodes])

instance parameterNames : Genuine source parts.parameterNames :=
  genuine.ofMember (by simp [HasNodes.nodes])

instance constraints : Genuine source parts.constraints :=
  genuine.ofMember (by simp [HasNodes.nodes])

instance colon : Genuine source parts.colon :=
  genuine.ofMember (by simp [HasNodes.nodes])

instance bounds : Genuine source parts.bounds :=
  genuine.ofMember (by simp [HasNodes.nodes])

instance equals : Genuine source parts.equals :=
  genuine.ofMember (by simp [HasNodes.nodes])

instance type : Genuine source parts.type :=
  genuine.ofMember (by simp [HasNodes.nodes])

instance semicolon : Genuine source parts.semicolon :=
  genuine.ofMember (by simp [HasNodes.nodes])

end TypeParts

instance typeParts {name parameterNames constraints colon bounds equals type semicolon : Node}
    {hasColon : Bool} [Genuine source name] [Genuine source parameterNames]
    [Genuine source constraints] [Genuine source colon] [Genuine source bounds]
    [Genuine source equals] [Genuine source type] [Genuine source semicolon] :
    Genuine source (Grammar.TypeParts.mk name parameterNames constraints colon bounds hasColon
      equals type semicolon) :=
  ⟨(inferInstance : Genuine source
    [name, parameterNames, constraints, colon, bounds, equals, type, semicolon]).ofNodes⟩

instance : HasNodes Grammar.ImplHead :=
  ⟨fun parts => [parts.implemented, parts.type]⟩

namespace ImplHead

variable {parts : Grammar.ImplHead} [genuine : Genuine source parts]

instance implemented : Genuine source parts.implemented :=
  genuine.ofMember (by simp [HasNodes.nodes])

instance type : Genuine source parts.type :=
  genuine.ofMember (by simp [HasNodes.nodes])

end ImplHead

instance implHead {implemented type : Node} {isKept : Bool} [Genuine source implemented]
    [Genuine source type] : Genuine source (Grammar.ImplHead.mk implemented type isKept) :=
  ⟨(inferInstance : Genuine source [implemented, type]).ofNodes⟩

instance : HasNodes Grammar.ItemForm := ⟨fun _ => []⟩
instance : HasNoNodes Grammar.ItemForm := ⟨fun _ => rfl⟩

instance keptUseTree : Genuine source Grammar.keptUseTree := by
  unfold Grammar.keptUseTree
  infer_instance

end Genuine

namespace ReadsGenuine

variable {source : Source} [source.IsGrouped] [Rules] [Rules.AreGenuine source]

instance restriction : ReadsGenuine source Grammar.restriction := by
  unfold Grammar.restriction
  refine andThen inferInstance fun start _ => andThen inferInstance fun inside _ => ?_
  have content : Genuine source inside.content := inferInstance
  split
  next found same =>
      have := Genuine.of_some (same ▸ content)
      infer_instance
  next => infer_instance

instance visibility : ReadsGenuine source Grammar.visibility := by
  unfold Grammar.visibility
  refine andThen inferInstance fun _ _ => either ?_ inferInstance
  refine andThen inferInstance fun keyword _ => andThen inferInstance fun _ _ => ?_
  refine either (andThen inferInstance fun restriction genuine => ?_) inferInstance
  split
  next opening within path closing =>
      have parts := Genuine.enclosed_iff.mp (Genuine.of_some genuine)
      have inside := Genuine.pair_iff.mp parts.2.1
      have := parts.1
      have := parts.2.2
      have := inside.1
      have := inside.2
      infer_instance
  next => infer_instance

instance receiver {attributes : Node} [Genuine source attributes] :
    ReadsGenuine source (Grammar.receiver attributes) := by
  unfold Grammar.receiver
  infer_instance

instance parameter {attributes : Node} [Genuine source attributes] :
    ReadsGenuine source (Grammar.parameter attributes) := by
  unfold Grammar.parameter
  refine andThen inferInstance fun receiver genuine => ?_
  cases receiver with
  | none =>
      dsimp only
      infer_instance
  | some found =>
      have := Genuine.of_some genuine
      infer_instance

instance parameters : ReadsGenuine source Grammar.parameters := by
  unfold Grammar.parameters
  infer_instance

instance signatureOrSafe {allowSafe : Bool} :
    ReadsGenuine source (Grammar.signatureOrSafe allowSafe) := by
  unfold Grammar.signatureOrSafe
  infer_instance

instance signature : ReadsGenuine source Grammar.signature := by
  unfold Grammar.signature
  infer_instance

instance functionBehind {kind : Kind} {attributes : List Node} {visible mode declared : Node}
    [Holds kind.isOther] [Genuine source attributes] [Genuine source visible] [Genuine source mode]
    [Genuine source declared] :
    ReadsGenuine source (Grammar.functionBehind kind attributes visible mode declared) := by
  unfold Grammar.functionBehind
  infer_instance

/-! ## Items -/

instance untilEnd {element : Parser Node} [ReadsGenuine source element] :
    ReadsGenuine source (Grammar.untilEnd element) := by
  unfold Grammar.untilEnd
  infer_instance

instance memberBody {element : Parser Node} [ReadsGenuine source element]
    [ReadsFitting element] : ReadsGenuine source (Grammar.memberBody element) := by
  unfold Grammar.memberBody
  refine andThenYields inferInstance (.group (.pair yields_untilEnd)) ?_
  intro found genuine fits
  have : Genuine source (Tree.node .members [found.opening, found.content.2, found.closing]) :=
    Genuine.ofOccupants rfl fits
  infer_instance

instance item : ReadsGenuine source Grammar.item := by
  unfold Grammar.item
  infer_instance

instance namedField : ReadsGenuine source Grammar.namedField := by
  unfold Grammar.namedField
  infer_instance

instance tupleField : ReadsGenuine source Grammar.tupleField := by
  unfold Grammar.tupleField
  infer_instance

instance namedFields : ReadsGenuine source Grammar.namedFields := by
  unfold Grammar.namedFields
  infer_instance

instance tupleFields : ReadsGenuine source Grammar.tupleFields := by
  unfold Grammar.tupleFields
  infer_instance

instance structItem {attributes : Node} [Genuine source attributes] :
    ReadsGenuine source (Grammar.structItem attributes) := by
  unfold Grammar.structItem
  infer_instance

instance variant : ReadsGenuine source Grammar.variant := by
  unfold Grammar.variant
  infer_instance

instance enumItem {attributes : Node} [Genuine source attributes] :
    ReadsGenuine source (Grammar.enumItem attributes) := by
  unfold Grammar.enumItem
  infer_instance

instance unionItem {attributes : Node} [Genuine source attributes] :
    ReadsGenuine source (Grammar.unionItem attributes) := by
  unfold Grammar.unionItem
  infer_instance

instance identifierOrUnderscore : ReadsGenuine source Grammar.identifierOrUnderscore := by
  unfold Grammar.identifierOrUnderscore
  infer_instance

instance externCrateItem {attributes : Node} [Genuine source attributes] :
    ReadsGenuine source (Grammar.externCrateItem attributes) := by
  unfold Grammar.externCrateItem
  infer_instance

instance usePathBehind {name : Node} [Genuine source name] :
    ReadsGenuine source (Grammar.usePathBehind name) := by
  unfold Grammar.usePathBehind
  infer_instance

instance useGroup {allowRoot : Bool} : ReadsGenuine source (Grammar.useGroup allowRoot) := by
  unfold Grammar.useGroup
  infer_instance

instance useTree {allowRoot : Bool} : ReadsGenuine source (Grammar.useTree allowRoot) := by
  unfold Grammar.useTree
  infer_instance

instance useItem {start : Nat} {attributes : Node} [Genuine source attributes] :
    ReadsGenuine source (Grammar.useItem start attributes) := by
  unfold Grammar.useItem
  infer_instance

instance staticItem {start : Nat} {attributes : Node} [Genuine source attributes] :
    ReadsGenuine source (Grammar.staticItem start attributes) := by
  unfold Grammar.staticItem
  infer_instance

instance constBehind : ReadsGenuine source Grammar.constBehind := by
  unfold Grammar.constBehind
  infer_instance

instance constItem {start : Nat} {attributes : Node} [Genuine source attributes] :
    ReadsGenuine source (Grammar.constItem start attributes) := by
  unfold Grammar.constItem
  infer_instance

instance typeBehind {place : Grammar.WherePlace} :
    ReadsGenuine source (Grammar.typeBehind place) := by
  unfold Grammar.typeBehind
  infer_instance

instance typeItem {start : Nat} {attributes : Node} [Genuine source attributes] :
    ReadsGenuine source (Grammar.typeItem start attributes) := by
  unfold Grammar.typeItem
  infer_instance

instance moduleItem {attributes : Node} [Genuine source attributes] :
    ReadsGenuine source (Grammar.moduleItem attributes) := by
  unfold Grammar.moduleItem
  infer_instance

instance macroDefinition {start : Nat} : ReadsGenuine source (Grammar.macroDefinition start) := by
  unfold Grammar.macroDefinition
  infer_instance

instance invocationEnd {opening : Node} [Genuine source opening] :
    ReadsGenuine source (Grammar.invocationEnd opening) := by
  unfold Grammar.invocationEnd
  infer_instance

instance macroItem {attributes : Node} [Genuine source attributes] :
    ReadsGenuine source (Grammar.macroItem attributes) := by
  unfold Grammar.macroItem
  infer_instance

instance macroMember {attributes : Node} [Genuine source attributes] :
    ReadsGenuine source (Grammar.macroMember attributes) := by
  unfold Grammar.macroMember
  infer_instance

instance foreignMember : ReadsGenuine source Grammar.foreignMember := by
  unfold Grammar.foreignMember
  infer_instance

instance foreignModule {attributes : Node} [Genuine source attributes] :
    ReadsGenuine source (Grammar.foreignModule attributes) := by
  unfold Grammar.foreignModule
  infer_instance

instance superBounds {ending : Terminal} : ReadsGenuine source (Grammar.superBounds ending) := by
  unfold Grammar.superBounds
  infer_instance

end ReadsGenuine

/-! ## Methods

A member of an `impl` block or of a trait is genuine inside the block. -/

/-- Functions of a kind are members of blocks of another kind. -/
class IsMemberOf (kind home : Kind) : Prop where
  home?_eq : kind.home? = some home

instance : IsMemberOf .implFunction .implItem := ⟨rfl⟩
instance : IsMemberOf .traitFunction .traitItem := ⟨rfl⟩

instance GenuineInside.ofSubtype {source : Source} {around : List Kind}
    {tree : {tree // GenuineInside source around tree}} : GenuineInside source around tree.1 :=
  tree.2

instance GenuineInside.method {source : Source} {kind home : Kind} {parts : List Node}
    [isMember : IsMemberOf kind home] [genuine : Genuine source parts] :
    GenuineInside source home.insideOf (Tree.node kind parts) := by
  refine .node (fun other found => ?_) (.of_home? isMember.home?_eq) fun part within => ?_
  · cases isMember.home?_eq.symm.trans found
    exact List.prefix_rfl
  · exact (Genuine.list_iff.mp genuine part within).inside _

/-- A parser reads members of blocks of the kind. -/
class ReadsMember (source : Source) (home : Kind) (parser : Parser Node) : Prop where
  ofReading : ∀ cursor tree behind, reading source cursor parser = .ok (tree, behind) →
    GenuineInside source home.insideOf tree

namespace ReadsMember

section Steps

variable {source : Source} {home : Kind} {α : Type} [HasNodes α]

instance (priority := low) ofGenuine {parser : Parser Node}
    [genuine : ReadsGenuine source parser] : ReadsMember source home parser where
  ofReading _ _ _ read := (genuine.ofReading _ _ _ read).inside _

instance pure {tree : Node} [genuine : GenuineInside source home.insideOf tree] :
    ReadsMember source home (Pure.pure tree) where
  ofReading cursor result behind read := by
    cases read
    exact genuine

instance bind {parser : Parser α} {next : α → Parser Node} [first : ReadsGenuine source parser]
    [second : ∀ value : {value // Genuine source value}, ReadsMember source home (next value.1)] :
    ReadsMember source home (parser >>= next) where
  ofReading cursor result behind read := by
    rw [reading_bind] at read
    split at read
    next value middle reached =>
        exact (second ⟨value, first.ofReading _ _ _ reached⟩).ofReading _ _ _ read
    next => cases read

instance branch {condition : Prop} [Decidable condition] {yes no : Parser Node}
    [first : ReadsMember source home yes] [second : ReadsMember source home no] :
    ReadsMember source home (if condition then yes else no) := by
  split
  · exact first
  · exact second

/-- A step that reads a member, and is followed by one that changes it or passes it on. -/
instance (priority := low) bindMember {parser : Parser Node} {next : Node → Parser Node}
    [first : ReadsMember source home parser]
    [second : ∀ tree : {tree // GenuineInside source home.insideOf tree},
      ReadsMember source home (next tree.1)] :
    ReadsMember source home (parser >>= next) where
  ofReading cursor result behind read := by
    rw [reading_bind] at read
    split at read
    next tree middle reached =>
        exact (second ⟨tree, first.ofReading _ _ _ reached⟩).ofReading _ _ _ read
    next => cases read

end Steps

section Rules

variable {source : Source} [source.IsGrouped] [Rules] [Rules.AreGenuine source] {home : Kind}

instance functionBehind {kind : Kind} {attributes : List Node} {visible mode declared : Node}
    [IsMemberOf kind home] [Genuine source attributes] [Genuine source visible]
    [Genuine source mode] [Genuine source declared] :
    ReadsMember source home
      (Grammar.functionBehind kind attributes visible mode declared) := by
  unfold Grammar.functionBehind
  infer_instance

instance implMember : ReadsMember source .implItem Grammar.implMember := by
  unfold Grammar.implMember
  infer_instance

instance traitFunction : ReadsMember source .traitItem Grammar.traitFunction := by
  unfold Grammar.traitFunction
  infer_instance

instance traitMember : ReadsMember source .traitItem Grammar.traitMember := by
  unfold Grammar.traitMember
  infer_instance

omit [source.IsGrouped] [Rules] [Rules.AreGenuine source] in
theorem leaves_untilEnd {element : Parser Node} (inside : ReadsMember source home element)
    {cursor : Cursor} : Leaves source cursor (Grammar.untilEnd element) fun tree _ =>
      GenuineInside source [.members, home] tree := by
  refine .bind (.manyWhile fun cursor => inside.ofReading cursor) fun found _ all => .pure ?_
  exact .nodeAnywhere rfl (.of_isOther rfl) all

omit [source.IsGrouped] in
/-- The members of a block are genuine inside it. -/
theorem memberBody {element : Parser Node} (inside : ReadsMember source home element)
    [ReadsFitting element] {cursor behind : Cursor} {inner members : Node}
    (read : reading source cursor (Grammar.memberBody element) = .ok ((inner, members), behind)) :
    Genuine source inner ∧ GenuineInside source [home] members := by
  have content (start : Cursor) : Leaves source start
      (do let inner ← Grammar.innerAttributes; return (inner, ← Grammar.untilEnd element))
      fun both _ => Genuine source both.1 ∧ GenuineInside source [.members, home] both.2 :=
    .bind (fun _ _ read => ReadsGenuine.ofReading _ _ _ read) fun inner _ genuine =>
      .bind (leaves_untilEnd inside) fun tree _ genuine' => .pure ⟨genuine, genuine'⟩
  rw [Grammar.memberBody, reading_bind] at read
  split at read
  next found middle reached =>
      have brackets := Yields.brackets _ _ _ _ reached
      have fits := Yields.group (.pair yields_untilEnd) _ _ _ _ reached
      rcases Leaves.group (fun start _ => content start) found middle reached with
        ⟨-, _, genuine, within⟩
      rcases brackets with ⟨⟨opening, isOpening⟩, closing, isClosing⟩
      cases read
      refine ⟨inferInstance, .nodeAnywhere rfl (.of_holdsOccupants rfl fits) ?_⟩
      rw [isOpening, isClosing]
      simp only [List.forall_mem_cons]
      exact ⟨Genuine.leaf.inside _, within, Genuine.leaf.inside _, List.forall_mem_nil _⟩
  next => cases read

end Rules
end ReadsMember

namespace Genuine

variable {source : Source} {home : Kind}

/-- A node is genuine if its parts are, the last of them inside it. -/
theorem ofLast {front : List Node} {last : Node} (other : home.isOther = true)
    (genuine : Genuine source front) (inside : GenuineInside source [home] last) :
    Genuine source (Tree.node home (front ++ [last])) := by
  refine node_iff.mpr (.nodeAnywhere (Kind.home?_of_isOther other) (.of_isOther other) ?_)
  refine List.forall_mem_append.mpr ⟨fun part within => ?_, List.forall_mem_singleton.mpr inside⟩
  exact (list_iff.mp genuine part within).inside _

instance implItem {attributes inner mode safety keyword parameterNames constraints implemented
    type members : Node} [Genuine source attributes] [Genuine source inner] [Genuine source mode]
    [Genuine source safety] [Genuine source keyword] [Genuine source parameterNames]
    [Genuine source constraints] [Genuine source implemented] [Genuine source type]
    [inside : GenuineInside source [.implItem] members] :
    Genuine source (Tree.node .implItem [attributes, inner, mode, safety, keyword, parameterNames,
      constraints, implemented, type, members]) :=
  ofLast rfl (inferInstance : Genuine source [attributes, inner, mode, safety, keyword,
    parameterNames, constraints, implemented, type]) inside

instance traitItem {attributes inner visible safety auto keyword name parameterNames constraints
    colon bounds members : Node} [Genuine source attributes] [Genuine source inner]
    [Genuine source visible] [Genuine source safety] [Genuine source auto]
    [Genuine source keyword] [Genuine source name] [Genuine source parameterNames]
    [Genuine source constraints] [Genuine source colon] [Genuine source bounds]
    [inside : GenuineInside source [.traitItem] members] :
    Genuine source (Tree.node .traitItem [attributes, inner, visible, safety, auto, keyword, name,
      parameterNames, constraints, colon, bounds, members]) :=
  ofLast rfl (inferInstance : Genuine source [attributes, inner, visible, safety, auto, keyword,
    name, parameterNames, constraints, colon, bounds]) inside

end Genuine

namespace ReadsGenuine

variable {source : Source} [source.IsGrouped] [Rules] [Rules.AreGenuine source]

omit [source.IsGrouped] in
/-- What follows the members of a block makes them parts of it. -/
theorem blockThen {home : Kind} {element : Parser Node} {next : Node × Node → Parser Node}
    (inside : ReadsMember source home element) [ReadsFitting element]
    (second : ∀ (inner : {inner // Genuine source inner})
      (members : {members // GenuineInside source [home] members}),
      ReadsGenuine source (next (inner.1, members.1))) :
    ReadsGenuine source (Grammar.memberBody element >>= next) where
  ofReading cursor result behind read := by
    rw [reading_bind] at read
    split at read
    next both middle reached =>
        have genuine := inside.memberBody reached
        exact (second ⟨_, genuine.1⟩ ⟨_, genuine.2⟩).ofReading _ _ _ read
    next => cases read

section Blocks

variable {next : Node × Node → Parser Node}

instance implBlock [second : ∀ (inner : {inner // Genuine source inner})
    (members : {members // GenuineInside source [.implItem] members}),
    ReadsGenuine source (next (inner.1, members.1))] :
    ReadsGenuine source (Grammar.memberBody Grammar.implMember >>= next) :=
  blockThen ReadsMember.implMember second

instance traitBlock [second : ∀ (inner : {inner // Genuine source inner})
    (members : {members // GenuineInside source [.traitItem] members}),
    ReadsGenuine source (next (inner.1, members.1))] :
    ReadsGenuine source (Grammar.memberBody Grammar.traitMember >>= next) :=
  blockThen ReadsMember.traitMember second

end Blocks

instance traitBehind {attributes visible safety auto keyword name parameterNames : Node}
    [Genuine source attributes] [Genuine source visible] [Genuine source safety]
    [Genuine source auto] [Genuine source keyword] [Genuine source name]
    [Genuine source parameterNames] :
    ReadsGenuine source
      (Grammar.traitBehind attributes visible safety auto keyword name parameterNames) := by
  unfold Grammar.traitBehind
  infer_instance

instance qualifiedTrait {attributes : Node} [Genuine source attributes] :
    ReadsGenuine source (Grammar.qualifiedTrait attributes) := by
  unfold Grammar.qualifiedTrait
  infer_instance

instance traitOrAlias {attributes : Node} [Genuine source attributes] :
    ReadsGenuine source (Grammar.traitOrAlias attributes) := by
  unfold Grammar.traitOrAlias
  infer_instance

instance implHead : ReadsGenuine source Grammar.implHead := by
  unfold Grammar.implHead
  refine andThen inferInstance fun start _ => ?_
  refine andThen inferInstance fun _ _ => andThen inferInstance fun _ _ => ?_
  extract_lets behindPolarity
  have (polarity : {polarity // Genuine source polarity}) :
      ReadsGenuine source (behindPolarity polarity.1) := by
    refine andThen inferInstance fun first genuine => andThen inferInstance fun _ _ => ?_
    refine either ?_ inferInstance
    refine andThen inferInstance fun keyword _ => andThen inferInstance fun type _ => ?_
    split
    next parts =>
        have : Genuine source parts := (Genuine.cons_iff.mp genuine.parts).1.parts
        infer_instance
    next => infer_instance
  infer_instance

instance implItem {start : Nat} {attributes : Node} [Genuine source attributes] :
    ReadsGenuine source (Grammar.implItem start attributes) := by
  unfold Grammar.implItem
  infer_instance

instance functionItem {start : Nat} {attributes : List Node} [Genuine source attributes] :
    ReadsGenuine source (Grammar.functionItem start attributes) := by
  unfold Grammar.functionItem
  infer_instance

instance itemBehind {start : Nat} {attributes : List Node} [Genuine source attributes] :
    ReadsGenuine source (Grammar.itemBehind start attributes) := by
  unfold Grammar.itemBehind
  refine andThen inferInstance fun form _ => ?_
  cases form <;> infer_instance

instance file : ReadsGenuine source Grammar.file := by
  unfold Grammar.file
  refine andThen inferInstance fun inner _ => ?_
  refine andThenYields inferInstance yields_untilEnd fun items genuine fits => ?_
  have : Genuine source (Tree.node .file [.sequence inner, items]) :=
    Genuine.node rfl inferInstance (.of_holdsOccupants rfl fits)
  infer_instance

/-! ## All rules together -/

theorem rule {symbol : Symbol} (genuine : Genuine source symbol) :
    ReadsGenuine source (Grammar.rule symbol) := by
  unfold Grammar.rule
  cases symbol with
  | operators left allowStruct weakest =>
      have : Genuine source left := ⟨genuine.ofNodes⟩
      infer_instance
  | itemBehind start attributes =>
      have : Genuine source attributes := ⟨genuine.ofNodes⟩
      infer_instance
  | _ => infer_instance

omit [Rules] [Rules.AreGenuine source] in
/-- At depth zero nothing is read, and a name has its rule one level higher. -/
theorem interpret : ∀ (depth : Nat) (symbol : Symbol), Genuine source symbol →
    ReadsGenuine source (Grammar.interpret depth symbol)
  | 0, _, _ => throw
  | depth + 1, _, genuine =>
    have := @Rules.AreGenuine.mk source ⟨Grammar.interpret depth⟩ (areFitting_interpret depth)
      (interpret depth)
    @rule _ _ ⟨Grammar.interpret depth⟩ this _ genuine

end ReadsGenuine

namespace Source

/-- A bracket stands at a position. -/
def HasBracket (tokens : List Token) (position : Nat) : Prop :=
  ∃ token delimiter, tokens[position]? = some token ∧
    (token.lexeme = .opening delimiter ∨ token.lexeme = .closing delimiter)

/-- Behind every opening bracket among some tokens a group ends at a bracket, at the opening one
itself if no other closes it. -/
def EndsAtBrackets (all tokens : List Token) (ends : List Nat) : Prop :=
  ∀ (index : Nat) (token : Token) delimiter,
    tokens[index]? = some token → token.lexeme = .opening delimiter →
    ∃ behind, ends[index]? = some behind ∧ HasBracket all (behind - 1)

theorem EndsAtBrackets.cons {all tokens : List Token} {ends : List Nat} {token : Token}
    {groupEnd : Nat} (rest : EndsAtBrackets all tokens ends)
    (first : ∀ delimiter, token.lexeme = .opening delimiter → HasBracket all (groupEnd - 1)) :
    EndsAtBrackets all (token :: tokens) (groupEnd :: ends)
  | 0, _, delimiter, found, opening => by
      cases found
      exact ⟨groupEnd, rfl, first delimiter opening⟩
  | index + 1, other, delimiter, found, opening => rest index other delimiter found opening

theorem hasBracket_endsFrom (all : List Token) : ∀ (tokens : List Token) (start : Nat),
    all.drop start = tokens →
      (∀ behind ∈ (endsFrom start tokens).2, HasBracket all (behind - 1)) ∧
      EndsAtBrackets all tokens (endsFrom start tokens).1
  -- By recursion on the tokens, from behind: the ends of the groups that are still open come along
  -- as the second component, and each of them is a bracket too.
  | [], start, _ => by simp [endsFrom, EndsAtBrackets]
  | token :: rest, start, same => by
      have inside := hasBracket_endsFrom all rest (start + 1) (by
        rw [← List.drop_drop, same]
        rfl)
      have here : all[start]? = some token := by
        have := congrArg List.head? same
        rwa [List.head?_drop] at this
      rw [endsFrom]
      rcases ends : endsFrom (start + 1) rest with ⟨ends, closed⟩
      rw [ends] at inside
      dsimp only
      split
      next delimiter closing =>
          refine ⟨?_, inside.2.cons fun other opening => ?_⟩
          · exact List.forall_mem_cons.mpr ⟨⟨token, delimiter, here, .inr closing⟩, inside.1⟩
          · cases closing.symm.trans opening
      next delimiter opening =>
          cases closed with
          | nil =>
              refine ⟨List.forall_mem_nil _, inside.2.cons fun _ _ => ?_⟩
              exact ⟨token, delimiter, here, .inl opening⟩
          | cons groupEnd outer =>
              have brackets := List.forall_mem_cons.mp inside.1
              exact ⟨brackets.2, inside.2.cons fun _ _ => brackets.1⟩
      next _ noOpening =>
          exact ⟨inside.1, inside.2.cons fun other opening => absurd opening (noOpening other)⟩

instance isGrouped (tokens : List Token) : (ofTokens tokens).IsGrouped where
  notEquals position delimiter line opened := by
    rintro ⟨joint, line', equals⟩
    rcases (hasBracket_endsFrom tokens tokens 0 rfl).2 position _ delimiter
      (by simpa [ofTokens] using opened) rfl with ⟨behind, ends, token, delimiter', found, bracket⟩
    have same : behindTrees (ofTokens tokens) position 1 = behind := by
      simp [behindTrees, ofTokens, ends]
    rw [same] at equals
    have : tokens[behind - 1]? = some ⟨.mark "=" joint, line'⟩ := by simpa [ofTokens] using equals
    rw [found] at this
    cases this
    rcases bracket with bracket | bracket <;> cases bracket

end Source

/-- A parsed file is genuine. -/
theorem genuineTree_of_cite {source : Source} [source.IsGrouped] {tree : Node}
    (read : Grammar.cite Grammar.file source = .ok tree) : GenuineTree source tree := by
  have := @Rules.AreGenuine.mk source (Grammar.rulesFor source.tokens.size)
    (areFitting_interpret _) (ReadsGenuine.interpret _)
  have reads : ReadsGenuine source (@Grammar.file (Grammar.rulesFor source.tokens.size)) :=
    @ReadsGenuine.file source _ (Grammar.rulesFor source.tokens.size) this
  obtain ⟨_, reached, _, _⟩ := Grammar.cite_eq_ok_iff.mp read
  exact Genuine.node_iff.mp (reads.ofReading _ _ _ reached)

end Instrument
