import Instrument.Proofs.Parsing

/-!
# What stands where items, members and statements stand

A file, the braces of a module, of an `impl` block, of a trait or of an `extern` block, and a block
of statements each hold a sequence of constructs, their occupants here.  The grammar puts something
there in three ways: as a node of one of the kinds that a scan looks at, as nothing but its tokens,
or as a statement that declares nothing.  The arms of a `match` share the kind of node that holds
members, so they come as a fourth.

That every rule keeps to this is found by going through its steps.  Most steps are about parts of
an occupant, of which nothing has to be known; what counts is the node that is built in the end.
The facts are kept as instances, so that the proof about a rule is a search that follows its text.
-/

namespace Instrument

open Instrument.Parser

-- A proof found among the instances counts what its steps share as often as they use it.
set_option synthInstance.maxSize 1000000000

namespace Kind

/-- A node of the kind holds occupants, as its second part. -/
def holdsOccupants : Kind → Bool
  | .file | .members | .block => true
  | _ => false

/-- An occupant of the kind is neither an item nor a member. -/
abbrev isStatementOrArm : Kind → Bool
  | .letStatement | .expressionStatement | .macroStatement | .arm => true
  | _ => false

/-- The parts behind the outer attributes of an item or a member of the kind. -/
abbrev isStructured {α : Type} : Kind → List α → Bool
  -- The places are written out because the search among instances computes with patterns only.
  -- functions
  | .function, [_, _, _, _, _] | .implFunction, [_, _, _, _, _]
  | .traitFunction, [_, _, _, _, _] | .foreignFunction, [_, _, _, _, _] => true
  -- items
  | .constItem, [_, _, _, _, _, _, _, _] | .enumItem, [_, _, _, _, _, _, _, _]
  | .externCrateItem, [_, _, _, _, _, _, _] | .foreignModule, [_, _, _, _]
  | .implItem, [_, _, _, _, _, _, _, _, _] | .macroItem, _ | .moduleItem, [_, _, _, _, _, _]
  | .staticItem, [_, _, _, _, _, _, _, _, _] | .structItem, [_, _, _, _, _, _, _]
  | .tupleStructItem, [_, _, _, _, _, _, _] | .traitItem, [_, _, _, _, _, _, _, _, _, _, _]
  | .traitAliasItem, [_, _, _, _, _, _, _, _] | .typeItem, [_, _, _, _, _, _, _, _]
  | .unionItem, [_, _, _, _, _, _] | .useItem, _ => true
  -- members
  | .implConst, [_, _, _, _, _, _, _, _, _] | .implTypeMember, [_, _, _, _, _, _, _, _, _]
  | .traitConst, [_, _, _, _, _, _, _] | .traitTypeMember, [_, _, _, _, _, _, _, _, _]
  | .foreignStatic, [_, _, _, _, _, _, _] | .foreignType, [_, _, _, _, _, _]
  | .macroMember, _ => true
  | _, _ => false

end Kind

namespace Tree

variable {α : Type}

/-- The occupants of a node with the given parts. -/
def occupants (kind : Kind) (parts : List (Tree α)) : List (Tree α) :=
  if kind.holdsOccupants then (parts.getD 1 .absent).elements else []

/-- The tree is an item or a member with all the parts of its kind. -/
abbrev isStructured : Tree α → Bool
  | .node kind (_ :: behind) => kind.isStructured behind
  | _ => false

/-- Of the tree there is nothing but its tokens. -/
def isKept : Tree α → Bool
  | .node .verbatim parts => parts.all isLeaf
  | _ => false

end Tree

/-- A statement that computing decides. -/
class Holds (statement : Bool) : Prop where
  eq_true : statement = true

instance : Holds true := ⟨rfl⟩

/-- The tree can stand where items, members and statements do. -/
class inductive Fits {α : Type} (tree : Tree α) : Prop where
  | structured (isStructured : tree.isStructured = true)
  | kept (isKept : tree.isKept = true)
  | aside (kind : Kind) (same : tree.kind? = some kind) (isAside : kind.isStatementOrArm = true)

/-- A parser reads what can stand where items, members and statements do. -/
class ReadsFitting (parser : Parser Node) : Prop where
  yields : Yields parser Fits

/-- All occupants of the node with the given parts fit there. -/
def FitsInside {α : Type} (kind : Kind) (parts : List (Tree α)) : Prop :=
  ∀ occupant ∈ Tree.occupants kind parts, Fits occupant

theorem fitsInside_of_not_holdsOccupants {α : Type} {kind : Kind} {parts : List (Tree α)}
    (holdsNone : kind.holdsOccupants = false) : FitsInside kind parts := by
  intro occupant member
  rw [Tree.occupants, if_neg (by simp [holdsNone])] at member
  cases member

/-- An interpretation of the names of rules that puts only what fits where items and statements
stand. -/
class Rules.AreFitting [Rules] : Prop where
  itemBehind : ∀ start attributes, Yields (Rules.parse (.itemBehind start attributes)) Fits
  statements : Yields (Rules.parse .statements) fun tree => ∀ part ∈ tree.elements, Fits part

namespace Fits

instance ofStructured {tree : Node} [holds : Holds tree.isStructured] : Fits tree :=
  structured holds.eq_true

instance ofAside {kind : Kind} {parts : List Node} [holds : Holds kind.isStatementOrArm] :
    Fits (Tree.node kind parts) :=
  aside kind rfl holds.eq_true

instance ofSubtype {value : {value : Node // Fits value}} : Fits value.1 :=
  value.2

/-- Attributes are put in front of what fits as it is. -/
instance addAttributes {attributes : List Node} {tree : Node} [fits : Fits tree] :
    Fits (Grammar.addAttributes attributes tree) := by
  unfold Grammar.addAttributes
  split
  next => exact fits
  next kind found parts _ =>
      cases fits with
      | structured isStructured => exact structured isStructured
      | kept isKept => cases kind <;> cases isKept
      | aside other same isAside =>
          cases same
          exact aside kind rfl isAside
  next => exact fits

theorem verbatim_keptBetween (start stop : Nat) :
    Fits (Tree.node .verbatim (keptBetween start stop)) := by
  refine kept (List.all_eq_true.mpr fun part member => ?_)
  rcases List.mem_map.mp member with ⟨position, _, rfl⟩
  rfl

end Fits

/-! ## Ways to put parsers together -/

namespace ReadsFitting

variable {α : Type}

instance pure {tree : Node} [fits : Fits tree] : ReadsFitting (Pure.pure tree) :=
  ⟨Yields.pure fits⟩

instance bind {parser : Parser α} {next : α → Parser Node}
    [second : ∀ value, ReadsFitting (next value)] : ReadsFitting (parser >>= next) :=
  ⟨Yields.after fun value => (second value).yields⟩

instance branch {condition : Prop} [Decidable condition] {yes no : Parser Node}
    [first : ReadsFitting yes] [second : ReadsFitting no] :
    ReadsFitting (if condition then yes else no) := by
  split
  · exact first
  · exact second

/-- A step that reads an occupant, and is followed by one that passes it on. -/
instance (priority := low) bindFitting {parser : Parser Node} {next : Node → Parser Node}
    [first : ReadsFitting parser]
    [second : ∀ value : {value : Node // Fits value}, ReadsFitting (next value.1)] :
    ReadsFitting (parser >>= next) :=
  ⟨Yields.bind first.yields fun value fits => (second ⟨value, fits⟩).yields⟩

instance failHere {cause : Cause} : ReadsFitting (Parser.failHere cause) :=
  ⟨Yields.failHere cause⟩

instance failExpected {alternatives : List Terminal} :
    ReadsFitting (Parser.failExpected alternatives) := by
  unfold Parser.failExpected
  infer_instance

instance keptSince {start : Nat} : ReadsFitting (Parser.keptSince start) :=
  ⟨Yields.after fun _ => Yields.pure (Fits.verbatim_keptBetween _ _)⟩

variable [Rules] [rules : Rules.AreFitting]

instance itemBehind {start : Nat} {attributes : List Node} :
    ReadsFitting (Rules.parse (.itemBehind start attributes)) :=
  ⟨rules.itemBehind start attributes⟩

end ReadsFitting

/-! ## Items -/

namespace ReadsFitting

open Grammar

variable [Rules]

instance functionBehind {kind : Kind} {attributes : List Node} {visible mode declared : Node}
    [∀ outer inner body : Node,
      Fits (Tree.node kind [outer, inner, visible, mode, declared, body])] :
    ReadsFitting (Grammar.functionBehind kind attributes visible mode declared) := by
  unfold Grammar.functionBehind
  infer_instance

instance structItem {attributes : Node} : ReadsFitting (Grammar.structItem attributes) := by
  unfold Grammar.structItem
  infer_instance

instance enumItem {attributes : Node} : ReadsFitting (Grammar.enumItem attributes) := by
  unfold Grammar.enumItem
  infer_instance

instance unionItem {attributes : Node} : ReadsFitting (Grammar.unionItem attributes) := by
  unfold Grammar.unionItem
  infer_instance

instance externCrateItem {attributes : Node} :
    ReadsFitting (Grammar.externCrateItem attributes) := by
  unfold Grammar.externCrateItem
  infer_instance

instance useItem {start : Nat} {attributes : Node} :
    ReadsFitting (Grammar.useItem start attributes) := by
  unfold Grammar.useItem
  infer_instance

instance staticItem {start : Nat} {attributes : Node} :
    ReadsFitting (Grammar.staticItem start attributes) := by
  unfold Grammar.staticItem
  infer_instance

instance constItem {start : Nat} {attributes : Node} :
    ReadsFitting (Grammar.constItem start attributes) := by
  unfold Grammar.constItem
  infer_instance

instance typeItem {start : Nat} {attributes : Node} :
    ReadsFitting (Grammar.typeItem start attributes) := by
  unfold Grammar.typeItem
  infer_instance

instance moduleItem {attributes : Node} : ReadsFitting (Grammar.moduleItem attributes) := by
  unfold Grammar.moduleItem
  infer_instance

instance macroDefinition {start : Nat} : ReadsFitting (Grammar.macroDefinition start) := by
  unfold Grammar.macroDefinition
  infer_instance

instance macroItem {attributes : Node} : ReadsFitting (Grammar.macroItem attributes) := by
  unfold Grammar.macroItem
  infer_instance

instance foreignModule {attributes : Node} :
    ReadsFitting (Grammar.foreignModule attributes) := by
  unfold Grammar.foreignModule
  infer_instance

instance traitBehind {attributes visible safety auto keyword name parameterNames : Node} :
    ReadsFitting
      (Grammar.traitBehind attributes visible safety auto keyword name parameterNames) := by
  unfold Grammar.traitBehind
  infer_instance

instance qualifiedTrait {attributes : Node} :
    ReadsFitting (Grammar.qualifiedTrait attributes) := by
  unfold Grammar.qualifiedTrait
  infer_instance

instance traitOrAlias {attributes : Node} : ReadsFitting (Grammar.traitOrAlias attributes) := by
  unfold Grammar.traitOrAlias
  infer_instance

instance implItem {start : Nat} {attributes : Node} :
    ReadsFitting (Grammar.implItem start attributes) := by
  unfold Grammar.implItem
  infer_instance

instance functionItem {start : Nat} {attributes : List Node} :
    ReadsFitting (Grammar.functionItem start attributes) := by
  unfold Grammar.functionItem
  infer_instance

theorem ofForm {start : Nat} {attributes : List Node} :
    ReadsFitting (Grammar.itemBehind start attributes) := by
  unfold Grammar.itemBehind
  refine ⟨Yields.after fun form => ?_⟩
  cases form <;> exact (inferInstance : ReadsFitting _).yields

variable [Rules.AreFitting]

instance item : ReadsFitting Grammar.item := by
  unfold Grammar.item
  infer_instance

/-! ## Members -/

instance macroMember {attributes : Node} : ReadsFitting (Grammar.macroMember attributes) := by
  unfold Grammar.macroMember
  infer_instance

instance foreignMember : ReadsFitting Grammar.foreignMember := by
  unfold Grammar.foreignMember
  infer_instance

instance implMember : ReadsFitting Grammar.implMember := by
  unfold Grammar.implMember
  infer_instance

instance arm : ReadsFitting Grammar.arm := by
  unfold Grammar.arm
  infer_instance

instance traitFunction : ReadsFitting Grammar.traitFunction := by
  unfold Grammar.traitFunction
  infer_instance

instance traitMember : ReadsFitting Grammar.traitMember := by
  unfold Grammar.traitMember
  infer_instance

/-! ## Statements -/

instance letStatement {attributes : List Node} :
    ReadsFitting (Grammar.letStatement attributes) := by
  unfold Grammar.letStatement
  infer_instance

instance expressionStatement {attributes : List Node} :
    ReadsFitting (Grammar.expressionStatement attributes) := by
  unfold Grammar.expressionStatement
  refine ⟨Yields.after fun expression => Yields.after fun semicolon => ?_⟩
  split <;> exact (inferInstance : ReadsFitting _).yields

instance statement : ReadsFitting Grammar.statement := by
  unfold Grammar.statement
  refine ⟨Yields.after fun start => Yields.after fun attributes => Yields.after fun role => ?_⟩
  cases role <;> exact (inferInstance : ReadsFitting _).yields

end ReadsFitting

/-! ## Whole sequences -/

theorem forall_elements_sequence {property : Node → Prop} {parts : List Node}
    (all : ∀ part ∈ parts, property part) :
    ∀ part ∈ (Tree.sequence parts).elements, property part :=
  fun part member => all part (List.mem_filter.mp member).1

theorem yields_untilEnd {element : Parser Node} [inside : ReadsFitting element] :
    Yields (Grammar.untilEnd element) fun tree => ∀ part ∈ tree.elements, Fits part :=
  .bind (.manyWhile inside.yields) fun _ all => .pure (forall_elements_sequence all)

theorem yields_statements [Rules] [Rules.AreFitting] :
    Yields Grammar.statements fun tree => ∀ part ∈ tree.elements, Fits part := by
  have joined {next : Node} {found : List Node} (fits : Fits next)
      (all : ∀ part ∈ found, Fits part) :
      ∀ behind ∈ some (next :: found), ∀ part ∈ behind, Fits part := by
    rintro _ ⟨⟩
    exact List.forall_mem_cons.mpr ⟨fits, all⟩
  refine .bind (?_ : Yields _ fun found => ∀ part ∈ found, Fits part) fun found all => ?_
  · refine .repeating (fun found all => .after fun isEmpty => .ite ?_ ?_) nofun
    · exact .after fun semicolon => .pure (joined inferInstance all)
    · refine .after fun isLast => .ite (.pure nofun) ?_
      refine .bind ReadsFitting.yields fun next fits => ?_
      refine .after fun isLast => .after fun isOpen => ?_
      exact .ite (.failHere _) (.pure (joined fits all))
  · exact .pure (forall_elements_sequence fun part member => all part (List.mem_reverse.mp member))

/-- A name has its rule one level higher, and no rule puts anything else where items, members and
statements stand. -/
theorem areFitting_interpret (depth : Nat) : @Rules.AreFitting ⟨Grammar.interpret depth⟩ := by
  induction depth with
  | zero => exact @Rules.AreFitting.mk ⟨_⟩ (fun _ _ => Yields.throw _) (Yields.throw _)
  | succ depth inductionHypothesis =>
      let _ : Rules := ⟨Grammar.interpret depth⟩
      exact @Rules.AreFitting.mk ⟨_⟩ (fun _ _ => ReadsFitting.ofForm.yields) yields_statements

end Instrument
