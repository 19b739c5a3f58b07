import Instrument.Proofs.Housing
import Instrument.Proofs.Occupants

/-!
# Trees as they are read

Some things are known of every node that the grammar makes, and a tree is called genuine if they hold
of each of its nodes.  The first one is about values.  A documentation comment is read as an
attribute with a value, and the word in it is the only word of a parsed tree that need not stand in
the text; so no attribute that the tree has without arguments could have been one with a value: no
equals sign stands behind its path.  The second one is about occupants: what stands where items,
members and statements do fits there.  The third one is about names: a type that is a path has one.
Besides, a genuine tree is housed: its methods stand in blocks.

Attributes are read by one rule of the grammar, and occupants are put in their places by a few;
every other rule only puts trees together that it has been given.  That a rule reads genuine trees
is found by going through its steps, each of which calls another rule or builds a node.  The facts
about single steps are kept as instances, so that the proof about a rule is a search among them that
follows the text of the rule; only the rules that look into a tree they have read, and those that
make one of the two sorts of nodes, need a further word.
-/

namespace Instrument

open Instrument.Parser

-- A proof found among the instances counts what its steps share as often as they use it.
set_option synthInstance.maxSize 1000000000

/-! ## Values with trees in them -/

/-- An equals sign stands at a position of a source. -/
def Source.HasEquals (source : Source) (position : Nat) : Prop :=
  ∃ joint line, source.tokens[position]? = some ⟨.mark "=" joint, line⟩

/-- If the parts are those of an attribute without arguments, no equals sign stands behind its
path. -/
def NoValueBehind (source : Source) : List Node → Prop
  | [_, _, .node .metaPath [.node .path [_, segments]], _] =>
    ∀ name rest, segments.elements.getLast? = some (.node .segment (name :: rest)) →
      ∃ position, name = .leaf (.read position) ∧ ¬ source.HasEquals (position + 1)
  | _ => True

/-- The node with the given parts has no value in the source if it is an attribute without
arguments, its occupants fit, and it has a name if it is a type that is a path. -/
structure ProperNode (source : Source) (kind : Kind) (parts : List Node) : Prop where
  noValue : kind = .outerAttribute → NoValueBehind source parts
  fitsInside : FitsInside kind parts
  namesType : Tree.NamesType kind parts

/-- The nodes of a tree are as the grammar makes them, and its methods are members of blocks, with
nodes of the given kinds around the tree. -/
class GenuineInside (source : Source) (around : List Kind) (tree : Node) : Prop where
  proper : ∀ kind parts, (Tree.node kind parts).IsSubtree tree → ProperNode source kind parts
  housed : Housed around tree

/-- The tree is genuine whatever is around it. -/
abbrev GenuineTree (source : Source) (tree : Node) : Prop :=
  GenuineInside source [] tree

/-- The trees in a value that a parser reads. -/
class HasNodes (α : Type) where
  nodes : α → List Node

/-- A type whose values have no trees in them. -/
class HasNoNodes (α : Type) [HasNodes α] : Prop where
  nodes_eq_nil : ∀ value : α, HasNodes.nodes value = []

/-- The trees in a value are genuine. -/
class Genuine {α : Type} [HasNodes α] (source : Source) (value : α) : Prop where
  ofNodes : ∀ tree ∈ HasNodes.nodes value, GenuineTree source tree

/-- A parser reads genuine trees only. -/
class ReadsGenuine {α : Type} [HasNodes α] (source : Source) (parser : Parser α) : Prop where
  ofReading : ∀ cursor value behind,
    reading source cursor parser = .ok (value, behind) → Genuine source value

/-- Nothing has to be known of the parts of a node of the kind, nor of what is around it. -/
abbrev Kind.isOther : Kind → Bool
  | .outerAttribute | .file | .members | .block | .pathType | .implFunction | .traitFunction => false
  | _ => true

theorem Kind.home?_of_holdsOccupants {kind : Kind} (holds : kind.holdsOccupants = true) :
    kind.home? = none := by
  cases kind <;> first | rfl | cases holds

theorem Kind.home?_of_isOther {kind : Kind} (other : kind.isOther = true) : kind.home? = none := by
  cases kind <;> first | rfl | cases other

/-- Of nodes of most kinds nothing has to be known. -/
theorem ProperNode.of_isOther {source : Source} {kind : Kind} {parts : List Node}
    (other : kind.isOther = true) : ProperNode source kind parts where
  noValue same := by
    subst same
    cases other
  fitsInside := by
    refine fitsInside_of_not_holdsOccupants ?_
    cases kind <;> first | rfl | cases other
  namesType same := by
    subst same
    cases other

/-- Of methods nothing has to be known either. -/
theorem ProperNode.of_home? {source : Source} {kind home : Kind} {parts : List Node}
    (found : kind.home? = some home) : ProperNode source kind parts where
  noValue same := by
    subst same
    cases found
  fitsInside := by
    refine fitsInside_of_not_holdsOccupants ?_
    cases kind <;> first | rfl | cases found
  namesType same := by
    subst same
    cases found

/-- A node that holds occupants is no attribute. -/
theorem ProperNode.of_holdsOccupants {source : Source} {kind : Kind} {first : Node}
    {occupants : Node} {rest : List Node} (holds : kind.holdsOccupants = true)
    (fits : ∀ part ∈ occupants.elements, Fits part) :
    ProperNode source kind (first :: occupants :: rest) where
  noValue same := by
    subst same
    cases holds
  fitsInside part member := by
    rw [Tree.occupants, if_pos holds] at member
    exact fits part member
  namesType same := by
    subst same
    cases holds

namespace GenuineInside

variable {source : Source} {around : List Kind} {tree : Node}

theorem part {kind : Kind} {parts : List Node}
    (genuine : GenuineInside source around (.node kind parts)) {part : Node}
    (within : part ∈ parts) : GenuineInside source (kind :: around) part where
  proper other others inside := genuine.proper other others (.inside within inside)
  housed := genuine.housed.part within

theorem node {kind : Kind} {parts : List Node}
    (member : ∀ home, kind.home? = some home → home.insideOf <+: around)
    (proper : ProperNode source kind parts)
    (genuine : ∀ part ∈ parts, GenuineInside source (kind :: around) part) :
    GenuineInside source around (.node kind parts) where
  proper other others within := by
    cases within with
    | refl => exact proper
    | inside within inside => exact (genuine _ within).proper other others inside
  housed := .node member fun part within => (genuine part within).housed

/-- What is no method may stand anywhere. -/
theorem nodeAnywhere {kind : Kind} {parts : List Node} (noMethod : kind.home? = none)
    (proper : ProperNode source kind parts)
    (genuine : ∀ part ∈ parts, GenuineInside source (kind :: around) part) :
    GenuineInside source around (.node kind parts) := by
  refine .node (fun home found => ?_) proper genuine
  cases noMethod.symm.trans found

theorem append (genuine : GenuineInside source around tree) (outer : List Kind) :
    GenuineInside source (around ++ outer) tree where
  proper := genuine.proper
  housed := genuine.housed.append outer

end GenuineInside

section Types

variable {α β : Type} [HasNodes α] [HasNodes β]

instance : HasNodes Node := ⟨fun tree => [tree]⟩
instance : HasNodes (List α) := ⟨fun values => values.flatMap HasNodes.nodes⟩
instance : HasNodes (Option α) := ⟨fun value => value.toList.flatMap HasNodes.nodes⟩
instance : HasNodes (α × β) := ⟨fun pair => HasNodes.nodes pair.1 ++ HasNodes.nodes pair.2⟩
instance : HasNodes (Enclosed α) :=
  ⟨fun found => found.opening :: found.closing :: HasNodes.nodes found.content⟩

instance : HasNodes Bool := ⟨fun _ => []⟩
instance : HasNodes Nat := ⟨fun _ => []⟩
instance : HasNodes PUnit := ⟨fun _ => []⟩
instance : HasNodes String := ⟨fun _ => []⟩
instance : HasNodes Cursor := ⟨fun _ => []⟩
instance : HasNodes Source := ⟨fun _ => []⟩
instance : HasNodes Grammar.Strength := ⟨fun _ => []⟩
instance : HasNodes Grammar.InvocationRole := ⟨fun _ => []⟩

instance : HasNoNodes Bool := ⟨fun _ => rfl⟩
instance : HasNoNodes Nat := ⟨fun _ => rfl⟩
instance : HasNoNodes PUnit := ⟨fun _ => rfl⟩
instance : HasNoNodes String := ⟨fun _ => rfl⟩
instance : HasNoNodes Cursor := ⟨fun _ => rfl⟩
instance : HasNoNodes Source := ⟨fun _ => rfl⟩
instance : HasNoNodes Grammar.Strength := ⟨fun _ => rfl⟩
instance : HasNoNodes Grammar.InvocationRole := ⟨fun _ => rfl⟩

instance [HasNoNodes α] [HasNoNodes β] : HasNoNodes (α × β) where
  nodes_eq_nil pair := by
    change HasNodes.nodes pair.1 ++ HasNodes.nodes pair.2 = []
    rw [HasNoNodes.nodes_eq_nil, HasNoNodes.nodes_eq_nil, List.append_nil]

instance [HasNoNodes α] : HasNoNodes (Option α) where
  nodes_eq_nil value := by
    change value.toList.flatMap HasNodes.nodes = []
    rw [List.flatMap_eq_nil_iff]
    exact fun inside _ => HasNoNodes.nodes_eq_nil inside

end Types

/-! ## Genuine values -/

namespace Genuine

variable {α β : Type} [HasNodes α] [HasNodes β] {source : Source}

instance ofSubtype {value : {value : α // Genuine source value}} : Genuine source value.1 :=
  value.2

theorem node_iff {tree : Node} : Genuine source tree ↔ GenuineTree source tree := by
  constructor
  · intro genuine
    exact genuine.ofNodes tree (List.mem_singleton.mpr rfl)
  · intro genuine
    refine ⟨fun other member => ?_⟩
    rw [List.mem_singleton.mp member]
    exact genuine

theorem list_iff {values : List α} :
    Genuine source values ↔ ∀ value ∈ values, Genuine source value := by
  constructor
  · intro genuine value member
    exact ⟨fun tree inside =>
      genuine.ofNodes tree (List.mem_flatMap.mpr ⟨value, member, inside⟩)⟩
  · intro genuine
    refine ⟨fun tree inside => ?_⟩
    rcases List.mem_flatMap.mp inside with ⟨value, member, inside⟩
    exact (genuine value member).ofNodes tree inside

/-- A tree in a genuine value is genuine. -/
theorem ofMember {value : α} (genuine : Genuine source value) {tree : Node}
    (inside : tree ∈ HasNodes.nodes value) : Genuine source tree :=
  node_iff.mpr (genuine.ofNodes tree inside)

theorem pair_iff {first : α} {second : β} :
    Genuine source (first, second) ↔ Genuine source first ∧ Genuine source second := by
  constructor
  · intro genuine
    exact ⟨⟨fun tree inside => genuine.ofNodes tree (List.mem_append_left _ inside)⟩,
      ⟨fun tree inside => genuine.ofNodes tree (List.mem_append_right _ inside)⟩⟩
  · rintro ⟨genuine, genuine'⟩
    refine ⟨fun tree inside => ?_⟩
    rcases List.mem_append.mp inside with inside | inside
    · exact genuine.ofNodes tree inside
    · exact genuine'.ofNodes tree inside

theorem enclosed_iff {opening closing : Node} {content : α} :
    Genuine source (Enclosed.mk opening content closing) ↔
      Genuine source opening ∧ Genuine source content ∧ Genuine source closing := by
  constructor
  · intro genuine
    exact ⟨node_iff.mpr (genuine.ofNodes _ (by simp [HasNodes.nodes])),
      ⟨fun tree inside => genuine.ofNodes tree (by simp [HasNodes.nodes] at inside ⊢; tauto)⟩,
      node_iff.mpr (genuine.ofNodes _ (by simp [HasNodes.nodes]))⟩
  · rintro ⟨first, second, third⟩
    refine ⟨fun tree inside => ?_⟩
    rcases List.mem_cons.mp inside with rfl | inside
    · exact node_iff.mp first
    rcases List.mem_cons.mp inside with rfl | inside
    · exact node_iff.mp third
    · exact second.ofNodes tree inside

theorem cons_iff {value : α} {values : List α} :
    Genuine source (value :: values) ↔ Genuine source value ∧ Genuine source values := by
  rw [list_iff, list_iff, List.forall_mem_cons]

instance ofNoNodes [HasNoNodes α] {value : α} : Genuine source value where
  ofNodes tree inside := by
    rw [HasNoNodes.nodes_eq_nil] at inside
    cases inside

/-- What is genuine is so inside any nodes. -/
theorem inside {tree : Node} (genuine : Genuine source tree) (around : List Kind) :
    GenuineInside source around tree :=
  (node_iff.mp genuine).append around

/-- The parts of a genuine tree are genuine, but for the members of a block. -/
theorem parts {kind : Kind} {parts : List Node} [noBlock : Holds kind.isNoBlock]
    (genuine : Genuine source (Tree.node kind parts)) : Genuine source parts := by
  rw [list_iff]
  intro part within
  have inside := (node_iff.mp genuine).part within
  exact node_iff.mpr ⟨inside.proper, .of_isNoBlock noBlock.eq_true inside.housed⟩

/-- A node is genuine if its parts are and it is as the grammar makes it, unless it is a method. -/
theorem node {kind : Kind} {parts : List Node} (noMethod : kind.home? = none)
    (genuine : Genuine source parts) (proper : ProperNode source kind parts) :
    Genuine source (Tree.node kind parts) := by
  refine node_iff.mpr (.nodeAnywhere noMethod proper fun part within => ?_)
  exact (list_iff.mp genuine part within).inside [kind]

instance leaf {citation : Citation} : Genuine source (Tree.leaf citation) := by
  refine node_iff.mpr ⟨fun kind parts within => ?_, .leaf⟩
  cases within

instance otherNode {kind : Kind} {parts : List Node} [other : Holds kind.isOther]
    [genuine : Genuine source parts] : Genuine source (Tree.node kind parts) :=
  node (Kind.home?_of_isOther other.eq_true) genuine (.of_isOther other.eq_true)

instance sequence {parts : List Node} [Genuine source parts] :
    Genuine source (Tree.sequence parts) := by
  unfold Tree.sequence
  infer_instance

instance nil : Genuine source ([] : List α) :=
  list_iff.mpr fun _ member => by cases member

instance cons {value : α} {values : List α} [first : Genuine source value]
    [rest : Genuine source values] : Genuine source (value :: values) :=
  cons_iff.mpr ⟨first, rest⟩

/-- A node that holds occupants between brackets is genuine if they fit. -/
theorem ofOccupants {kind : Kind} {opening occupants closing : Node}
    (holds : kind.holdsOccupants = true) (fits : ∀ part ∈ occupants.elements, Fits part)
    [Genuine source opening] [Genuine source occupants] [Genuine source closing] :
    Genuine source (Tree.node kind [opening, occupants, closing]) :=
  node (Kind.home?_of_holdsOccupants holds) inferInstance (.of_holdsOccupants holds fits)

instance filter {values : List α} {condition : α → Bool} [genuine : Genuine source values] :
    Genuine source (values.filter condition) :=
  list_iff.mpr fun value member => list_iff.mp genuine value (List.mem_of_mem_filter member)

instance map {values : List α} {change : α → β} [genuine : Genuine source values]
    [changed : ∀ value : {value // Genuine source value}, Genuine source (change value.1)] :
    Genuine source (values.map change) := by
  rw [list_iff]
  intro result member
  rcases List.mem_map.mp member with ⟨value, inside, rfl⟩
  exact changed ⟨value, list_iff.mp genuine value inside⟩

instance flatten {values : List (List α)} [genuine : Genuine source values] :
    Genuine source values.flatten := by
  rw [list_iff]
  intro value member
  rcases List.mem_flatten.mp member with ⟨inner, inside, member⟩
  exact list_iff.mp (list_iff.mp genuine inner inside) value member

instance toList {value : Option α} [genuine : Genuine source value] :
    Genuine source value.toList :=
  ⟨fun tree inside => genuine.ofNodes tree inside⟩

instance absent : Genuine source (Tree.absent : Node) := by
  unfold Tree.absent
  infer_instance

instance append {first second : List α} [genuine : Genuine source first]
    [genuine' : Genuine source second] : Genuine source (first ++ second) :=
  list_iff.mpr (List.forall_mem_append.mpr ⟨list_iff.mp genuine, list_iff.mp genuine'⟩)

instance reverse {values : List α} [genuine : Genuine source values] :
    Genuine source values.reverse :=
  list_iff.mpr fun value member => list_iff.mp genuine value (List.mem_reverse.mp member)

instance partsOfSequence {parts : List Node} [genuine : Genuine source parts] :
    Genuine source (Tree.sequence parts).parts :=
  genuine

instance none : Genuine source (Option.none : Option α) where
  ofNodes tree inside := by cases inside

instance some {value : α} [genuine : Genuine source value] :
    Genuine source (Option.some value) where
  ofNodes tree inside := by
    rcases List.mem_flatMap.mp inside with ⟨other, member, inside⟩
    cases member with
    | head => exact genuine.ofNodes tree inside
    | tail _ impossible => cases impossible

theorem of_some {value : α} (genuine : Genuine source (Option.some value)) :
    Genuine source value where
  ofNodes tree inside := genuine.ofNodes tree
    (List.mem_flatMap.mpr ⟨value, by rw [Option.toList_some, List.mem_singleton], inside⟩)

instance pair {first : α} {second : β} [genuine : Genuine source first]
    [genuine' : Genuine source second] : Genuine source (first, second) :=
  pair_iff.mpr ⟨genuine, genuine'⟩

instance fst {pair : α × β} [genuine : Genuine source pair] : Genuine source pair.1 :=
  (pair_iff.mp genuine).1

instance snd {pair : α × β} [genuine : Genuine source pair] : Genuine source pair.2 :=
  (pair_iff.mp genuine).2

instance branch {condition : Prop} [Decidable condition] {yes no : α}
    [first : Genuine source yes] [second : Genuine source no] :
    Genuine source (if condition then yes else no) := by
  split
  · exact first
  · exact second

instance enclosed {opening closing : Node} {content : α} [first : Genuine source opening]
    [second : Genuine source content] [third : Genuine source closing] :
    Genuine source (Enclosed.mk opening content closing) :=
  enclosed_iff.mpr ⟨first, second, third⟩

section Enclosed

variable {found : Enclosed α} [genuine : Genuine source found]

instance opening : Genuine source found.opening :=
  (enclosed_iff.mp genuine).1

instance content : Genuine source found.content :=
  (enclosed_iff.mp genuine).2.1

instance closing : Genuine source found.closing :=
  (enclosed_iff.mp genuine).2.2

end Enclosed
end Genuine

/-! ## Ways to put parsers together -/

namespace ReadsGenuine

variable {α β : Type} [HasNodes α] [HasNodes β] {source : Source}

instance pure {value : α} [genuine : Genuine source value] :
    ReadsGenuine source (Pure.pure value : Parser α) where
  ofReading cursor result behind read := by
    cases read
    exact genuine

theorem andThen {parser : Parser α} {next : α → Parser β} (first : ReadsGenuine source parser)
    (second : ∀ value, Genuine source value → ReadsGenuine source (next value)) :
    ReadsGenuine source (parser >>= next) where
  ofReading cursor result behind read := by
    rw [reading_bind] at read
    split at read
    next value middle reached =>
        exact (second value (first.ofReading _ _ _ reached)).ofReading _ _ _ read
    next => cases read

/-- Of what a step reads, more may be known than that it is genuine. -/
theorem andThenYields {property : α → Prop} {parser : Parser α} {next : α → Parser β}
    (first : ReadsGenuine source parser) (known : Yields parser property)
    (second : ∀ value, Genuine source value → property value → ReadsGenuine source (next value)) :
    ReadsGenuine source (parser >>= next) where
  ofReading cursor result behind read := by
    rw [reading_bind] at read
    split at read
    next value middle reached =>
        have genuine := first.ofReading _ _ _ reached
        exact (second value genuine (known _ _ _ _ reached)).ofReading _ _ _ read
    next => cases read

/-- The search among the instances forgets what no later step mentions.  The values that are read
are therefore given together with the proof that they are genuine. -/
instance bind {parser : Parser α} {next : α → Parser β} [first : ReadsGenuine source parser]
    [second : ∀ value : {value // Genuine source value}, ReadsGenuine source (next value.1)] :
    ReadsGenuine source (parser >>= next) :=
  andThen first fun value genuine => second ⟨value, genuine⟩

instance throw {failure : Failure} :
    ReadsGenuine source (MonadExcept.throw failure : Parser α) where
  ofReading cursor result behind read := by cases read

instance branch {condition : Prop} [Decidable condition] {yes no : Parser α}
    [first : ReadsGenuine source yes] [second : ReadsGenuine source no] :
    ReadsGenuine source (if condition then yes else no) := by
  split
  · exact first
  · exact second

theorem either {condition : Prop} [Decidable condition] {yes no : Parser α}
    (first : ReadsGenuine source yes) (second : ReadsGenuine source no) :
    ReadsGenuine source (if condition then yes else no) :=
  branch

/-- What is read without trees in it needs no proof. -/
instance (priority := high) ofNoNodes [HasNoNodes α] {parser : Parser α} :
    ReadsGenuine source parser :=
  ⟨fun _ _ _ _ => inferInstance⟩

instance failHere {cause : Cause} : ReadsGenuine source (Parser.failHere cause : Parser α) := by
  unfold Parser.failHere
  infer_instance

instance refuse {reason : String} : ReadsGenuine source (Parser.refuse reason : Parser α) := by
  unfold Parser.refuse
  infer_instance

instance failExpected {alternatives : List Terminal} :
    ReadsGenuine source (Parser.failExpected alternatives : Parser α) := by
  unfold Parser.failExpected
  infer_instance

instance group {delimiter : Delimiter} {content : Parser α} [ReadsGenuine source content] :
    ReadsGenuine source (Parser.group delimiter content) := by
  unfold Parser.group
  infer_instance

instance attempt {parser : Parser α} [genuine : ReadsGenuine source parser] :
    ReadsGenuine source (Parser.attempt parser) where
  ofReading cursor result behind read := by
    rw [reading_attempt] at read
    split at read
    next value behind reached =>
        cases read
        have := genuine.ofReading _ _ _ reached
        infer_instance
    next =>
        cases read
        infer_instance

/-- What every step keeps genuine is genuine after any number of steps. -/
theorem iterate {step : α → Parser (Option α)}
    (keeps : ∀ value, Genuine source value → ReadsGenuine source (step value)) :
    ∀ (fuel : Nat) (value : α), Genuine source value →
      ReadsGenuine source (Parser.iterate step fuel value)
  | 0, _, _ => pure
  | fuel + 1, value, genuine => by
      refine andThen (keeps value genuine) fun next genuine' => ?_
      cases next with
      | none => exact pure
      | some next => exact iterate keeps fuel next (Genuine.of_some genuine')

theorem repeatedly {initial : α} {step : α → Parser (Option α)}
    (genuine : Genuine source initial)
    (keeps : ∀ value, Genuine source value → ReadsGenuine source (step value)) :
    ReadsGenuine source (Parser.repeating initial step) :=
  andThen inferInstance fun count _ => iterate keeps (count + 1) initial genuine

instance repeating {initial : α} {step : α → Parser (Option α)}
    [genuine : Genuine source initial]
    [keeps : ∀ value : {value // Genuine source value}, ReadsGenuine source (step value.1)] :
    ReadsGenuine source (Parser.repeating initial step) :=
  repeatedly genuine fun value genuine => keeps ⟨value, genuine⟩

/-! ## Single tokens and lists -/

instance take : ReadsGenuine source Parser.take := by
  unfold Parser.take
  infer_instance

instance word {text : String} : ReadsGenuine source (Parser.word text) := by
  unfold Parser.word
  infer_instance

instance mark {text : String} : ReadsGenuine source (Parser.mark text) := by
  unfold Parser.mark
  infer_instance

instance optionalWord {text : String} : ReadsGenuine source (Parser.optionalWord text) := by
  unfold Parser.optionalWord
  infer_instance

instance optionalMark {text : String} : ReadsGenuine source (Parser.optionalMark text) := by
  unfold Parser.optionalMark
  infer_instance

instance identifier : ReadsGenuine source Parser.identifier := by
  refine andThen inferInstance fun cursor _ => andThen inferInstance fun tokens _ => ?_
  split <;> infer_instance

instance anyWord : ReadsGenuine source Parser.anyWord := by
  unfold Parser.anyWord
  infer_instance

instance lifetime : ReadsGenuine source Parser.lifetime := by
  unfold Parser.lifetime
  infer_instance

instance optionalLifetime : ReadsGenuine source Parser.optionalLifetime := by
  unfold Parser.optionalLifetime
  infer_instance

theorem genuine_keptBetween (start stop : Nat) : Genuine source (keptBetween start stop) := by
  rw [Genuine.list_iff]
  intro kept member
  rcases List.mem_map.mp member with ⟨position, _, rfl⟩
  infer_instance

instance keepRest : ReadsGenuine source Parser.keepRest := by
  have (start stop : Nat) : Genuine source (keptBetween start stop) :=
    genuine_keptBetween start stop
  unfold Parser.keepRest
  infer_instance

instance keptSince {start : Nat} : ReadsGenuine source (Parser.keptSince start) := by
  have (start stop : Nat) : Genuine source (keptBetween start stop) :=
    genuine_keptBetween start stop
  unfold Parser.keptSince
  infer_instance

section Lists

variable {condition ending : Parser Bool} {element separator : Parser Node}
  [ReadsGenuine source element] [ReadsGenuine source separator]

instance manyWhile : ReadsGenuine source (Parser.manyWhile condition element) := by
  unfold Parser.manyWhile
  infer_instance

instance separatedUntil :
    ReadsGenuine source (Parser.separatedUntil ending element separator) := by
  unfold Parser.separatedUntil
  infer_instance

instance separatedWhile {separator : String} :
    ReadsGenuine source (Parser.separatedWhile ending element separator) := by
  unfold Parser.separatedWhile
  infer_instance

instance commaSeparated : ReadsGenuine source (Parser.commaSeparated element) := by
  unfold Parser.commaSeparated
  infer_instance

end Lists
end ReadsGenuine

end Instrument
