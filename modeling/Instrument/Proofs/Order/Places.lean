import Instrument.Proofs.Genuine.Trees
import Instrument.Proofs.Order.Landmarks

/-!
# The places of landmarks

A tree that is being read cites tokens by their positions, so its landmarks are places in the
source.  What a rule of the grammar puts together is made of what it has read, and its places are
those of its parts one after the other, up to the detours that `Kind.restInSource` takes back.

`Draws` says that some places are known in their order at the end of others.  The facts about it are
instances, one for each way in which rules put things together, so that they are found by a search
that follows the text of a rule.
-/

namespace Instrument

open Instrument.Parser

-- A proof found among the instances counts what its steps share as often as they use it.
set_option synthInstance.maxSize 1000000000

/-! ## Places -/

/-- The position that a citation is about. -/
def Citation.position : Citation → Nat
  | read position | kept position | operator position _ | number position | piece position _ _
  | dot position | implied _ position => position

namespace Source

variable (source : Source)

/-- The position that a leaf cites.  What is no leaf counts as standing behind the end. -/
def place : Node → Nat
  | .leaf citation => citation.position
  | .node _ _ => source.tokens.size

/-- The positions of the landmarks of a tree. -/
def places (tree : Node) : List Nat :=
  tree.landmarks.map source.place

end Source

/-- Where the landmarks are in a value that a parser reads. -/
class HasPlaces (α : Type) where
  places : Source → α → List Nat

/-- Where the landmarks are in what a loop has put together so far, most of which is listed
backwards. -/
class HasTrail (α : Type) where
  trail : Source → α → List Nat

def Source.placesIn {α : Type} [HasPlaces α] (source : Source) (value : α) : List Nat :=
  HasPlaces.places source value

def Source.trailIn {α : Type} [HasTrail α] (source : Source) (value : α) : List Nat :=
  HasTrail.trail source value

/-- A type whose values have no landmarks in them. -/
class HasNoPlaces (α : Type) [HasPlaces α] : Prop where
  placesIn_eq_nil : ∀ (source : Source) (value : α), source.placesIn value = []

section Types

variable {α β : Type} [HasPlaces α] [HasPlaces β] [HasTrail α] [HasTrail β]

instance : HasPlaces Node := ⟨Source.places⟩
instance instHasPlacesList : HasPlaces (List α) :=
  ⟨fun source values => values.flatMap source.placesIn⟩
instance instHasPlacesOption : HasPlaces (Option α) :=
  ⟨fun source value => source.placesIn value.toList⟩
instance instHasPlacesProd : HasPlaces (α × β) :=
  ⟨fun source pair => source.placesIn pair.1 ++ source.placesIn pair.2⟩
instance : HasPlaces (Enclosed α) :=
  ⟨fun source found =>
    source.placesIn found.opening ++ source.placesIn found.content ++ source.placesIn found.closing⟩

instance : HasPlaces Bool := ⟨fun _ _ => []⟩
instance : HasPlaces Nat := ⟨fun _ _ => []⟩
instance : HasPlaces PUnit := ⟨fun _ _ => []⟩
instance : HasPlaces String := ⟨fun _ _ => []⟩
instance : HasPlaces Cursor := ⟨fun _ _ => []⟩
instance : HasPlaces Source := ⟨fun _ _ => []⟩
instance : HasPlaces Grammar.Strength := ⟨fun _ _ => []⟩
instance : HasPlaces Grammar.InvocationRole := ⟨fun _ _ => []⟩
instance : HasPlaces Grammar.ItemForm := ⟨fun _ _ => []⟩

instance : HasNoPlaces Bool := ⟨fun _ _ => rfl⟩
instance : HasNoPlaces Nat := ⟨fun _ _ => rfl⟩
instance : HasNoPlaces PUnit := ⟨fun _ _ => rfl⟩
instance : HasNoPlaces String := ⟨fun _ _ => rfl⟩
instance : HasNoPlaces Cursor := ⟨fun _ _ => rfl⟩
instance : HasNoPlaces Source := ⟨fun _ _ => rfl⟩
instance : HasNoPlaces Grammar.Strength := ⟨fun _ _ => rfl⟩
instance : HasNoPlaces Grammar.InvocationRole := ⟨fun _ _ => rfl⟩
instance : HasNoPlaces Grammar.ItemForm := ⟨fun _ _ => rfl⟩

instance [HasNoPlaces α] [HasNoPlaces β] : HasNoPlaces (α × β) where
  placesIn_eq_nil source pair := by
    change source.placesIn pair.1 ++ source.placesIn pair.2 = []
    rw [HasNoPlaces.placesIn_eq_nil, HasNoPlaces.placesIn_eq_nil, List.append_nil]

instance [HasNoPlaces α] : HasNoPlaces (Option α) where
  placesIn_eq_nil source value := by
    change value.toList.flatMap _ = []
    rw [List.flatMap_eq_nil_iff]
    exact fun inside _ => HasNoPlaces.placesIn_eq_nil source inside

instance : HasTrail Node := ⟨Source.places⟩
instance : HasTrail (List Node) := ⟨fun source found => source.placesIn found.reverse⟩
instance : HasTrail Bool := ⟨fun _ _ => []⟩
instance : HasTrail (α × β) :=
  ⟨fun source pair => source.trailIn pair.1 ++ source.trailIn pair.2⟩

end Types

namespace Source

variable {α : Type} [HasPlaces α] (source : Source)

theorem placesIn_nil : source.placesIn ([] : List α) = [] :=
  rfl

theorem placesIn_cons (first : α) (others : List α) :
    source.placesIn (first :: others) = source.placesIn first ++ source.placesIn others :=
  List.flatMap_cons

theorem placesIn_single (value : α) : source.placesIn [value] = source.placesIn value :=
  List.append_nil _

theorem placesIn_append (first second : List α) :
    source.placesIn (first ++ second) = source.placesIn first ++ source.placesIn second :=
  List.flatMap_append

end Source

/-- A record consists of trees that stand in the source one behind the other. -/
class IsRecord {α : Type} [HasPlaces α] (record : α) (parts : outParam (List Node)) : Prop where
  placesIn_eq : ∀ source : Source, source.placesIn record = source.placesIn parts

/-! ## What is taken from the places that are known -/

/-- Known places have the wanted ones in order at their end, behind some that are left. -/
class Draws (had wanted : List Nat) (rest : outParam (List Nat)) : Prop where
  sublist : (rest ++ wanted).Sublist had

namespace Draws

variable {α β : Type} [HasPlaces α] [HasPlaces β] [HasTrail α] [HasTrail β] {source : Source}
  {had known wanted middle rest : List Nat}

theorem of_eq {same : List Nat} (equal : wanted = same) (drawn : Draws had same rest) :
    Draws had wanted rest := by
  rw [equal]
  exact drawn

theorem of_nil (nothing : wanted = []) : Draws had wanted had :=
  ⟨by rw [nothing, List.append_nil]⟩

/-- Fewer places can be drawn where more could be. -/
theorem of_sublist {more : List Nat} (within : wanted.Sublist more) (drawn : Draws had more rest) :
    Draws had wanted rest :=
  ⟨(within.append_left rest).trans drawn.sublist⟩

/-- Two lists of places are drawn one after the other, the last one first. -/
theorem both {first second : List Nat} (drawn : Draws had second middle)
    (drawn' : Draws middle first rest) : Draws had (first ++ second) rest where
  sublist := by
    rw [← List.append_assoc]
    exact (drawn'.sublist.append_right second).trans drawn.sublist

instance found : Draws (had ++ wanted) wanted had :=
  ⟨List.Sublist.refl _⟩

instance alone : Draws wanted wanted [] :=
  ⟨List.Sublist.refl _⟩

instance (priority := low) skip [drawn : Draws had wanted rest] :
    Draws (had ++ known) wanted rest :=
  ⟨drawn.sublist.trans (List.sublist_append_left _ _)⟩

/-! What is wanted is taken apart. -/

instance nothing : Draws had [] had :=
  of_nil rfl

instance appended {first second : List Nat} [drawn : Draws had second middle]
    [drawn' : Draws middle first rest] : Draws had (first ++ second) rest :=
  both drawn drawn'

instance ofNoPlaces [HasNoPlaces α] {value : α} : Draws had (source.placesIn value) had :=
  of_nil (HasNoPlaces.placesIn_eq_nil source value)

instance leaf {citation : Citation} : Draws had (source.placesIn (Tree.leaf citation : Node)) had :=
  of_nil rfl

instance nil : Draws had (source.placesIn ([] : List α)) had :=
  of_nil rfl

instance cons {first : α} {others : List α}
    [drawn : Draws had (source.placesIn others) middle]
    [drawn' : Draws middle (source.placesIn first) rest] :
    Draws had (source.placesIn (first :: others)) rest :=
  of_eq (source.placesIn_cons first others) (both drawn drawn')

instance append {first second : List α} [drawn : Draws had (source.placesIn second) middle]
    [drawn' : Draws middle (source.placesIn first) rest] :
    Draws had (source.placesIn (first ++ second)) rest :=
  of_eq (source.placesIn_append first second) (both drawn drawn')

instance reverseNil : Draws had (source.placesIn ([] : List α).reverse) had :=
  of_nil rfl

instance reverseCons {first : α} {others : List α}
    [drawn : Draws had (source.placesIn first) middle]
    [drawn' : Draws middle (source.placesIn others.reverse) rest] :
    Draws had (source.placesIn (first :: others).reverse) rest := by
  refine of_eq ?_ (both drawn drawn')
  rw [List.reverse_cons, source.placesIn_append, source.placesIn_cons, source.placesIn_nil,
    List.append_nil]

instance reverseAppend {first second : List α}
    [drawn : Draws had (source.placesIn first.reverse) middle]
    [drawn' : Draws middle (source.placesIn second.reverse) rest] :
    Draws had (source.placesIn (first ++ second).reverse) rest := by
  refine of_eq ?_ (both drawn drawn')
  rw [List.reverse_append, source.placesIn_append]

instance none : Draws had (source.placesIn (none : Option α)) had :=
  of_nil rfl

instance some {value : α} [drawn : Draws had (source.placesIn value) rest] :
    Draws had (source.placesIn (some value)) rest :=
  of_eq (List.append_nil _) drawn

instance pair {pair : α × β} [drawn : Draws had (source.placesIn pair.2) middle]
    [drawn' : Draws middle (source.placesIn pair.1) rest] : Draws had (source.placesIn pair) rest :=
  both drawn drawn'

instance record {record : α} {parts : List Node} [same : IsRecord record parts]
    [drawn : Draws had (source.placesIn parts) rest] : Draws had (source.placesIn record) rest :=
  of_eq (same.placesIn_eq source) drawn

/-! What a loop has is taken apart in the same way. -/

instance trailNode {value : Node} [drawn : Draws had (source.placesIn value) rest] :
    Draws had (source.trailIn value) rest :=
  drawn

instance trailList {values : List Node} [drawn : Draws had (source.placesIn values.reverse) rest] :
    Draws had (source.trailIn values) rest :=
  drawn

instance trailBool {value : Bool} : Draws had (source.trailIn value) had :=
  of_nil rfl

instance trailPair {pair : α × β} [drawn : Draws had (source.trailIn pair.2) middle]
    [drawn' : Draws middle (source.trailIn pair.1) rest] :
    Draws had (source.trailIn pair) rest :=
  both drawn drawn'

instance trailSome {value before : α} [drawn : Draws had (source.trailIn value) rest] :
    Draws had (source.trailIn ((Option.some value).getD before)) rest :=
  drawn

instance trailNone {before : α} [drawn : Draws had (source.trailIn before) rest] :
    Draws had (source.trailIn ((Option.none : Option α).getD before)) rest :=
  drawn

/-! And so is what is known. -/

instance (priority := high) knownNoPlaces [HasNoPlaces α] {value : α}
    [drawn : Draws had wanted rest] :
    Draws (had ++ source.placesIn value) wanted rest :=
  ⟨drawn.sublist.trans (List.sublist_append_left _ _)⟩

instance (priority := high) knownPair {pair : α × β}
    [drawn : Draws (had ++ source.placesIn pair.1 ++ source.placesIn pair.2) wanted rest] :
    Draws (had ++ source.placesIn pair) wanted rest :=
  ⟨by rw [List.append_assoc] at drawn; exact drawn.sublist⟩

instance (priority := high) knownNil [drawn : Draws had wanted rest] :
    Draws (had ++ source.placesIn ([] : List α)) wanted rest :=
  ⟨by rw [source.placesIn_nil, List.append_nil]; exact drawn.sublist⟩

instance (priority := high) knownCons {first : α} {others : List α}
    [drawn : Draws (had ++ source.placesIn first ++ source.placesIn others) wanted rest] :
    Draws (had ++ source.placesIn (first :: others)) wanted rest :=
  ⟨by rw [List.append_assoc, ← source.placesIn_cons] at drawn; exact drawn.sublist⟩

instance (priority := high) knownRecord {record : α} {parts : List Node}
    [same : IsRecord record parts] [drawn : Draws (had ++ source.placesIn parts) wanted rest] :
    Draws (had ++ source.placesIn record) wanted rest :=
  ⟨same.placesIn_eq source ▸ drawn.sublist⟩

instance (priority := high) knownEnclosed {found : Enclosed α}
    [drawn : Draws (had ++ source.placesIn found.opening ++ source.placesIn found.content ++
      source.placesIn found.closing) wanted rest] :
    Draws (had ++ source.placesIn found) wanted rest :=
  ⟨by rw [List.append_assoc, List.append_assoc, ← List.append_assoc (source.placesIn found.opening)]
        at drawn
      exact drawn.sublist⟩

instance (priority := high) knownTrailNode {value : Node}
    [drawn : Draws (had ++ source.placesIn value) wanted rest] :
    Draws (had ++ source.trailIn value) wanted rest :=
  drawn

instance (priority := high) knownTrailList {values : List Node}
    [drawn : Draws (had ++ source.placesIn values.reverse) wanted rest] :
    Draws (had ++ source.trailIn values) wanted rest :=
  drawn

instance (priority := high) knownTrailBool {value : Bool} [drawn : Draws had wanted rest] :
    Draws (had ++ source.trailIn value) wanted rest :=
  ⟨drawn.sublist.trans (List.sublist_append_left _ _)⟩

instance (priority := high) knownTrailPair {pair : α × β}
    [drawn : Draws (had ++ source.trailIn pair.1 ++ source.trailIn pair.2) wanted rest] :
    Draws (had ++ source.trailIn pair) wanted rest :=
  ⟨by rw [List.append_assoc] at drawn; exact drawn.sublist⟩

end Draws

/-! ## Nodes -/

/-- There are no landmarks in a tree. -/
class IsBare (tree : Node) : Prop where
  landmarks_eq_nil : tree.landmarks = []

theorem Source.placesIn_of_isBare (source : Source) (tree : Node) [bare : IsBare tree] :
    source.placesIn tree = [] := by
  change List.map _ _ = _
  rw [bare.landmarks_eq_nil, List.map_nil]

/-- The node has the landmarks of its parts, and no others. -/
abbrev Kind.isTransparent : Kind → Bool
  | .outerAttribute | .innerAttribute | .function | .implFunction | .traitFunction
  | .foreignFunction | .lifetime | .lifetimeParameter | .assign | .binary | .cast => false
  | _ => true

section Transparent

variable {kind : Kind} (transparent : kind.isTransparent = true)

include transparent

theorem Kind.isLifetime_of_isTransparent : kind.isLifetime = false := by
  cases kind <;> first | rfl | cases transparent

theorem Kind.isOperator_of_isTransparent : kind.isOperator = false := by
  cases kind <;> first | rfl | cases transparent

theorem Tree.ownLandmark_of_isTransparent (parts : List Node) : ownLandmark kind parts = [] := by
  cases kind <;> first | rfl | cases transparent

end Transparent

section Nodes

variable {source : Source} {had wanted middle rest : List Nat} {kind : Kind}

/-- What the first part of a node has stands in front, whatever else the node has. -/
theorem Source.placesIn_node (source : Source) (noLifetime : kind.isLifetime = false)
    (noOperator : kind.isOperator = false) (first : Node) (parts : List Node) :
    source.placesIn (Tree.node kind (first :: parts)) =
      source.placesIn first ++ (Tree.ownLandmark kind (first :: parts)).map source.place ++
        source.placesIn (kind.restInSource parts) := by
  change List.map _ _ = _
  rw [Tree.landmarks_node noLifetime, noOperator, if_neg Bool.false_ne_true, List.map_append,
    List.map_append, List.map_flatMap]
  rfl

theorem Source.placesIn_operator (source : Source) (isOperator : kind.isOperator = true)
    (first : Node) (parts : List Node) :
    source.placesIn (Tree.node kind (first :: parts)) = source.placesIn parts := by
  change List.map _ _ = _
  cases kind <;> try cases isOperator
  all_goals
    rw [Tree.landmarks_node rfl, if_pos rfl, List.map_append, List.map_flatMap]
    rfl

theorem Source.placesIn_node_nil (source : Source) (transparent : kind.isTransparent = true) :
    source.placesIn (Tree.node kind [] : Node) = [] := by
  change List.map _ _ = _
  rw [Tree.landmarks, Kind.isLifetime_of_isTransparent transparent, if_neg Bool.false_ne_true]
  change List.map _ (Tree.ownLandmark kind []) = _
  rw [Tree.ownLandmark_of_isTransparent transparent, List.map_nil]

theorem Source.placesIn_absent (source : Source) : source.placesIn (Tree.absent : Node) = [] :=
  source.placesIn_node_nil rfl

theorem Source.placesIn_lifetime (source : Source) (lifetime : kind.isLifetime = true)
    (parts : List Node) : source.placesIn (Tree.node kind parts) = [] := by
  change List.map _ _ = _
  rw [Tree.landmarks, if_pos lifetime, List.map_nil]

theorem Source.placesIn_of_isTransparent (source : Source) (transparent : kind.isTransparent = true)
    (inOrder : ∀ parts : List Node, kind.restInSource parts = parts) (parts : List Node) :
    source.placesIn (Tree.node kind parts) = source.placesIn parts := by
  cases parts with
  | nil => exact source.placesIn_node_nil transparent
  | cons first parts =>
      rw [source.placesIn_node (Kind.isLifetime_of_isTransparent transparent)
        (Kind.isOperator_of_isTransparent transparent), inOrder,
        Tree.ownLandmark_of_isTransparent transparent, List.map_nil, List.append_nil]
      rfl

theorem Source.placesIn_sequence (source : Source) (parts : List Node) :
    source.placesIn (Tree.node .sequence parts) = source.placesIn parts :=
  source.placesIn_of_isTransparent rfl (fun _ => rfl) parts

/-- A node with a single part has the places of that part. -/
theorem Source.placesIn_node_single (source : Source) (transparent : kind.isTransparent = true)
    (inOrder : ∀ parts : List Node, kind.restInSource parts = parts) (only : Node) :
    source.placesIn (Tree.node kind [only]) = source.placesIn only := by
  rw [source.placesIn_of_isTransparent transparent inOrder, source.placesIn_single]

theorem Source.placesIn_sequence_single (only : Node) :
    source.placesIn (Tree.node .sequence [only]) = source.placesIn only :=
  source.placesIn_node_single rfl (fun _ => rfl) only

theorem Source.placesIn_node_pair (source : Source) (transparent : kind.isTransparent = true)
    (inOrder : ∀ parts : List Node, kind.restInSource parts = parts) (first second : Node) :
    source.placesIn (Tree.node kind [first, second]) =
      source.placesIn first ++ source.placesIn second := by
  rw [source.placesIn_of_isTransparent transparent inOrder, source.placesIn_cons,
    source.placesIn_single]

theorem Source.placesIn_keptBetween (source : Source) (start stop : Nat) :
    source.placesIn (keptBetween start stop) = [] := by
  change List.flatMap _ _ = []
  rw [List.flatMap_eq_nil_iff]
  intro kept member
  rcases List.mem_map.mp member with ⟨position, _, rfl⟩
  rfl

instance IsBare.leaf {citation : Citation} : IsBare (.leaf citation) :=
  ⟨by rw [Tree.landmarks]⟩

instance IsBare.absent : IsBare .absent :=
  ⟨rfl⟩

theorem IsBare.of_isLeaf {tree : Node} (isLeaf : tree.isLeaf = true) : IsBare tree := by
  cases tree with
  | leaf citation => exact .leaf
  | node kind parts => cases isLeaf

theorem IsBare.of_isTransparent {kind : Kind} (transparent : kind.isTransparent = true)
    (inOrder : ∀ parts : List Node, kind.restInSource parts = parts) {parts : List Node}
    (bare : ∀ part ∈ parts, IsBare part) : IsBare (Tree.node kind parts) := by
  refine ⟨?_⟩
  cases parts with
  | nil =>
      rw [Tree.landmarks, Kind.isLifetime_of_isTransparent transparent,
        if_neg Bool.false_ne_true]
      exact Tree.ownLandmark_of_isTransparent transparent _
  | cons first rest =>
      rw [Tree.landmarks_node (Kind.isLifetime_of_isTransparent transparent), inOrder,
        Kind.isOperator_of_isTransparent transparent, if_neg Bool.false_ne_true,
        Tree.ownLandmark_of_isTransparent transparent, List.append_nil,
        (bare first (.head _)).landmarks_eq_nil, List.nil_append, List.flatMap_eq_nil_iff]
      exact fun part member => (bare part (.tail _ member)).landmarks_eq_nil

namespace Draws

instance node [transparent : Holds kind.isTransparent] {first : Node} {parts : List Node}
    [drawn : Draws had (source.placesIn (kind.restInSource parts)) middle]
    [drawn' : Draws middle (source.placesIn first) rest] :
    Draws had (source.placesIn (Tree.node kind (first :: parts))) rest := by
  refine of_eq (source.placesIn_node (Kind.isLifetime_of_isTransparent transparent.eq_true)
    (Kind.isOperator_of_isTransparent transparent.eq_true) first parts) ?_
  rw [Tree.ownLandmark_of_isTransparent transparent.eq_true, List.map_nil, List.append_nil]
  exact both drawn drawn'

instance operator [isOperator : Holds kind.isOperator] {first : Node} {parts : List Node}
    [drawn : Draws had (source.placesIn parts) rest] :
    Draws had (source.placesIn (Tree.node kind (first :: parts))) rest :=
  of_eq (source.placesIn_operator isOperator.eq_true first parts) drawn

instance absent : Draws had (source.placesIn (Tree.absent : Node)) had :=
  of_nil source.placesIn_absent

instance bare {tree : Node} [bare : IsBare tree] : Draws had (source.placesIn tree) had :=
  of_nil (source.placesIn_of_isBare tree)

instance lifetime {parts : List Node} :
    Draws had (source.placesIn (Tree.node .lifetime parts)) had :=
  of_nil (source.placesIn_lifetime rfl parts)

instance lifetimeParameter {parts : List Node} :
    Draws had (source.placesIn (Tree.node .lifetimeParameter parts)) had :=
  of_nil (source.placesIn_lifetime rfl parts)

instance sequenceNode {parts : List Node} [drawn : Draws had (source.placesIn parts) rest] :
    Draws had (source.placesIn (Tree.node .sequence parts)) rest :=
  of_eq (source.placesIn_sequence parts) drawn

instance sequence {parts : List Node} [drawn : Draws had (source.placesIn parts) rest] :
    Draws had (source.placesIn (Tree.sequence parts)) rest :=
  sequenceNode

instance partsOfSequence {parts : List Node} [drawn : Draws had (source.placesIn parts) rest] :
    Draws had (source.placesIn (Tree.sequence parts).parts) rest :=
  drawn

instance verbatim {parts : List Node} [drawn : Draws had (source.placesIn parts) rest] :
    Draws had (source.placesIn (Tree.node .verbatim parts)) rest :=
  of_eq (source.placesIn_of_isTransparent rfl (fun _ => rfl) parts) drawn

instance keptBetween {start stop : Nat} :
    Draws had (source.placesIn (keptBetween start stop)) had :=
  of_nil (source.placesIn_keptBetween start stop)

end Draws
end Nodes

end Instrument
