import Instrument.Tree.Kind

/-!
# Syntax trees

A tree is a leaf or a node of some kind with its parts.  Every function that looks at a whole tree
is a recursion on this one shape, whatever the number of constructs of the language; only the
functions that care about a particular construct look at kinds.

The parts of a node stand in visiting order.  `Kind.written` rearranges what they contribute into
the order of the source, and `Tree.leaves` is the resulting sequence of leaves.
-/

namespace Instrument

/-- A syntax tree over leaves of the given type. -/
inductive Tree (α : Type) where
  | leaf (value : α)
  | node (kind : Kind) (parts : List (Tree α))
deriving Repr, Inhabited

namespace Kind

/-- Put the inner attributes behind the bracket that opens the body they belong to. -/
def insertInner {α : Type} (inner : List α) : List α → List α
  | [] => inner
  | opening :: rest => opening :: (inner ++ rest)

/-- What the parts of a node contribute, in the order of the source.  Inner attributes stand at the
start of the body, and a `where` clause stands behind the part that the comment of its kind puts
after it. -/
def written {α : Type} : Kind → List (List α) → List α
  | .function, [outer, inner, visibility, mode, head, body]
  | .implFunction, [outer, inner, visibility, mode, head, body]
  | .traitFunction, [outer, inner, visibility, mode, head, body]
  | .foreignFunction, [outer, inner, visibility, mode, head, body] =>
    outer ++ visibility ++ mode ++ head ++ insertInner inner body
  | .signature, [constant, async, safety, interface, keyword, name, parameters, constraints, opening,
      inputs, closing, output] =>
    constant ++ async ++ safety ++ interface ++ keyword ++ name ++ parameters ++ opening ++ inputs ++
      closing ++ output ++ constraints
  | .moduleItem, [outer, inner, visibility, safety, keyword, name, body] =>
    outer ++ visibility ++ safety ++ keyword ++ name ++ insertInner inner body
  | .foreignModule, [outer, inner, safety, interface, body] =>
    outer ++ safety ++ interface ++ insertInner inner body
  | .implItem, [outer, inner, mode, safety, keyword, parameters, constraints, implemented, described,
      body] =>
    outer ++ mode ++ safety ++ keyword ++ parameters ++ implemented ++ described ++ constraints ++
      insertInner inner body
  | .traitItem, [outer, inner, visibility, safety, auto, keyword, name, parameters, constraints,
      colon, bounds, body] =>
    outer ++ visibility ++ safety ++ auto ++ keyword ++ name ++ parameters ++ colon ++ bounds ++
      constraints ++ insertInner inner body
  | .traitAliasItem, [outer, visibility, keyword, name, parameters, constraints, equals, bounds,
      semicolon] =>
    outer ++ visibility ++ keyword ++ name ++ parameters ++ equals ++ bounds ++ constraints ++
      semicolon
  | .tupleStructItem, [outer, visibility, keyword, name, parameters, constraints, fields,
      semicolon] =>
    outer ++ visibility ++ keyword ++ name ++ parameters ++ fields ++ constraints ++ semicolon
  | .implTypeMember, [outer, visibility, mode, keyword, name, parameters, constraints, equals, described,
      semicolon] =>
    outer ++ visibility ++ mode ++ keyword ++ name ++ parameters ++ equals ++ described ++ constraints ++
      semicolon
  | .traitTypeMember, [outer, keyword, name, parameters, constraints, colon, bounds, equals, described,
      semicolon] =>
    outer ++ keyword ++ name ++ parameters ++ colon ++ bounds ++ equals ++ described ++ constraints ++
      semicolon
  | .blockExpression, [outer, inner, name, body] => outer ++ name ++ insertInner inner body
  | .constBlock, [outer, inner, keyword, body] => outer ++ keyword ++ insertInner inner body
  | .unsafeBlock, [outer, inner, keyword, body] => outer ++ keyword ++ insertInner inner body
  | .loopExpression, [outer, inner, name, keyword, body] =>
    outer ++ name ++ keyword ++ insertInner inner body
  | .whileLoop, [outer, inner, name, keyword, condition, body] =>
    outer ++ name ++ keyword ++ condition ++ insertInner inner body
  | .forLoop, [outer, inner, name, keyword, pattern, separator, iterated, body] =>
    outer ++ name ++ keyword ++ pattern ++ separator ++ iterated ++ insertInner inner body
  | .matchExpression, [outer, inner, keyword, scrutinee, body] =>
    outer ++ keyword ++ scrutinee ++ insertInner inner body
  | _, parts => parts.flatten

end Kind

namespace Tree

variable {α β : Type}

/-- The part that stands for something left out. -/
def absent : Tree α :=
  .node .absent []

def sequence (elements : List (Tree α)) : Tree α :=
  .node .sequence elements

def isAbsent : Tree α → Bool
  | .node .absent _ => true
  | _ => false

def isPresent (tree : Tree α) : Bool :=
  !tree.isAbsent

def isLeaf : Tree α → Bool
  | .leaf _ => true
  | .node _ _ => false

def kind? : Tree α → Option Kind
  | .leaf _ => none
  | .node kind _ => some kind

/-- The tree is a node of the given kind. -/
def isKind (kind : Kind) (tree : Tree α) : Bool :=
  tree.kind? == some kind

def parts : Tree α → List (Tree α)
  | .leaf _ => []
  | .node _ parts => parts

def value? : Tree α → Option α
  | .leaf value => some value
  | .node _ _ => none

/-- The leaves among the parts of a node: what a part without structure is made of. -/
def ownLeaves (tree : Tree α) : List α :=
  tree.parts.filterMap value?

/-- The elements of a sequence, without the separators between them. -/
def elements : Tree α → List (Tree α)
  | .node .sequence parts => parts.filter fun part => !part.isLeaf
  | _ => []

/-- A sequence without elements. -/
def isEmptySequence (tree : Tree α) : Bool :=
  tree.elements.isEmpty

/-- The last part of a sequence is a separator. -/
def hasTrailingSeparator (tree : Tree α) : Bool :=
  match tree.parts.getLast? with
  | some part => part.isLeaf
  | none => false

mutual

/-- The leaves of a tree in the order of the source. -/
def leaves : Tree α → List α
  | leaf value => [value]
  | node kind parts => kind.written (leavesOfParts parts)

def leavesOfParts : List (Tree α) → List (List α)
  | [] => []
  | part :: rest => leaves part :: leavesOfParts rest

end

mutual

/-- Change the leaves of a tree and keep its shape. -/
def map (change : α → β) : Tree α → Tree β
  | leaf value => leaf (change value)
  | node kind parts => node kind (mapParts change parts)

def mapParts (change : α → β) : List (Tree α) → List (Tree β)
  | [] => []
  | part :: rest => map change part :: mapParts change rest

end

mutual

def size : Tree α → Nat
  | leaf _ => 1
  | node _ parts => sizeOfParts parts + 1

/-- The number of nodes and leaves of all parts. -/
def sizeOfParts : List (Tree α) → Nat
  | [] => 0
  | part :: rest => size part + sizeOfParts rest

end

mutual

/-- Equality of trees is decided part by part. -/
def decEq [DecidableEq α] : (first second : Tree α) → Decidable (first = second)
  | leaf first, leaf second =>
    if same : first = second then isTrue (by rw [same])
    else isFalse fun equal => same (by injection equal)
  | leaf _, node _ _ => isFalse fun equal => by injection equal
  | node _ _, leaf _ => isFalse fun equal => by injection equal
  | node kind parts, node kind' parts' =>
    if sameKind : kind = kind' then
      match decEqParts parts parts' with
      | isTrue sameParts => isTrue (by rw [sameKind, sameParts])
      | isFalse different => isFalse fun equal => different (by injection equal)
    else isFalse fun equal => sameKind (by injection equal)

/-- Equality of lists of trees is decided element by element. -/
def decEqParts [DecidableEq α] : (first second : List (Tree α)) → Decidable (first = second)
  | [], [] => isTrue rfl
  | [], _ :: _ => isFalse fun equal => by injection equal
  | _ :: _, [] => isFalse fun equal => by injection equal
  | part :: rest, part' :: rest' =>
    match decEq part part' with
    | isTrue samePart =>
      match decEqParts rest rest' with
      | isTrue sameRest => isTrue (by rw [samePart, sameRest])
      | isFalse different => isFalse fun equal => different (by injection equal)
    | isFalse different => isFalse fun equal => different (by injection equal)

end

instance [DecidableEq α] : DecidableEq (Tree α) := decEq

end Tree
end Instrument
