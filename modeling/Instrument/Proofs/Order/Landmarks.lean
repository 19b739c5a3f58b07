import Instrument.Proofs.Traversal

/-!
# Landmarks

Every entry of a scan has the line of one token: the sign that an attribute starts with, or the
keyword of a function.  These tokens are the landmarks of a tree.  They are listed in the order in
which the source has them, which is not always the order in which the parts of a node are visited:
attributes inside a body are visited before what stands in front of the body, and a `where` clause
together with the parameters it constrains.
-/

namespace Instrument

namespace Kind

section InSource

variable {β : Type}

/-- The parts of a node behind its first one in the order of the source.  Inner attributes are put
back in front of the body; a `where` clause that stands elsewhere in the source is left out. -/
@[reducible] def restInSource : Kind → List β → List β
  | .function, [inner, visible, mode, head, body]
  | .implFunction, [inner, visible, mode, head, body]
  | .traitFunction, [inner, visible, mode, head, body]
  | .foreignFunction, [inner, visible, mode, head, body] => [visible, mode, head, inner, body]
  | .signature, [async, safety, interface, keyword, name, parameters, _, opening, inputs, closing,
      output] =>
    [async, safety, interface, keyword, name, parameters, opening, inputs, closing, output]
  | .moduleItem, [inner, visible, safety, keyword, name, body] =>
    [visible, safety, keyword, name, inner, body]
  | .foreignModule, [inner, safety, interface, body] => [safety, interface, inner, body]
  | .implItem, [inner, mode, safety, keyword, parameters, _, implemented, described, body] =>
    [mode, safety, keyword, parameters, implemented, described, inner, body]
  | .traitItem, [inner, visible, safety, auto, keyword, name, parameters, _, colon, bounds, body] =>
    [visible, safety, auto, keyword, name, parameters, colon, bounds, inner, body]
  | .traitAliasItem, [visible, keyword, name, parameters, _, equals, bounds, semicolon]
  | .typeItem, [visible, keyword, name, parameters, _, equals, bounds, semicolon] =>
    [visible, keyword, name, parameters, equals, bounds, semicolon]
  | .tupleStructItem, [visible, keyword, name, parameters, _, fields, semicolon] =>
    [visible, keyword, name, parameters, fields, semicolon]
  | .implTypeMember, [visible, mode, keyword, name, parameters, _, equals, described, semicolon] =>
    [visible, mode, keyword, name, parameters, equals, described, semicolon]
  | .traitTypeMember, [keyword, name, parameters, _, colon, bounds, equals, described, semicolon] =>
    [keyword, name, parameters, colon, bounds, equals, described, semicolon]
  | .foreignType, [visible, keyword, name, parameters, _, semicolon] =>
    [visible, keyword, name, parameters, semicolon]
  | .blockExpression, [inner, name, body] => [name, inner, body]
  | .constBlock, [inner, keyword, body] | .unsafeBlock, [inner, keyword, body] =>
    [keyword, inner, body]
  | .loopExpression, [inner, name, keyword, body] => [name, keyword, inner, body]
  | .whileLoop, [inner, name, keyword, condition, body] => [name, keyword, condition, inner, body]
  | .forLoop, [inner, name, keyword, pattern, separator, iterated, body] =>
    [name, keyword, pattern, separator, iterated, inner, body]
  | .matchExpression, [inner, keyword, scrutinee, body] => [keyword, scrutinee, inner, body]
  | _, rest => rest

/-- Arranging parts is the same before and after they are changed. -/
theorem restInSource_map {γ : Type} (change : β → γ) (kind : Kind) (rest : List β) :
    kind.restInSource (rest.map change) = (kind.restInSource rest).map change := by
  -- Most kinds leave the parts where they are; for the others their number decides.
  cases kind <;> try rfl
  all_goals
    rcases rest with _ | ⟨_, _ | ⟨_, _ | ⟨_, _ | ⟨_, _ | ⟨_, _ | ⟨_, _ | ⟨_, _ | ⟨_, _ | ⟨_,
      _ | ⟨_, _ | ⟨_, _ | ⟨_, _⟩⟩⟩⟩⟩⟩⟩⟩⟩⟩⟩⟩ <;> rfl

/-- A lifetime, or the declaration of one.  A tree has those in front of what else stands between
the same angle brackets. -/
def isLifetime : Kind → Bool
  | .lifetime | .lifetimeParameter => true
  | _ => false

/-- An operator behind its first operand, to which the attributes in front of it belong. -/
abbrev isOperator : Kind → Bool
  | .assign | .binary | .cast => true
  | _ => false

/-- The parts of a node that are not visited where the source has them, and those in whose place
the source has nothing. -/
def detached : Kind → List β → List β
  | .lifetime, parts | .lifetimeParameter, parts => parts
  | .assign, outer :: _ | .binary, outer :: _ | .cast, outer :: _ => [outer]
  | .function, [_, inner, _, _, _, _] | .implFunction, [_, inner, _, _, _, _]
  | .traitFunction, [_, inner, _, _, _, _] | .foreignFunction, [_, inner, _, _, _, _]
  | .moduleItem, [_, inner, _, _, _, _, _] | .foreignModule, [_, inner, _, _, _]
  | .blockExpression, [_, inner, _, _] | .constBlock, [_, inner, _, _]
  | .unsafeBlock, [_, inner, _, _] | .loopExpression, [_, inner, _, _, _]
  | .whileLoop, [_, inner, _, _, _, _] | .forLoop, [_, inner, _, _, _, _, _, _]
  | .matchExpression, [_, inner, _, _, _] => [inner]
  | .implItem, [_, inner, _, _, _, _, constraints, _, _, _]
  | .traitItem, [_, inner, _, _, _, _, _, _, constraints, _, _, _] => [inner, constraints]
  | .signature, [_, _, _, _, _, _, _, constraints, _, _, _, _]
  | .traitAliasItem, [_, _, _, _, _, constraints, _, _, _]
  | .typeItem, [_, _, _, _, _, constraints, _, _, _]
  | .tupleStructItem, [_, _, _, _, _, constraints, _, _]
  | .implTypeMember, [_, _, _, _, _, _, constraints, _, _, _]
  | .traitTypeMember, [_, _, _, _, constraints, _, _, _, _, _]
  | .foreignType, [_, _, _, _, _, constraints, _] => [constraints]
  | _, _ => []

end InSource
end Kind

namespace Tree

variable {α : Type}

/-- The keyword of a function with the given signature. -/
def keyword : Tree α → Tree α
  | .node .signature parts => parts.getD 4 .absent
  | _ => .absent

/-- The landmark of a node itself. -/
def ownLandmark : Kind → List (Tree α) → List (Tree α)
  | .outerAttribute, hash :: _ | .innerAttribute, hash :: _ => [hash]
  | .function, [_, _, _, _, signature, _] | .implFunction, [_, _, _, _, signature, _]
  | .traitFunction, [_, _, _, _, signature, _] | .foreignFunction, [_, _, _, _, signature, _] =>
    [signature.keyword]
  | _, _ => []

/-- What a node has of its own put between what its first part has and what the others have. -/
def behindFirst {β : Type} (kind : Kind) (own : List β) : List (List β) → List β
  | [] => own
  | first :: rest =>
    (if kind.isOperator then [] else first) ++ own ++ (kind.restInSource rest).flatten

mutual

/-- The landmarks of a tree in the order of the source. -/
def landmarks : Tree α → List (Tree α)
  | .leaf _ => []
  | .node kind parts =>
    if kind.isLifetime then []
    else behindFirst kind (ownLandmark kind parts) (landmarksOfParts parts)

def landmarksOfParts : List (Tree α) → List (List (Tree α))
  | [] => []
  | part :: rest => landmarks part :: landmarksOfParts rest

end

theorem landmarksOfParts_eq_map (parts : List (Tree α)) :
    landmarksOfParts parts = parts.map landmarks := by
  induction parts with
  | nil => rfl
  | cons part rest inductionHypothesis =>
      rw [landmarksOfParts, inductionHypothesis, List.map_cons]

theorem landmarks_node {kind : Kind} (noLifetime : kind.isLifetime = false) (first : Tree α)
    (rest : List (Tree α)) :
    landmarks (.node kind (first :: rest)) =
      (if kind.isOperator then [] else first.landmarks) ++ ownLandmark kind (first :: rest) ++
        (kind.restInSource rest).flatMap landmarks := by
  rw [landmarks, noLifetime, if_neg Bool.false_ne_true, landmarksOfParts_eq_map, List.map_cons,
    behindFirst, Kind.restInSource_map]
  rfl

end Tree
end Instrument
