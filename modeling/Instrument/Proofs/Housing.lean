import Instrument.Proofs.Words

/-!
# Where methods stand

A function of an `impl` block or of a trait is a member of its block: it stands in a sequence, the
sequence between braces, and the braces in the block.  A tree is housed if that is so for every such
function in it.  What a tree lacks for that may be around it; the kinds of the nodes around a tree
are therefore a parameter, and the part of a housed tree is housed with the node it is a part of
around it.

A type that is a path is called by the last name of the path.  Such a path ends in a segment.
-/

namespace Instrument

namespace Kind

/-- The kind of block that functions of the kind are members of. -/
abbrev home? : Kind → Option Kind
  | .implFunction => some .implItem
  | .traitFunction => some .traitItem
  | _ => none

/-- The kinds of the nodes around a member of a block of the kind. -/
abbrev insideOf (home : Kind) : List Kind :=
  [.sequence, .members, home]

/-- A node of the kind is no block with functions as members. -/
abbrev isNoBlock : Kind → Bool
  | .implItem | .traitItem => false
  | _ => true

theorem isNoBlock_of_home? {kind home : Kind} (found : kind.home? = some home) :
    home.isNoBlock = false := by
  unfold Kind.home? at found
  split at found <;> cases found <;> rfl

end Kind

/-- Inside nodes of the given kinds, the innermost one first, every function in a tree that has to be
a member of a block is one. -/
inductive Housed {α : Type} : List Kind → Tree α → Prop where
  | leaf {around : List Kind} {value : α} : Housed around (.leaf value)
  | node {around : List Kind} {kind : Kind} {parts : List (Tree α)}
      (member : ∀ home, kind.home? = some home → home.insideOf <+: around)
      (inside : ∀ part ∈ parts, Housed (kind :: around) part) : Housed around (.node kind parts)

namespace Housed

variable {α β : Type} {around : List Kind} {tree : Tree α}

theorem member {kind : Kind} {parts : List (Tree α)} (housed : Housed around (.node kind parts))
    {home : Kind} (found : kind.home? = some home) : home.insideOf <+: around := by
  cases housed with
  | node member inside => exact member home found

theorem part {kind : Kind} {parts : List (Tree α)} (housed : Housed around (.node kind parts))
    {part : Tree α} (within : part ∈ parts) : Housed (kind :: around) part := by
  cases housed with
  | node member inside => exact inside part within

/-- More around a tree takes nothing from it. -/
theorem append (housed : Housed around tree) (outer : List Kind) :
    Housed (around ++ outer) tree := by
  induction housed with
  | leaf => exact .leaf
  | node member inside inductionHypothesis =>
      exact .node (fun home found => (member home found).trans (List.prefix_append _ _))
        inductionHypothesis

/-- What is no block is nothing that a tree could lack around it. -/
theorem of_isNoBlock {outer : Kind} (noBlock : outer.isNoBlock = true)
    (housed : Housed (around ++ [outer]) tree) : Housed around tree := by
  generalize whole : around ++ [outer] = all at housed
  induction housed generalizing around with
  | leaf => exact .leaf
  | node member inside inductionHypothesis =>
      subst whole
      refine .node (fun home found => ?_) fun part within => inductionHypothesis part within rfl
      rcases List.prefix_concat_iff.mp (member home found) with same | inner
      · have last := congrArg List.getLast? same
        rw [List.getLast?_concat] at last
        cases last
        cases noBlock.symm.trans (Kind.isNoBlock_of_home? found)
      · exact inner

theorem map (change : α → β) (housed : Housed around tree) : Housed around (tree.map change) := by
  induction housed with
  | leaf =>
      rw [Tree.map]
      exact .leaf
  | node member inside inductionHypothesis =>
      rw [Tree.map_node]
      refine .node member fun part within => ?_
      rcases List.mem_map.mp within with ⟨original, inParts, rfl⟩
      exact inductionHypothesis original inParts

end Housed

/-! ## Paths that end in a name -/

namespace Tree

variable {α β : Type}

/-- A segment of a path, with its name first. -/
def IsSegment (tree : Tree α) : Prop :=
  ∃ name rest, tree = .node .segment (name :: rest)

/-- A path, which may start in a type, that ends in a segment. -/
inductive IsNamedPath : Tree α → Prop where
  | path {leading segments last : Tree α} (found : segments.elements.getLast? = some last)
      (named : last.IsSegment) : IsNamedPath (.node .path [leading, segments])
  | qualified {opening type as trait closing separator segments last : Tree α}
      (found : segments.elements.getLast? = some last) (named : last.IsSegment) :
      IsNamedPath (.node .qualifiedPath
        [opening, type, as, trait, closing, separator, segments])

/-- The parts of a type that is a path, if the kind is that of such a type. -/
def NamesType (kind : Kind) (parts : List (Tree α)) : Prop :=
  kind = .pathType → ∃ path : Tree α, parts = [path] ∧ path.IsNamedPath

theorem IsSegment.map (change : α → β) {tree : Tree α} (isSegment : tree.IsSegment) :
    (tree.map change).IsSegment := by
  rcases isSegment with ⟨name, rest, rfl⟩
  exact ⟨name.map change, rest.map (Tree.map change), by rw [Tree.map_node, List.map_cons]⟩

theorem IsNamedPath.map (change : α → β) {tree : Tree α} (isNamed : tree.IsNamedPath) :
    (tree.map change).IsNamedPath := by
  cases isNamed with
  | path found named =>
      rw [Tree.map_node]
      refine .path ?_ (named.map change)
      rw [Tree.elements_map, List.getLast?_map, found, Option.map_some]
  | qualified found named =>
      rw [Tree.map_node]
      refine .qualified ?_ (named.map change)
      rw [Tree.elements_map, List.getLast?_map, found, Option.map_some]

end Tree
end Instrument
