import Instrument.Proofs.Layers

/-!
# One visitor

A file can be instrumented in a single pass that changes the tree while it walks through it.  Such a
visitor meets a declaration, records it and changes it, and only then goes inside, so that what it
walks through has the diagnostic in it already.  It keeps the owner as a part of its state, sets it
on the way into a block and has to put it back on the way out.

`Visits` is this pass.  It comes to exactly one end for every tree, which is the tree that
`instrument` makes and the reports that `outcomes` gives; and the owner is then what it was before.
-/

namespace Instrument
namespace Instrumentation

/-- What a visitor carries along. -/
structure Visitor where
  owner : Owner
  instrumented : List String
  skipped : List String
  stripped : Nat

/-- What a node of this kind contains has an owner of its own, and not that of the node. -/
def setsOwner : Kind → Bool
  | .function | .implItem | .traitItem => true
  | _ => false

namespace Visitor

/-- Add an outcome to what was recorded. -/
def record (visitor : Visitor) : Outcome → Visitor
  | .instrumented name stripped =>
    { visitor with
      instrumented := visitor.instrumented ++ [name]
      stripped := visitor.stripped + stripped }
  | .skipped name => { visitor with skipped := visitor.skipped ++ [name] }

/-- Meet a node, of which only a tagged declaration is recorded. -/
def meet (kind : MarkerKind) (policy : MarkerPolicy) (visitor : Visitor) (node : Kind)
    (parts : List (Tree Token)) : Visitor :=
  (outcomeReport kind policy visitor.owner node parts).foldl record visitor

/-- Go inside a node with the given parts. -/
def enter (visitor : Visitor) (node : Kind) (parts : List (Tree Token)) : Visitor :=
  { visitor with owner := visitor.owner.inside node parts }

/-- Come back from inside a node.  Only a node that has set the owner puts it back. -/
def leave (visitor : Visitor) (node : Kind) (previous : Owner) : Visitor :=
  if setsOwner node then { visitor with owner := previous } else visitor

end Visitor

/-- A visitor walks through several trees, one after the other, and leaves others in their place. -/
inductive Visits (kind : MarkerKind) (policy : MarkerPolicy) :
    Visitor → List (Tree Token) → Visitor → List (Tree Token) → Prop
  | nothing (visitor : Visitor) : Visits kind policy visitor [] visitor []
  | leaf {visitor last : Visitor} {rest visitedRest : List (Tree Token)} (token : Token)
      (behind : Visits kind policy visitor rest last visitedRest) :
      Visits kind policy visitor (.leaf token :: rest) last (.leaf token :: visitedRest)
  | node {visitor inner last : Visitor} {node : Kind}
      {parts visitedParts rest visitedRest : List (Tree Token)}
      (inside : Visits kind policy
        ((visitor.meet kind policy node parts).enter node (changedParts kind policy node parts))
        (changedParts kind policy node parts) inner visitedParts)
      (behind : Visits kind policy (inner.leave node visitor.owner) rest last visitedRest) :
      Visits kind policy visitor (.node node parts :: rest) last
        (.node node visitedParts :: visitedRest)

/-! ## What is recorded -/

namespace Visitor

/-- A visitor with outcomes added to what it has recorded. -/
def recordAll (visitor : Visitor) (outcomes : List Outcome) : Visitor where
  owner := visitor.owner
  instrumented := visitor.instrumented ++ instrumentedNames outcomes
  skipped := visitor.skipped ++ skippedNames outcomes
  stripped := visitor.stripped + strippedMarkers outcomes

theorem recordAll_nil (visitor : Visitor) : visitor.recordAll [] = visitor := by
  simp only [recordAll, instrumentedNames, skippedNames, strippedMarkers, List.filterMap_nil,
    List.append_nil, Nat.add_zero]

theorem recordAll_append (visitor : Visitor) (first second : List Outcome) :
    visitor.recordAll (first ++ second) = (visitor.recordAll first).recordAll second := by
  simp only [recordAll, instrumentedNames, skippedNames, strippedMarkers_append,
    List.filterMap_append, List.append_assoc, Nat.add_assoc]

theorem foldl_record (visitor : Visitor) (outcomes : List Outcome) :
    outcomes.foldl record visitor = visitor.recordAll outcomes := by
  induction outcomes generalizing visitor with
  | nil => exact (recordAll_nil visitor).symm
  | cons outcome rest inductionHypothesis =>
      rw [List.foldl_cons, inductionHypothesis, ← List.singleton_append, recordAll_append]
      congr 1
      cases outcome <;>
        simp [record, recordAll, instrumentedNames, skippedNames, strippedMarkers, Outcome.stripped]

end Visitor

theorem inside_of_not_setsOwner (owner : Owner) (node : Kind) (parts : List (Tree Token))
    (keeps : setsOwner node = false) : owner.inside node parts = owner := by
  cases node <;> first | rfl | cases keeps

/-- A visitor comes back with the owner from before, whether it puts it back or never changed it. -/
theorem Visitor.leave_recordAll_enter (visitor : Visitor) (node : Kind)
    (parts : List (Tree Token)) (outcomes : List Outcome) (previous : Owner)
    (same : visitor.owner = previous) :
    ((visitor.enter node parts).recordAll outcomes).leave node previous =
      visitor.recordAll outcomes := by
  subst previous
  unfold Visitor.leave
  cases sets : setsOwner node with
  | true => rfl
  | false =>
      have keeps : visitor.enter node parts = visitor := by
        rw [Visitor.enter, inside_of_not_setsOwner visitor.owner node parts sets]
      rw [keeps]
      rfl

/-! ## Where a visitor ends -/

variable {kind : MarkerKind} {policy : MarkerPolicy}

/-- Whatever a visitor has done when it comes to its end, it is what the two functions say. -/
theorem Visits.eq {visitor last : Visitor} {trees visited : List (Tree Token)}
    (visits : Visits kind policy visitor trees last visited) :
    last = visitor.recordAll (trees.flatMap (outcomes kind policy visitor.owner)) ∧
      visited = trees.map (instrument kind policy) := by
  induction visits with
  | nothing visitor => exact ⟨(Visitor.recordAll_nil visitor).symm, rfl⟩
  | leaf token _ behindHypothesis =>
      obtain ⟨rfl, rfl⟩ := behindHypothesis
      exact ⟨rfl, rfl⟩
  | @node visitor inner last node parts visitedParts rest visitedRest _ _ insideHypothesis
      behindHypothesis =>
      obtain ⟨insideState, rfl⟩ := insideHypothesis
      obtain ⟨rfl, rfl⟩ := behindHypothesis
      have met : visitor.meet kind policy node parts =
          visitor.recordAll (outcomeReport kind policy visitor.owner node parts) :=
        Visitor.foldl_record visitor _
      have owner : ((visitor.meet kind policy node parts).enter node
          (changedParts kind policy node parts)).owner = visitor.owner.inside node parts := by
        rw [met]
        exact inside_changedParts kind policy visitor.owner node parts
      have back : inner.leave node visitor.owner =
          visitor.recordAll (outcomes kind policy visitor.owner (.node node parts)) := by
        rw [insideState, owner, flatMap_outcomes_changedParts, met,
          Visitor.leave_recordAll_enter (visitor.recordAll _) node _ _ visitor.owner rfl,
          ← Visitor.recordAll_append, ← outcomes_node]
      rw [back, List.flatMap_cons, Visitor.recordAll_append, List.map_cons,
        instrument_node]
      exact ⟨rfl, rfl⟩

/-! ## Every visitor comes to an end -/

variable (kind policy)

/-- A visitor in any state comes to an end of the given trees. -/
def Visitable (trees : List (Tree Token)) : Prop :=
  ∀ visitor, ∃ last visited, Visits kind policy visitor trees last visited

variable {kind policy}

theorem Visits.append {visitor middle last : Visitor}
    {first second firstVisited secondVisited : List (Tree Token)}
    (visits : Visits kind policy visitor first middle firstVisited)
    (further : Visits kind policy middle second last secondVisited) :
    Visits kind policy visitor (first ++ second) last (firstVisited ++ secondVisited) := by
  induction visits with
  | nothing visitor => exact further
  | leaf token _ behindHypothesis => exact .leaf token (behindHypothesis further)
  | node inside _ _ behindHypothesis => exact .node inside (behindHypothesis further)

theorem visitable_of_forall (trees : List (Tree Token))
    (each : ∀ tree ∈ trees, Visitable kind policy [tree]) : Visitable kind policy trees := by
  induction trees with
  | nil => exact fun visitor => ⟨visitor, [], .nothing visitor⟩
  | cons tree rest inductionHypothesis =>
      intro visitor
      obtain ⟨middle, visited, first⟩ := each tree List.mem_cons_self visitor
      obtain ⟨last, visitedRest, second⟩ :=
        inductionHypothesis (fun other member => each other (List.mem_cons_of_mem _ member)) middle
      exact ⟨last, visited ++ visitedRest, first.append second⟩

theorem visitable_leaf (token : Token) : Visitable kind policy [.leaf token] :=
  fun visitor => ⟨visitor, [.leaf token], .leaf token (.nothing visitor)⟩

theorem visitable_node (node : Kind) (parts : List (Tree Token))
    (each : ∀ part ∈ changedParts kind policy node parts, Visitable kind policy [part]) :
    Visitable kind policy [.node node parts] := by
  intro visitor
  obtain ⟨inner, visitedParts, inside⟩ := visitable_of_forall _ each
    ((visitor.meet kind policy node parts).enter node (changedParts kind policy node parts))
  exact ⟨_, _, .node inside (.nothing _)⟩

theorem visitable_of_not_callable (node : Kind) (parts : List (Tree Token))
    (notCallable : Callable.ofKind? node = none)
    (each : ∀ part ∈ parts, Visitable kind policy [part]) :
    Visitable kind policy [.node node parts] := by
  refine visitable_node node parts ?_
  rw [changedParts, changesNode_of_not_callable kind node parts notCallable]
  exact each

theorem visitable_statement : Visitable kind policy [Diagnostic.statement] := by
  have quiet := isQuiet_statement
  generalize Diagnostic.statement = tree at quiet
  induction tree using Tree.induction with
  | leaf token => exact visitable_leaf token
  | node node parts inductionHypothesis =>
      have ⟨quietKind, quietParts⟩ := (Tree.isQuiet_node_iff node parts).mp quiet
      exact visitable_of_not_callable node parts (notCallable_of_isQuiet node quietKind)
        fun part member => inductionHypothesis part member (quietParts part member)

/-- A visitor comes to an end of the tree, and of whatever else it may find in its place. -/
structure Settled (kind : MarkerKind) (policy : MarkerPolicy) (tree : Tree Token) : Prop where
  asIs : Visitable kind policy [tree]
  elements : ∀ parts, tree = .node .sequence parts → ∀ part ∈ parts, Visitable kind policy [part]
  prepended : Visitable kind policy [Diagnostic.prepend tree]

theorem Settled.applied {tree : Tree Token} (settled : Settled kind policy tree) :
    Visitable kind policy [policy.apply kind tree] := by
  unfold MarkerPolicy.apply
  split
  next parts =>
      split
      next =>
          refine visitable_of_not_callable .sequence _ rfl fun part member => ?_
          exact settled.elements parts rfl part (List.mem_filter.mp member).1
      next => exact settled.asIs
  next => exact settled.asIs

theorem visitable_changedParts (node : Kind) (parts : List (Tree Token))
    (settled : ∀ part ∈ parts, Settled kind policy part) :
    ∀ part ∈ changedParts kind policy node parts, Visitable kind policy [part] := by
  have unchanged : ∀ part ∈ parts, Visitable kind policy [part] :=
    fun part member => (settled part member).asIs
  unfold changedParts
  split
  next =>
      match parts with
      | [] | [_] | [_, _] | [_, _, _] | [_, _, _, _] | [_, _, _, _, _] => exact unchanged
      | [outer, inner, visibility, mode, signature, body] =>
          simp only [instrumentParts, List.forall_mem_cons] at settled ⊢
          obtain ⟨outer, inner, visibility, mode, signature, body, none⟩ := settled
          exact ⟨outer.applied, inner.applied, visibility.asIs, mode.asIs, signature.asIs,
            body.prepended, fun _ member => absurd member List.not_mem_nil⟩
      | _ :: _ :: _ :: _ :: _ :: _ :: _ :: _ => exact unchanged
  next => exact unchanged

/-- What is walked through is not always a part of the tree, so the induction is on everything that
can be found in the place of a part. -/
theorem settled (tree : Tree Token) : Settled kind policy tree := by
  induction tree using Tree.induction with
  | leaf token =>
      refine ⟨visitable_leaf token, ?_, visitable_leaf token⟩
      intro parts equal
      cases equal
  | node node parts inductionHypothesis =>
      have asIs : Visitable kind policy [.node node parts] :=
        visitable_node node parts (visitable_changedParts node parts inductionHypothesis)
      refine ⟨asIs, fun others equal part member => ?_, ?_⟩
      · cases equal
        exact (inductionHypothesis part member).asIs
      · unfold Diagnostic.prepend
        split
        next opening statements closing equal =>
            cases equal
            simp only [List.forall_mem_cons] at inductionHypothesis
            obtain ⟨opening, body, closing, none⟩ := inductionHypothesis
            refine visitable_of_not_callable .block _ rfl ?_
            simp only [List.forall_mem_cons]
            refine ⟨opening.asIs, ?_, closing.asIs, fun _ member => absurd member List.not_mem_nil⟩
            refine visitable_of_not_callable .sequence _ rfl ?_
            simp only [List.forall_mem_cons]
            exact ⟨visitable_statement, body.elements statements rfl⟩
        next => exact asIs

/-! ## One pass and two functions -/

/-- A visitor comes to one end only, which is what the two functions say. -/
theorem visits_iff (visitor last : Visitor) (trees visited : List (Tree Token)) :
    Visits kind policy visitor trees last visited ↔
      last = visitor.recordAll (trees.flatMap (outcomes kind policy visitor.owner)) ∧
        visited = trees.map (instrument kind policy) := by
  constructor
  · exact Visits.eq
  · rintro ⟨rfl, rfl⟩
    obtain ⟨last, visited, visits⟩ :=
      visitable_of_forall trees (fun tree _ => (settled tree).asIs) visitor
    obtain ⟨rfl, rfl⟩ := visits.eq
    exact visits

/-- A visitor that has seen nothing. -/
def Visitor.start : Visitor := ⟨none, [], [], 0⟩

/-- Instrumenting a file is what a visitor does that starts at its root. -/
theorem visits_file_iff (file : SourceFile) (last : Visitor) (tree : Tree Token) :
    let result := file.instrument kind policy
    Visits kind policy .start [file.tree] last [tree] ↔
      tree = result.file.tree ∧
        last = ⟨none, result.instrumented, result.skipped, result.stripped⟩ := by
  intro result
  have recorded : Visitor.start.recordAll result.outcomes =
      ⟨none, result.instrumented, result.skipped, result.stripped⟩ := by
    simp only [Visitor.recordAll, Visitor.start, List.nil_append, Nat.zero_add]
    rfl
  rw [visits_iff, List.flatMap_singleton, List.map_singleton, List.singleton_inj, ← recorded]
  exact and_comm

end Instrumentation
end Instrument
