import Instrument.Instrumentation
import Instrument.Marker.Scan
import Mathlib.Data.List.Basic

/-!
# Traversals

Every report on a tree is made in the same way: a node says something about itself, and its parts
follow in visiting order, inside the owner that the node gives them.  `collect` is this traversal
for an arbitrary report on single nodes.  The list of declarations, the scan and the outcomes of
instrumenting are instances of it, so what holds of the traversal holds of each of them.

Two of these reports only look at declarations.  They are read off one list, `declared`, which has
every declaration together with the owner it is reported with.
-/

namespace Instrument

namespace Tree

variable {α : Type}

/-- What holds of leaves, and of a node as soon as it holds of its parts, holds of every tree. -/
@[elab_as_elim]
theorem induction {motive : Tree α → Prop} (leaf : ∀ value, motive (.leaf value))
    (node : ∀ kind parts, (∀ part ∈ parts, motive part) → motive (.node kind parts)) :
    ∀ tree, motive tree
  | .leaf value => leaf value
  | .node kind parts => node kind parts fun part _ => induction leaf node part

end Tree

/-! ## The common shape of reports -/

/-- What a node says about itself, given the owner it stands in. -/
abbrev NodeReport (β : Type) := Owner → Kind → List (Tree Token) → List β

mutual

/-- The reports of all nodes of a tree in visiting order. -/
def collect {β : Type} (report : NodeReport β) (owner : Owner) : Tree Token → List β
  | .leaf _ => []
  | .node kind parts =>
    report owner kind parts ++ collectAll report (owner.inside kind parts) parts

/-- The reports of all nodes of several trees. -/
def collectAll {β : Type} (report : NodeReport β) (owner : Owner) : List (Tree Token) → List β
  | [] => []
  | part :: rest => collect report owner part ++ collectAll report owner rest

end

section Collect

variable {β γ : Type} (report : NodeReport β) (owner : Owner)

theorem collectAll_eq_flatMap (parts : List (Tree Token)) :
    collectAll report owner parts = parts.flatMap (collect report owner) := by
  induction parts with
  | nil => rfl
  | cons part rest inductionHypothesis =>
      rw [collectAll, inductionHypothesis, List.flatMap_cons]

theorem collect_node (kind : Kind) (parts : List (Tree Token)) :
    collect report owner (.node kind parts) =
      report owner kind parts ++ parts.flatMap (collect report (owner.inside kind parts)) := by
  rw [collect, collectAll_eq_flatMap]

/-- Selecting from the reports of a tree is selecting from the report of each node. -/
theorem filterMap_collect (select : β → Option γ) (tree : Tree Token) :
    (collect report owner tree).filterMap select =
      collect (fun owner kind parts => (report owner kind parts).filterMap select) owner tree := by
  induction tree using Tree.induction generalizing owner with
  | leaf token => rfl
  | node kind parts inductionHypothesis =>
      rw [collect_node, collect_node, List.filterMap_append, List.filterMap_flatMap]
      congr 1
      exact List.flatMap_congr fun part member => inductionHypothesis part member _

end Collect

/-! ## The reports of the library -/

/-- A node declares a function with the parts it has. -/
theorem Declaration.exists_of_ofParts? {kind : Kind} {parts : List (Tree Token)}
    {declaration : Declaration} (declares : Declaration.ofParts? kind parts = some declaration) :
    ∃ visibility defaultness, Callable.ofKind? kind = some declaration.callable ∧
      parts = [declaration.outer, declaration.inner, visibility, defaultness,
        declaration.signature, declaration.body] := by
  unfold Declaration.ofParts? at declares
  split at declares
  next callable outer inner visibility defaultness signature body isCallable =>
      cases declares
      exact ⟨visibility, defaultness, isCallable, rfl⟩
  next => cases declares

/-- A node whose parts are changed one by one declares the changed function. -/
theorem Declaration.ofParts?_map_of {change : Tree Token → Tree Token}
    {changed : Declaration → Declaration}
    (same : ∀ callable outer inner signature body,
      changed ⟨callable, outer, inner, signature, body⟩ =
        ⟨callable, change outer, change inner, change signature, change body⟩)
    (kind : Kind) (parts : List (Tree Token)) :
    Declaration.ofParts? kind (parts.map change) =
      (Declaration.ofParts? kind parts).map changed := by
  unfold Declaration.ofParts?
  cases Callable.ofKind? kind with
  | none => rfl
  | some callable =>
      match parts with
      | [] | [_] | [_, _] | [_, _, _] | [_, _, _, _] | [_, _, _, _, _] => rfl
      | [outer, inner, visibility, mode, signature, body] =>
          exact congrArg some (same callable outer inner signature body).symm
      | _ :: _ :: _ :: _ :: _ :: _ :: _ :: _ => rfl

/-- What a node says that declares a function. -/
def declarationReport : NodeReport (Owner × Declaration) :=
  fun owner kind parts => ((Declaration.ofParts? kind parts).map (owner, ·)).toList

/-- The declarations of a tree with the owners they are reported with. -/
def declared (owner : Owner) (tree : Tree Token) : List (Owner × Declaration) :=
  collect declarationReport owner tree

theorem declarationsOfParts_eq_flatMap (parts : List (Tree Token)) :
    declarationsOfParts parts = parts.flatMap declarations := by
  induction parts with
  | nil => rfl
  | cons part rest inductionHypothesis =>
      rw [declarationsOfParts, inductionHypothesis, List.flatMap_cons]

/-- The owner only matters to how a declaration is reported, not to which there are. -/
theorem declarations_eq_map_declared (owner : Owner) (tree : Tree Token) :
    declarations tree = (declared owner tree).map Prod.snd := by
  induction tree using Tree.induction generalizing owner with
  | leaf token => rfl
  | node kind parts inductionHypothesis =>
      rw [declarations, declarationsOfParts_eq_flatMap, declared, collect_node, List.map_append,
        List.map_flatMap]
      congr 1
      · rw [declarationReport]
        cases Declaration.ofParts? kind parts <;> rfl
      · exact List.flatMap_congr fun part member => inductionHypothesis part member _

namespace Scan

theorem findingsOfParts_eq_flatMap (kind : MarkerKind) (owner : Owner)
    (parts : List (Tree Token)) :
    findingsOfParts kind owner parts = parts.flatMap (findings kind owner) := by
  induction parts with
  | nil => rfl
  | cons part rest inductionHypothesis =>
      rw [findingsOfParts, inductionHypothesis, List.flatMap_cons]

theorem findings_eq_collect (kind : MarkerKind) (owner : Owner) (tree : Tree Token) :
    findings kind owner tree = collect (ofNode kind) owner tree := by
  induction tree using Tree.induction generalizing owner with
  | leaf token => rfl
  | node node parts inductionHypothesis =>
      rw [findings, findingsOfParts_eq_flatMap, collect_node]
      congr 1
      exact List.flatMap_congr fun part member => inductionHypothesis part member _

/-- How a tagged declaration is listed. -/
def taggedDeclaration? (kind : MarkerKind) (owner : Owner) (declaration : Declaration) :
    Option TaggedDeclaration :=
  if declaration.isTagged kind then
    some ⟨owner.qualify declaration, declaration.line, declaration.hasBody⟩
  else none

/-- Ignored attributes are never listed as tagged. -/
theorem filterMap_ignoredAs {β : Type} (kind : MarkerKind) (item : String)
    (reason : IgnoreReason) (attributes : List (Tree Token)) (select : Finding → Option β)
    (selects : ∀ marker, select (.ignored marker) = none) :
    (ignoredAs kind item reason attributes).filterMap select = [] := by
  rw [ignoredAs, List.filterMap_map, List.filterMap_eq_nil_iff]
  intro candidate _
  exact selects _

/-- The tagged declarations of a scan are those of the tree, each as it is listed. -/
theorem tagged_eq_filterMap_declared (kind : MarkerKind) (tree : Tree Token) :
    (kind.scan tree).tagged =
      (declared none tree).filterMap fun found => taggedDeclaration? kind found.1 found.2 := by
  change (findings kind none tree).filterMap _ = _
  rw [findings_eq_collect, filterMap_collect, declared, filterMap_collect]
  congr 1
  funext owner node parts
  rw [ofNode, declarationReport]
  cases Declaration.ofParts? node parts with
  | none =>
      cases bystander? node parts with
      | none => rfl
      | some bystander => exact filterMap_ignoredAs kind _ _ _ _ fun _ => rfl
  | some declaration =>
      dsimp only [ofDeclaration]
      rw [List.filterMap_append, filterMap_ignoredAs kind _ _ _ _ fun _ => rfl]
      cases tagged : declaration.isTagged kind <;> cases marked : declaration.isMarked kind <;>
        simp [taggedDeclaration?, tagged]

end Scan

namespace Instrumentation

theorem outcomesOfParts_eq_flatMap (kind : MarkerKind) (policy : MarkerPolicy) (owner : Owner)
    (parts : List (Tree Token)) :
    outcomesOfParts kind policy owner parts = parts.flatMap (outcomes kind policy owner) := by
  induction parts with
  | nil => rfl
  | cons part rest inductionHypothesis =>
      rw [outcomesOfParts, inductionHypothesis, List.flatMap_cons]

/-- The outcomes of instrumenting a tree are those of its declarations. -/
theorem outcomes_eq_filterMap_declared (kind : MarkerKind) (policy : MarkerPolicy)
    (owner : Owner) (tree : Tree Token) :
    outcomes kind policy owner tree =
      (declared owner tree).filterMap fun found => outcome? kind policy found.1 found.2 := by
  rw [declared, filterMap_collect]
  induction tree using Tree.induction generalizing owner with
  | leaf token => rfl
  | node node parts inductionHypothesis =>
      rw [outcomes, outcomesOfParts_eq_flatMap, collect_node]
      congr 1
      · rw [declarationReport]
        cases Declaration.ofParts? node parts with
        | none => rfl
        | some declaration =>
            cases found : outcome? kind policy owner declaration <;> simp [found]
      · exact List.flatMap_congr fun part member => inductionHypothesis part member _

/-- The name of a declaration that is tagged, and has a body or has none as is asked. -/
def taggedName? (kind : MarkerKind) (hasBody : Bool) (found : Owner × Declaration) :
    Option String :=
  if found.2.isTagged kind && found.2.hasBody == hasBody then some (found.1.qualify found.2)
  else none

/-- What is reported as instrumented are the tagged declarations with a body. -/
theorem instrumentedNames_outcomes (kind : MarkerKind) (policy : MarkerPolicy) (owner : Owner)
    (tree : Tree Token) :
    instrumentedNames (outcomes kind policy owner tree) =
      (declared owner tree).filterMap (taggedName? kind true) := by
  rw [outcomes_eq_filterMap_declared, instrumentedNames, List.filterMap_filterMap]
  refine List.filterMap_congr fun found _ => ?_
  simp only [outcome?, taggedName?]
  cases found.2.isTagged kind <;> cases found.2.hasBody <;> rfl

/-- What is reported as skipped are the tagged declarations without a body. -/
theorem skippedNames_outcomes (kind : MarkerKind) (policy : MarkerPolicy) (owner : Owner)
    (tree : Tree Token) :
    skippedNames (outcomes kind policy owner tree) =
      (declared owner tree).filterMap (taggedName? kind false) := by
  rw [outcomes_eq_filterMap_declared, skippedNames, List.filterMap_filterMap]
  refine List.filterMap_congr fun found _ => ?_
  simp only [outcome?, taggedName?]
  cases found.2.isTagged kind <;> cases found.2.hasBody <;> rfl

end Instrumentation

/-- The names that a scan lists with a body, or without one as is asked. -/
theorem Scan.map_name_filter_tagged (kind : MarkerKind) (hasBody : Bool) (tree : Tree Token) :
    ((kind.scan tree).tagged.filter fun declaration => declaration.hasBody == hasBody).map
        (fun declaration => declaration.name) =
      (declared none tree).filterMap (Instrumentation.taggedName? kind hasBody) := by
  rw [tagged_eq_filterMap_declared, List.filter_filterMap, List.map_filterMap]
  refine List.filterMap_congr fun found _ => ?_
  simp only [taggedDeclaration?, Instrumentation.taggedName?]
  cases found.2.isTagged kind <;> cases found.2.hasBody <;> cases hasBody <;> rfl

end Instrument
