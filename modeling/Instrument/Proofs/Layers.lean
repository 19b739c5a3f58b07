import Instrument.Proofs.Composition

/-!
# Layers of diagnostics

A treatment that puts a number of diagnostics in front of every tagged body is called a layer here.
Layers add up: as long as markers are kept, a layer on top of another one is one layer of both
sizes.

A layer only puts in the diagnostic and takes out markers, and both are quiet.  So a traversal of a
layered tree meets the same declarations, inside the same owners and in the same order, as one of
the tree itself; what a declaration looks like behind the layer is all that can make a difference.
-/

namespace Instrument

theorem layers_policy (policy : MarkerPolicy) (copies : Nat) :
    (Treatment.layers policy copies).policy = policy :=
  rfl

theorem layers_after_layers (policy other : MarkerPolicy) (copies below : Nat) :
    (Treatment.layers policy copies).after (.layers other below) =
      .layers policy (copies + below) := by
  have added : ∀ body : List (Tree Token),
      List.replicate copies Diagnostic.statement ++
          (List.replicate below Diagnostic.statement ++ body) =
        List.replicate (copies + below) Diagnostic.statement ++ body := by
    intro body
    rw [← List.append_assoc, List.replicate_append_replicate]
  simp only [Treatment.after, Treatment.layers, added]

theorem unlayering_after_layers :
    Treatment.unlayering.after (.layers .retain 1) = .layers .retain 0 :=
  rfl

theorem onParts_layers_zero (kind : MarkerKind) (parts : List (Tree Token)) :
    (Treatment.layers .retain 0).onParts kind parts = parts := by
  have sameBody : ∀ body, (Treatment.layers .retain 0).onBody body = body := by
    intro body
    unfold Treatment.onBody
    split <;> rfl
  unfold Treatment.onParts
  split
  next => rw [layers_policy, apply_retain, apply_retain, sameBody]
  next => rfl

/-- A layer of nothing that keeps the markers is no change. -/
theorem treat_layers_zero (kind : MarkerKind) (tree : Tree Token) :
    treat kind (.layers .retain 0) tree = tree := by
  induction tree using Tree.induction with
  | leaf token => rfl
  | node node parts inductionHypothesis =>
      have inside : parts.map (treat kind (.layers .retain 0)) = parts :=
        (List.map_congr_left inductionHypothesis).trans (List.map_id parts)
      rw [treat_node, treatedParts, inside]
      split
      next => rw [onParts_layers_zero]
      next => rfl

/-! ## Traversals of layered trees -/

section Traversals

variable {β : Type} {report report' : NodeReport β}
variable (kind : MarkerKind) (policy : MarkerPolicy) (copies : Nat)

theorem flatMap_collect_strip (ignores : IgnoresQuiet report) (owner : Owner)
    (attributes : List (Tree Token)) :
    (kind.strip attributes).flatMap (collect report owner) =
      attributes.flatMap (collect report owner) := by
  induction attributes with
  | nil => rfl
  | cons candidate rest inductionHypothesis =>
      rw [MarkerKind.strip, List.filter_cons, List.flatMap_cons]
      cases marker : kind.isMarker candidate with
      | false =>
          rw [Bool.not_false, if_pos rfl, List.flatMap_cons]
          exact congrArg _ inductionHypothesis
      | true =>
          have quiet := kind.isQuiet_of_isMarker candidate marker
          rw [collect_of_isQuiet ignores owner candidate quiet]
          exact inductionHypothesis

theorem collect_apply (ignores : IgnoresQuiet report) (owner : Owner) (attributes : Tree Token) :
    collect report owner (policy.apply kind attributes) = collect report owner attributes := by
  unfold MarkerPolicy.apply
  split
  next parts =>
      cases policy with
      | retain => rfl
      | strip =>
          rw [collect_node_of_isQuiet ignores owner _ _ rfl,
            collect_node_of_isQuiet ignores owner _ _ rfl]
          exact flatMap_collect_strip kind ignores owner parts
  next => rfl

theorem collect_onBody_layers (ignores : IgnoresQuiet report) (owner : Owner)
    (body : Tree Token) :
    collect report owner ((Treatment.layers policy copies).onBody body) =
      collect report owner body := by
  by_cases block : IsBody body
  · obtain ⟨opening, statements, closing, rfl⟩ := block
    have diagnostics : (List.replicate copies Diagnostic.statement).flatMap (collect report owner) =
        [] := by
      rw [List.flatMap_eq_nil_iff]
      intro statement member
      rw [List.eq_of_mem_replicate member]
      exact collect_of_isQuiet ignores owner _ isQuiet_statement
    rw [Treatment.onBody, collect_node_of_isQuiet ignores owner .block _ rfl,
      collect_node_of_isQuiet ignores owner .block _ rfl]
    simp only [List.flatMap_cons, List.flatMap_nil,
      collect_node_of_isQuiet ignores owner .sequence _ rfl, Treatment.layers,
      List.flatMap_append, diagnostics, List.nil_append]
  · rw [onBody_of_not_isBody _ body block]

theorem flatMap_collect_onParts_layers (ignores : IgnoresQuiet report) (owner : Owner)
    (parts : List (Tree Token)) :
    ((Treatment.layers policy copies).onParts kind parts).flatMap (collect report owner) =
      parts.flatMap (collect report owner) := by
  unfold Treatment.onParts
  split
  next =>
      simp only [List.flatMap_cons, collect_apply kind _ ignores,
        collect_onBody_layers policy copies ignores]
  next => rfl

theorem inside_treatedParts (treatment : Treatment) (owner : Owner) (node : Kind)
    (parts : List (Tree Token)) :
    owner.inside node (treatedParts kind treatment node parts) = owner.inside node parts := by
  cases node with
  | implItem | traitItem =>
      rw [treatedParts, changesNode_of_not_callable kind _ parts rfl]
      exact inside_map_treat kind treatment owner _ parts
  | _ => rfl

/-- A traversal of a layered tree is one of the tree itself, with the report that each node would
give behind the layer. -/
theorem collect_treat_layers (ignores : IgnoresQuiet report)
    (same : ∀ owner node parts,
      report owner node (treatedParts kind (.layers policy copies) node parts) =
        report' owner node parts)
    (owner : Owner) (tree : Tree Token) :
    collect report owner (treat kind (.layers policy copies) tree) =
      collect report' owner tree := by
  induction tree using Tree.induction generalizing owner with
  | leaf token => rfl
  | node node parts inductionHypothesis =>
      rw [treat_node, collect_node, collect_node, same, inside_treatedParts]
      congr 1
      have inside : ∀ owner, (parts.map (treat kind (.layers policy copies))).flatMap
          (collect report owner) = parts.flatMap (collect report' owner) := by
        intro owner
        rw [List.flatMap_map]
        exact List.flatMap_congr fun part member => inductionHypothesis part member owner
      rw [treatedParts]
      split
      next => rw [flatMap_collect_onParts_layers kind policy copies ignores, inside]
      next => exact inside _

/-! ## Declarations of layered trees -/

/-- A declaration as it stands in a layered tree. -/
def layered (declaration : Declaration) : Declaration :=
  let inside := treatInside kind (.layers policy copies) declaration
  if Instrumentation.isInstrumented kind declaration then
    (Treatment.layers policy copies).onDeclaration kind inside
  else inside

/-- A node declares behind a layer what it declares, as it stands there. -/
theorem ofParts?_treatedParts (node : Kind) (parts : List (Tree Token)) :
    Declaration.ofParts? node (treatedParts kind (.layers policy copies) node parts) =
      (Declaration.ofParts? node parts).map (layered kind policy copies) := by
  unfold treatedParts Instrumentation.changesNode
  cases found : Declaration.ofParts? node parts with
  | none => simp [ofParts?_map_treat, found]
  | some declaration =>
      cases instrumented : Instrumentation.isInstrumented kind declaration <;>
        simp [ofParts?_onParts, ofParts?_map_treat, found, layered, instrumented]

/-- A layered tree has the declarations of the tree, with the same owners and in the same order. -/
theorem declared_treat_layers (owner : Owner) (tree : Tree Token) :
    declared owner (treat kind (.layers policy copies) tree) =
      (declared owner tree).map fun found => (found.1, layered kind policy copies found.2) := by
  have same : ∀ owner node parts,
      declarationReport owner node (treatedParts kind (.layers policy copies) node parts) =
        (declarationReport owner node parts).filterMap fun found =>
          some (found.1, layered kind policy copies found.2) := by
    intro owner node parts
    rw [declarationReport, ofParts?_treatedParts, declarationReport]
    cases Declaration.ofParts? node parts <;> rfl
  rw [declared, declared, collect_treat_layers kind policy copies ignoresQuiet_declarationReport
    same, ← filterMap_collect]
  exact congrFun List.filterMap_eq_map _

end Traversals

/-! ## What a layer does to a declaration -/

section Declarations

variable (kind : MarkerKind) (policy : MarkerPolicy) (copies : Nat)

theorem layered_of_not_instrumented (declaration : Declaration)
    (untouched : Instrumentation.isInstrumented kind declaration = false) :
    layered kind policy copies declaration =
      treatInside kind (.layers policy copies) declaration := by
  rw [layered, untouched]
  rfl

theorem layered_of_instrumented (declaration : Declaration)
    (instrumented : Instrumentation.isInstrumented kind declaration = true) :
    layered kind policy copies declaration =
      (Treatment.layers policy copies).onDeclaration kind
        (treatInside kind (.layers policy copies) declaration) := by
  rw [layered, instrumented]
  rfl

@[simp] theorem hasBody_layered (declaration : Declaration) :
    (layered kind policy copies declaration).hasBody = declaration.hasBody := by
  unfold layered
  split <;> simp only [hasBody_onDeclaration, hasBody_treatInside]

@[simp] theorem qualify_layered (owner : Owner) (declaration : Declaration) :
    owner.qualify (layered kind policy copies declaration) = owner.qualify declaration := by
  unfold layered
  split
  next => exact qualify_treatInside kind _ owner declaration
  next => exact qualify_treatInside kind _ owner declaration

/-- The statements of an instrumented declaration stand behind the diagnostics, treated. -/
theorem statements?_layered (declaration : Declaration)
    (instrumented : Instrumentation.isInstrumented kind declaration = true) :
    (layered kind policy copies declaration).statements? =
      declaration.statements?.map fun statements =>
        List.replicate copies Diagnostic.statement ++
          statements.map (treat kind (.layers policy copies)) := by
  have hasBody := (Bool.and_eq_true_iff.mp instrumented).2
  obtain ⟨opening, statements, closing, body⟩ := (hasBody_iff declaration).mp hasBody
  rw [layered_of_instrumented kind policy copies declaration instrumented]
  simp only [Declaration.statements?, Treatment.onDeclaration, treatInside, body,
    treat_node_of_not_callable kind _ .block _ rfl, List.map_cons, List.map_nil, treat_sequence,
    Treatment.onBody]
  rfl

/-- A layer that keeps the markers keeps every tag. -/
theorem isTagged_layered_retain (asked : MarkerKind) (declaration : Declaration) :
    (layered kind .retain copies declaration).isTagged asked = declaration.isTagged asked := by
  unfold layered
  split
  next => rw [isTagged_onDeclaration_retain _ kind rfl, isTagged_treatInside]
  next => rw [isTagged_treatInside]

/-- A layer that removes the markers leaves the tags of declarations without a body. -/
theorem isTagged_layered_strip (declaration : Declaration) :
    (layered kind .strip copies declaration).isTagged kind =
      (declaration.isTagged kind && !declaration.hasBody) := by
  cases instrumented : Instrumentation.isInstrumented kind declaration with
  | true =>
      have ⟨tagged, hasBody⟩ := Bool.and_eq_true_iff.mp instrumented
      rw [layered_of_instrumented kind .strip copies declaration instrumented,
        isTagged_onDeclaration_strip _ kind rfl, hasBody, Bool.not_true, Bool.and_false]
  | false =>
      rw [layered_of_not_instrumented kind .strip copies declaration instrumented,
        isTagged_treatInside]
      unfold Instrumentation.isInstrumented at instrumented
      cases tagged : declaration.isTagged kind with
      | false => rfl
      | true =>
          rw [tagged, Bool.true_and] at instrumented
          rw [instrumented]
          rfl

theorem countMarkers_layered_retain (declaration : Declaration) :
    kind.countMarkers (layered kind .retain copies declaration).attributes =
      kind.countMarkers declaration.attributes := by
  unfold layered
  split
  next =>
      rw [attributes_onDeclaration]
      exact countMarkers_treatInside kind _ kind declaration
  next => exact countMarkers_treatInside kind _ kind declaration

end Declarations

/-! ## Outcomes on layered trees -/

namespace Instrumentation

/-- The declaration was left alone. -/
def Outcome.isSkipped : Outcome → Bool
  | .instrumented _ _ => false
  | .skipped _ => true

section

variable (kind : MarkerKind) (policy : MarkerPolicy) (owner : Owner) (copies : Nat)

theorem lost_layered_retain (declaration : Declaration) :
    policy.lost kind (layered kind .retain copies declaration).attributes =
      policy.lost kind declaration.attributes := by
  cases policy with
  | retain => rfl
  | strip => exact countMarkers_layered_retain kind copies declaration

theorem outcome?_layered_retain (declaration : Declaration) :
    outcome? kind policy owner (layered kind .retain copies declaration) =
      outcome? kind policy owner declaration := by
  simp only [outcome?, isTagged_layered_retain, qualify_layered, hasBody_layered,
    lost_layered_retain]

theorem outcome?_layered_strip (declaration : Declaration) :
    outcome? kind policy owner (layered kind .strip copies declaration) =
      (outcome? kind policy owner declaration).filter Outcome.isSkipped := by
  simp only [outcome?, isTagged_layered_strip, qualify_layered, hasBody_layered]
  cases declaration.isTagged kind <;> cases declaration.hasBody <;> rfl

/-- Behind a layer that keeps the markers, the same happens again. -/
theorem outcomes_treat_layers_retain (tree : Tree Token) :
    outcomes kind policy owner (treat kind (.layers .retain copies) tree) =
      outcomes kind policy owner tree := by
  rw [outcomes_eq_filterMap_declared, outcomes_eq_filterMap_declared, declared_treat_layers,
    List.filterMap_map]
  exact List.filterMap_congr fun found _ =>
    outcome?_layered_retain kind policy found.1 copies found.2

/-- Behind a layer that removes the markers, only declarations without a body are still there to be
reported. -/
theorem outcomes_treat_layers_strip (tree : Tree Token) :
    outcomes kind policy owner (treat kind (.layers .strip copies) tree) =
      (outcomes kind policy owner tree).filter Outcome.isSkipped := by
  rw [outcomes_eq_filterMap_declared, outcomes_eq_filterMap_declared, declared_treat_layers,
    List.filterMap_map, List.filter_filterMap]
  exact List.filterMap_congr fun found _ =>
    outcome?_layered_strip kind policy found.1 copies found.2

end

/-! ## The node before what is inside it

Instrumenting first treats what is inside a node.  It may as well begin with the node, because what
is put into a declaration is left alone and reports nothing.
-/

/-- The parts of a node once the node itself is changed, and nothing inside it. -/
def changedParts (kind : MarkerKind) (policy : MarkerPolicy) (node : Kind)
    (parts : List (Tree Token)) : List (Tree Token) :=
  if changesNode kind node parts then instrumentParts kind policy parts else parts

/-- What a node says that declares a tagged function. -/
def outcomeReport (kind : MarkerKind) (policy : MarkerPolicy) : NodeReport Outcome :=
  fun owner node parts =>
    ((Declaration.ofParts? node parts).bind (outcome? kind policy owner)).toList

section

variable (kind : MarkerKind) (policy : MarkerPolicy)

theorem outcomes_node (owner : Owner) (node : Kind) (parts : List (Tree Token)) :
    outcomes kind policy owner (.node node parts) =
      outcomeReport kind policy owner node parts ++
        parts.flatMap (outcomes kind policy (owner.inside node parts)) := by
  rw [outcomes, outcomesOfParts_eq_flatMap, outcomeReport]

/-- It makes no difference whether a node is changed before what is inside it or after that. -/
theorem instrument_node (node : Kind) (parts : List (Tree Token)) :
    instrument kind policy (.node node parts) =
      .node node ((changedParts kind policy node parts).map (instrument kind policy)) := by
  have layer : instrument kind policy = treat kind (.layers policy 1) :=
    funext (instrument_eq_treat kind policy)
  rw [layer, treat_node, treatedParts, changedParts]
  congr 1
  split
  next => exact onParts_map_treat kind _ (.layers policy 1) kind parts
  next => rfl

theorem inside_changedParts (owner : Owner) (node : Kind) (parts : List (Tree Token)) :
    owner.inside node (changedParts kind policy node parts) = owner.inside node parts := by
  cases node with
  | implItem | traitItem => rw [changedParts, changesNode_of_not_callable kind _ parts rfl]; rfl
  | _ => rfl

/-- What is put into a declaration or taken out of it is not reported. -/
theorem flatMap_outcomes_changedParts (owner : Owner) (node : Kind) (parts : List (Tree Token)) :
    (changedParts kind policy node parts).flatMap (outcomes kind policy owner) =
      parts.flatMap (outcomes kind policy owner) := by
  have read : outcomes kind policy owner = fun tree =>
      (declared owner tree).filterMap fun found => outcome? kind policy found.1 found.2 :=
    funext (outcomes_eq_filterMap_declared kind policy owner)
  rw [changedParts, read]
  split
  next =>
      rw [← List.filterMap_flatMap, ← List.filterMap_flatMap]
      congr 1
      exact flatMap_collect_onParts_layers kind policy 1 ignoresQuiet_declarationReport owner parts
  next => rfl

end

end Instrumentation
end Instrument
