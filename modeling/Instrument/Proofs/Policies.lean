import Instrument.Proofs.Layers

/-!
# Keeping and removing markers

Instrumenting with the markers kept loses nothing: it can be undone, and the markers themselves say
where.  Instrumenting with the markers removed is the same and then one more step, which takes the
markers off the instrumented declarations and touches nothing else.

Both the way back and the step in between look at the instrumented tree only.  That they find the
right declarations there is part of what is proved: the tags of the instrumented tree are the tags
of the tree it was made from.
-/

namespace Instrument
namespace Instrumentation

/-- The tree without the first statement in the body of each declaration that is tagged in it. -/
def undo (kind : MarkerKind) (tree : Tree Token) : Tree Token :=
  treat kind .unlayering tree

/-- The statements that `undo` takes out of a tree. -/
def undone (kind : MarkerKind) (tree : Tree Token) : List (Tree Token) :=
  ((declarations tree).filter (isInstrumented kind)).filterMap fun declaration =>
    declaration.statements?.bind List.head?

/-- The tree without the markers of the declarations that are tagged in it and have a body. -/
def removeMarkers (kind : MarkerKind) (tree : Tree Token) : Tree Token :=
  treat kind .unmarking tree

/-- The attributes that `removeMarkers` takes out of a tree. -/
def removedMarkers (kind : MarkerKind) (tree : Tree Token) : List (Tree Token) :=
  ((declarations tree).filter (isInstrumented kind)).flatMap fun declaration =>
    declaration.attributes.filter kind.isMarker

variable (kind : MarkerKind)

/-! ## What can be told from the instrumented tree -/

theorem declarations_treat_layers (policy : MarkerPolicy) (copies : Nat) (tree : Tree Token) :
    declarations (treat kind (.layers policy copies) tree) =
      (declarations tree).map (layered kind policy copies) := by
  rw [declarations_eq_map_declared none, declarations_eq_map_declared none tree,
    declared_treat_layers, List.map_map, List.map_map]
  rfl

theorem isInstrumented_layered_retain (copies : Nat) (declaration : Declaration) :
    isInstrumented kind (layered kind .retain copies declaration) =
      isInstrumented kind declaration := by
  rw [isInstrumented, isTagged_layered_retain, hasBody_layered, isInstrumented]

/-- The declarations that are instrumented in a layered tree are those of the tree. -/
theorem filter_isInstrumented_layers (copies : Nat) (tree : Tree Token) :
    (declarations (treat kind (.layers .retain copies) tree)).filter (isInstrumented kind) =
      ((declarations tree).filter (isInstrumented kind)).map (layered kind .retain copies) := by
  rw [declarations_treat_layers, List.filter_map]
  congr 1
  exact List.filter_congr fun declaration _ => isInstrumented_layered_retain kind copies declaration

theorem length_instrumentedNames (policy : MarkerPolicy) (owner : Owner) (tree : Tree Token) :
    (instrumentedNames (outcomes kind policy owner tree)).length =
      ((declarations tree).filter (isInstrumented kind)).length := by
  rw [instrumentedNames_outcomes, List.length_filterMap_eq_countP,
    declarations_eq_map_declared owner, ← List.countP_eq_length_filter, List.countP_map]
  congr 1
  funext found
  simp only [taggedName?, Function.comp_apply, isInstrumented]
  cases found.2.isTagged kind <;> cases found.2.hasBody <;> rfl

/-! ## The way back -/

/-- What `undo` takes out of an instrumented tree is the diagnostic, once for each declaration. -/
theorem undone_treat_layers (tree : Tree Token) :
    undone kind (treat kind (.layers .retain 1) tree) =
      List.replicate ((declarations tree).filter (isInstrumented kind)).length
        Diagnostic.statement := by
  rw [undone, filter_isInstrumented_layers, List.filterMap_map, ← List.map_const',
    ← List.filterMap_eq_map']
  refine List.filterMap_congr fun declaration member => ?_
  have instrumented := (List.mem_filter.mp member).2
  have hasBody := (Bool.and_eq_true_iff.mp instrumented).2
  obtain ⟨statements, body⟩ := Option.isSome_iff_exists.mp hasBody
  rw [Function.comp_apply, statements?_layered kind .retain 1 declaration instrumented, body]
  rfl

theorem undo_instrument (tree : Tree Token) :
    undo kind (instrument kind .retain tree) = tree := by
  rw [undo, instrument_eq_treat, treat_treat_of_retain _ _ _ rfl, unlayering_after_layers,
    treat_layers_zero]

/-- Instrumenting a file with its markers kept can be undone from the result alone.  What has to be
taken out is the diagnostic, as often as a declaration was reported, and nothing else; what is left
is the file. -/
theorem undo_instrument_retain (file : SourceFile) :
    let result := file.instrument kind .retain
    undone kind result.file.tree =
        List.replicate result.instrumented.length Diagnostic.statement ∧
      { result.file with tree := undo kind result.file.tree } = file := by
  intro result
  have reported : result.instrumented.length =
      ((declarations file.tree).filter (isInstrumented kind)).length :=
    length_instrumentedNames kind .retain none file.tree
  have tree : result.file.tree = treat kind (.layers .retain 1) file.tree :=
    instrument_eq_treat kind .retain file.tree
  constructor
  · rw [reported, tree]
    exact undone_treat_layers kind file.tree
  · exact congrArg (SourceFile.mk file.shebang) (undo_instrument kind file.tree)

/-! ## The step in between -/

theorem instrument_strip_eq (tree : Tree Token) :
    instrument kind .strip tree = removeMarkers kind (instrument kind .retain tree) := by
  rw [removeMarkers, instrument_eq_treat, instrument_eq_treat, treat_treat_of_retain _ _ _ rfl]
  rfl

/-- The attributes that an instrumented declaration loses under a policy. -/
def taken (policy : MarkerPolicy) (declaration : Declaration) : List (Tree Token) :=
  match policy with
  | .strip => declaration.attributes.filter kind.isMarker
  | .retain => []

theorem length_taken (policy : MarkerPolicy) (declaration : Declaration) :
    (taken kind policy declaration).length = policy.lost kind declaration.attributes := by
  cases policy with
  | strip => exact List.countP_eq_length_filter.symm
  | retain => rfl

/-- The number of markers reported is what the policy takes from the instrumented declarations. -/
theorem strippedMarkers_outcomes (policy : MarkerPolicy) (owner : Owner) (tree : Tree Token) :
    strippedMarkers (outcomes kind policy owner tree) =
      (((declarations tree).filter (isInstrumented kind)).flatMap (taken kind policy)).length := by
  rw [outcomes_eq_filterMap_declared, declarations_eq_map_declared owner]
  induction declared owner tree with
  | nil => rfl
  | cons found rest inductionHypothesis =>
      rw [List.filterMap_cons, List.map_cons, List.filter_cons, outcome?, isInstrumented]
      cases found.2.isTagged kind with
      | false => exact inductionHypothesis
      | true =>
          cases found.2.hasBody with
          | false => exact (Nat.zero_add _).trans inductionHypothesis
          | true =>
              refine Eq.trans ?_ List.length_append.symm
              exact congrArg₂ (· + ·) (length_taken kind policy found.2).symm inductionHypothesis

theorem strippedMarkers_outcomes_retain (owner : Owner) (tree : Tree Token) :
    strippedMarkers (outcomes kind .retain owner tree) = 0 := by
  have nothing : ((declarations tree).filter (isInstrumented kind)).flatMap (taken kind .retain) =
      [] := List.flatMap_eq_nil_iff.mpr fun _ _ => rfl
  rw [strippedMarkers_outcomes, nothing]
  rfl

theorem strippedMarkers_outcomes_strip (owner : Owner) (tree : Tree Token) :
    strippedMarkers (outcomes kind .strip owner tree) = (removedMarkers kind tree).length :=
  strippedMarkers_outcomes kind .strip owner tree

/-- Instrumenting with the markers kept takes none away from what is to be removed. -/
theorem length_removedMarkers_treat_layers (copies : Nat) (tree : Tree Token) :
    (removedMarkers kind (treat kind (.layers .retain copies) tree)).length =
      (removedMarkers kind tree).length := by
  rw [removedMarkers, filter_isInstrumented_layers, List.length_flatMap, List.map_map,
    removedMarkers, List.length_flatMap]
  congr 2
  funext declaration
  simp only [Function.comp_apply, ← List.countP_eq_length_filter]
  exact countMarkers_layered_retain kind copies declaration

/-- The two policies differ only in the markers.  Removing markers is keeping them and then taking
them off the declarations that are tagged and have a body.  These are the same declarations in the
instrumented file as in the file itself, and the same ones are reported; the number reported with
them is that of the attributes taken off. -/
theorem instrument_strip_eq_removeMarkers (file : SourceFile) :
    let kept := file.instrument kind .retain
    let removed := file.instrument kind .strip
    removed.file = { kept.file with tree := removeMarkers kind kept.file.tree } ∧
      (declarations kept.file.tree).map (isInstrumented kind) =
        (declarations file.tree).map (isInstrumented kind) ∧
      removed.instrumented = kept.instrumented ∧
      removed.skipped = kept.skipped ∧
      kept.stripped = 0 ∧
      removed.stripped = (removedMarkers kind kept.file.tree).length := by
  intro kept removed
  have tree : kept.file.tree = treat kind (.layers .retain 1) file.tree :=
    instrument_eq_treat kind .retain file.tree
  refine ⟨?_, ?_, ?_, ?_, ?_, ?_⟩
  · exact congrArg (SourceFile.mk file.shebang) (instrument_strip_eq kind file.tree)
  · rw [tree, declarations_treat_layers, List.map_map]
    exact List.map_congr_left fun declaration _ => isInstrumented_layered_retain kind 1 declaration
  · exact (instrumentedNames_outcomes kind .strip none file.tree).trans
      (instrumentedNames_outcomes kind .retain none file.tree).symm
  · exact (skippedNames_outcomes kind .strip none file.tree).trans
      (skippedNames_outcomes kind .retain none file.tree).symm
  · exact strippedMarkers_outcomes_retain kind none file.tree
  · rw [tree, length_removedMarkers_treat_layers]
    exact strippedMarkers_outcomes_strip kind none file.tree

end Instrumentation
end Instrument
