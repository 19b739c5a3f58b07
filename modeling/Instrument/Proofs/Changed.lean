import Instrument.Proofs.Agreement
import Instrument.Proofs.Policies
import Instrument.Proofs.Printing
import Instrument.Proofs.Words
import Mathlib.Tactic.TFAE

/-!
# What counts as a change

A file is printed anew only if instrumenting changed it, and otherwise its text is handed back.
Whether it was changed is told by what is reported: something was instrumented, or markers were
removed.  The statements below say that the report can be relied on in both directions.  If nothing
is reported the tree is the same tree; and if something is, the tree differs from the one before
even where lines are disregarded, whatever the instrumented bodies started with, because each of
them has one statement more.
-/

namespace Instrument

/-! ## Trees without lines -/

/-- The tree on no lines in particular. -/
def Tree.withoutLines (tree : Tree Token) : Tree Token :=
  tree.map fun token => ⟨token.lexeme, 0⟩

namespace Declaration

/-- The declaration with its tokens changed. -/
def map (change : Token → Token) (declaration : Declaration) : Declaration where
  callable := declaration.callable
  outer := declaration.outer.map change
  inner := declaration.inner.map change
  signature := declaration.signature.map change
  body := declaration.body.map change

/-- The number of statements in the body, none if there is no body. -/
def statementCount (declaration : Declaration) : Nat :=
  (declaration.statements?.getD []).length

theorem ofParts?_map (change : Token → Token) (node : Kind) (parts : List (Tree Token)) :
    ofParts? node (parts.map (Tree.map change)) = (ofParts? node parts).map (map change) :=
  ofParts?_map_of (fun _ _ _ _ _ => rfl) node parts

/-- A body is a body whatever its tokens are. -/
theorem isBody_map_iff (change : Token → Token) (tree : Tree Token) :
    IsBody (tree.map change) ↔ IsBody tree := by
  constructor
  · rintro ⟨opening, statements, closing, same⟩
    obtain ⟨parts, rfl, mapped⟩ := Tree.map_eq_node same
    obtain ⟨first, behind, rfl, -, mapped⟩ := List.map_eq_cons_iff.mp mapped
    obtain ⟨middle, last, rfl, isSequence, mapped⟩ := List.map_eq_cons_iff.mp mapped
    obtain ⟨last, rfl, -⟩ := List.map_eq_singleton_iff.mp mapped
    obtain ⟨inside, rfl, -⟩ := Tree.map_eq_node isSequence
    exact ⟨first, inside, last, rfl⟩
  · rintro ⟨opening, statements, closing, rfl⟩
    simp only [Tree.map_node, List.map_cons, List.map_nil]
    exact ⟨_, _, _, rfl⟩

theorem statementCount_map (change : Token → Token) (declaration : Declaration) :
    (declaration.map change).statementCount = declaration.statementCount := by
  cases body : declaration.hasBody with
  | true =>
      obtain ⟨opening, statements, closing, same⟩ := (hasBody_iff declaration).mp body
      simp [statementCount, statements?, map, same]
  | false =>
      have bodiless : (declaration.map change).hasBody = false := by
        rw [Bool.eq_false_iff, ne_eq, hasBody_iff] at body ⊢
        exact mt (isBody_map_iff change declaration.body).mp body
      rw [hasBody, Option.isSome_eq_false_iff, Option.isNone_iff_eq_none] at body bodiless
      rw [statementCount, statementCount, body, bodiless]

end Declaration

theorem declarations_map (change : Token → Token) (tree : Tree Token) :
    declarations (tree.map change) = (declarations tree).map (Declaration.map change) := by
  induction tree using Tree.induction with
  | leaf token => rfl
  | node node parts inductionHypothesis =>
      rw [Tree.map_node, declarations, declarations, declarationsOfParts_eq_flatMap,
        declarationsOfParts_eq_flatMap, Declaration.ofParts?_map, List.map_append,
        List.map_flatMap, List.flatMap_map]
      congr 1
      · cases Declaration.ofParts? node parts <;> rfl
      · exact List.flatMap_congr inductionHypothesis

namespace Instrumentation

variable (kind : MarkerKind)

/-! ## Where something is instrumented -/

/-- The body of an instrumented declaration has one statement more for each diagnostic. -/
theorem statementCount_layered (policy : MarkerPolicy) (copies : Nat) (declaration : Declaration)
    (instrumented : isInstrumented kind declaration = true) :
    (layered kind policy copies declaration).statementCount =
      copies + declaration.statementCount := by
  have hasBody := (Bool.and_eq_true_iff.mp instrumented).2
  obtain ⟨statements, body⟩ := Option.isSome_iff_exists.mp hasBody
  rw [Declaration.statementCount, statements?_layered kind policy copies declaration instrumented,
    Declaration.statementCount, body]
  simp

/-- No instrumented tree is the tree before it, not even on other lines. -/
theorem untouched_of_withoutLines_eq (policy : MarkerPolicy) (tree : Tree Token)
    (same : (instrument kind policy tree).withoutLines = tree.withoutLines) :
    ∀ declaration ∈ declarations tree, isInstrumented kind declaration = false := by
  have counts := congrArg (fun tree => (declarations tree).map Declaration.statementCount) same
  rw [instrument_eq_treat] at counts
  simp only [Tree.withoutLines, declarations_map, declarations_treat_layers, List.map_map,
    Function.comp_def, Declaration.statementCount_map] at counts
  intro declaration member
  rw [← Bool.not_eq_true]
  intro instrumented
  have more := statementCount_layered kind policy 1 declaration instrumented
  have equal := List.map_inj_left.mp counts declaration member
  omega

/-- Every instrumented declaration has a marker that can be removed. -/
theorem removedMarkers_eq_nil_iff (tree : Tree Token) :
    removedMarkers kind tree = [] ↔
      ∀ declaration ∈ declarations tree, isInstrumented kind declaration = false := by
  rw [removedMarkers, List.flatMap_eq_nil_iff]
  constructor
  · intro nothing declaration member
    rw [← Bool.not_eq_true]
    intro instrumented
    have tagged := (Bool.and_eq_true_iff.mp instrumented).1
    have marked := (Bool.and_eq_true_iff.mp tagged).2
    obtain ⟨candidate, carried, marker⟩ := List.any_eq_true.mp marked
    have empty := nothing declaration (List.mem_filter.mpr ⟨member, instrumented⟩)
    exact List.not_mem_nil (empty ▸ List.mem_filter.mpr ⟨carried, marker⟩)
  · intro untouched declaration member
    obtain ⟨inside, instrumented⟩ := List.mem_filter.mp member
    cases instrumented.symm.trans (untouched declaration inside)

end Instrumentation

namespace InstrumentedFile

open Instrumentation

section Reports

variable (kind : MarkerKind) (policy : MarkerPolicy) (file : SourceFile)

theorem instrumented_eq_nil_iff :
    (file.instrument kind policy).instrumented = [] ↔
      ∀ declaration ∈ declarations file.tree, isInstrumented kind declaration = false := by
  have reported : (file.instrument kind policy).instrumented.length =
      ((declarations file.tree).filter (isInstrumented kind)).length :=
    length_instrumentedNames kind policy none file.tree
  rw [← List.length_eq_zero_iff, reported, List.length_eq_zero_iff, List.filter_eq_nil_iff]
  simp only [Bool.not_eq_true]

/-- The file is the same exactly if nothing in it was instrumented. -/
theorem file_eq_iff :
    (file.instrument kind policy).file = file ↔
      (file.instrument kind policy).instrumented = [] := by
  rw [instrumented_eq_nil_iff]
  constructor
  · intro same
    exact untouched_of_withoutLines_eq kind policy file.tree
      (congrArg (fun file => file.tree.withoutLines) same)
  · intro untouched
    have tree : Instrumentation.instrument kind policy file.tree = file.tree :=
      (instrument_eq_treat kind policy file.tree).trans
        (treat_of_untouched kind _ file.tree untouched)
    exact congrArg (SourceFile.mk file.shebang) tree

/-- Markers are removed exactly where a policy that removes them has changed something. -/
theorem stripped_pos_iff :
    0 < (file.instrument kind policy).stripped ↔
      policy = .strip ∧ (file.instrument kind policy).changed = true := by
  cases policy with
  | retain =>
      have none : (file.instrument kind .retain).stripped = 0 :=
        strippedMarkers_outcomes_retain kind none file.tree
      simp [none]
  | strip =>
      have removed : (file.instrument kind .strip).stripped =
          (removedMarkers kind file.tree).length :=
        strippedMarkers_outcomes_strip kind none file.tree
      rw [removed, List.length_pos_iff, ← Bool.not_eq_false, changed_eq_false_iff, ne_eq,
        removedMarkers_eq_nil_iff, instrumented_eq_nil_iff]
      simp

end Reports

/-- That a file was changed can be told by each of these: something was instrumented; the file is
another one; its tree is another one even without its lines; a tagged declaration with a body was
there to be found.  Markers are removed exactly if the policy removes them and the file was changed.
The text is handed back if the file is the same, and otherwise the new file is printed. -/
theorem changed_tfae (kind : MarkerKind) (policy : MarkerPolicy) (file : SourceFile) :
    let result := file.instrument kind policy
    List.TFAE [result.changed = true,
        result.instrumented ≠ [],
        result.file ≠ file,
        result.file.tree.withoutLines ≠ file.tree.withoutLines,
        ∃ declaration ∈ (kind.scan file.tree).tagged, declaration.hasBody = true] ∧
      (0 < result.stripped ↔ policy = .strip ∧ result.changed = true) ∧
      ∀ source, result.render? source =
        if result.file = file then some source
        else if result.file.canPrint then some result.file.text else none := by
  intro result
  refine ⟨?_, stripped_pos_iff kind policy file, fun source => ?_⟩
  · tfae_have 1 ↔ 2 := by
      rw [← Bool.not_eq_false, ne_eq, result.changed_eq_false_iff]
    tfae_have 2 → 4 := by
      intro something same
      have untouched := untouched_of_withoutLines_eq kind policy file.tree same
      exact something ((instrumented_eq_nil_iff kind policy file).mpr untouched)
    tfae_have 4 → 3 := by
      intro different same
      exact different (congrArg (fun file => file.tree.withoutLines) same)
    tfae_have 3 → 2 := mt (file_eq_iff kind policy file).mpr
    tfae_have 2 ↔ 5 := by
      have listed := (scan_tagged_eq_reported kind policy file).1
      rw [← listed, ne_eq, List.map_eq_nil_iff, List.filter_eq_nil_iff]
      push Not
      rfl
    tfae_finish
  · have flag := result.changed_eq_false_iff
    rw [← file_eq_iff kind policy file] at flag
    unfold render?
    cases changed : result.changed with
    | true => rw [if_pos rfl, if_neg (mt flag.mpr (by simp [changed]))]
    | false => rw [if_neg Bool.false_ne_true, if_pos (flag.mp changed)]

end InstrumentedFile
end Instrument
