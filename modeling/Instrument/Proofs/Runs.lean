import Instrument.Proofs.Policies
import Mathlib.Data.List.Forall2

/-!
# Instrumenting again and again

A file can be instrumented several times in a row, each time under a policy of its own.  Until the
first policy that removes the markers, every step meets the same tagged declarations and puts one
more diagnostic in front of their bodies.  That policy still does so, and from then on no
declaration with a body is tagged and nothing is left to do.

The invariant of a run is that the tree is the original one behind a single layer.  Its size is the
number of steps up to the first removal, and it has removed the markers if there was such a step.
-/

namespace Instrument
namespace Instrumentation

/-- A file and what instrumenting made of it. -/
structure Step where
  input : SourceFile
  result : InstrumentedFile

/-- Instrument a file once for each policy, each time what the step before has left. -/
def steps (kind : MarkerKind) : List MarkerPolicy → SourceFile → List Step
  | [], _ => []
  | policy :: rest, file =>
    let result := file.instrument kind policy
    ⟨file, result⟩ :: steps kind rest result.file

/-- The file that the last step leaves. -/
def lastFile (kind : MarkerKind) (policies : List MarkerPolicy) (file : SourceFile) : SourceFile :=
  policies.foldl (fun current policy => (current.instrument kind policy).file) file

/-- The number of steps up to the first one that removes the markers, or of all steps if there is
none. -/
def activeSteps : List MarkerPolicy → Nat
  | [] => 0
  | .strip :: _ => 1
  | .retain :: rest => activeSteps rest + 1

/-- What has happened to the markers behind all steps. -/
def lastingPolicy (policies : List MarkerPolicy) : MarkerPolicy :=
  if .strip ∈ policies then .strip else .retain

theorem lastingPolicy_strip_cons (rest : List MarkerPolicy) :
    lastingPolicy (.strip :: rest) = .strip := by
  rw [lastingPolicy, if_pos List.mem_cons_self]

theorem lastingPolicy_retain_cons (rest : List MarkerPolicy) :
    lastingPolicy (.retain :: rest) = lastingPolicy rest := by
  simp only [lastingPolicy, List.mem_cons, reduceCtorEq, false_or]

theorem lastingPolicy_take_of_lt (policies : List MarkerPolicy) (index : Nat)
    (early : index < activeSteps policies) : lastingPolicy (policies.take index) = .retain := by
  induction policies generalizing index with
  | nil => exact absurd early (Nat.not_lt_zero index)
  | cons policy rest inductionHypothesis =>
      cases index with
      | zero => rfl
      | succ index =>
          cases policy with
          | strip => exact absurd (Nat.lt_of_succ_lt_succ early) (Nat.not_lt_zero index)
          | retain =>
              rw [List.take_succ_cons, lastingPolicy_retain_cons]
              exact inductionHypothesis index (Nat.lt_of_succ_lt_succ early)

theorem lastingPolicy_take_of_le (policies : List MarkerPolicy) (index : Nat)
    (late : activeSteps policies ≤ index) (inRun : index < policies.length) :
    lastingPolicy (policies.take index) = .strip := by
  induction policies generalizing index with
  | nil => exact absurd inRun (Nat.not_lt_zero index)
  | cons policy rest inductionHypothesis =>
      cases index with
      | zero => cases policy <;> exact absurd late (Nat.not_succ_le_zero _)
      | succ index =>
          rw [List.take_succ_cons]
          cases policy with
          | strip => exact lastingPolicy_strip_cons _
          | retain =>
              rw [lastingPolicy_retain_cons]
              exact inductionHypothesis index (Nat.le_of_succ_le_succ late)
                (Nat.lt_of_succ_lt_succ inRun)

/-- Only the last active step can remove markers. -/
theorem getElem?_of_succ_lt_activeSteps (policies : List MarkerPolicy) (index : Nat)
    (early : index + 1 < activeSteps policies) : policies[index]? = some .retain := by
  induction policies generalizing index with
  | nil => exact absurd early (Nat.not_lt_zero _)
  | cons policy rest inductionHypothesis =>
      cases policy with
      | strip => exact absurd (Nat.lt_of_succ_lt_succ early) (Nat.not_lt_zero index)
      | retain =>
          cases index with
          | zero => rfl
          | succ index => exact inductionHypothesis index (Nat.lt_of_succ_lt_succ early)

variable (kind : MarkerKind)

/-! ## The invariant -/

/-- The tree of a run is the original one behind a single layer. -/
theorem tree_lastFile (policies : List MarkerPolicy) (file : SourceFile) :
    lastFile kind policies file =
      { file with
        tree :=
          treat kind (.layers (lastingPolicy policies) (activeSteps policies)) file.tree } := by
  induction policies generalizing file with
  | nil =>
      have unchanged : treat kind (.layers (lastingPolicy []) (activeSteps [])) file.tree =
          file.tree := treat_layers_zero kind file.tree
      rw [unchanged]
      rfl
  | cons policy rest inductionHypothesis =>
      have next : lastFile kind (policy :: rest) file =
          lastFile kind rest (file.instrument kind policy).file := rfl
      have tree : (file.instrument kind policy).file =
          { file with tree := treat kind (.layers policy 1) file.tree } :=
        congrArg (SourceFile.mk file.shebang) (instrument_eq_treat kind policy file.tree)
      rw [next, inductionHypothesis, tree]
      cases policy with
      | strip =>
          rw [treat_treat_of_strip kind _ _ rfl, lastingPolicy_strip_cons]
          rfl
      | retain =>
          rw [treat_treat_of_retain kind _ _ rfl, layers_after_layers, lastingPolicy_retain_cons]
          rfl

/-- The declarations of a run keep their places, and an instrumented one has its own statements
behind the diagnostics. -/
theorem statements?_lastFile (policies : List MarkerPolicy) (file : SourceFile) :
    List.Forall₂ (fun original last => isInstrumented kind original = true →
        last.statements? = original.statements?.map fun statements =>
          List.replicate (activeSteps policies) Diagnostic.statement ++
            statements.map
              (treat kind (.layers (lastingPolicy policies) (activeSteps policies))))
      (declarations file.tree) (declarations (lastFile kind policies file).tree) := by
  rw [tree_lastFile, declarations_treat_layers, List.forall₂_map_right_iff, List.forall₂_same]
  intro declaration _ instrumented
  exact statements?_layered kind _ _ declaration instrumented

theorem getElem?_steps (policies : List MarkerPolicy) (file : SourceFile) (index : Nat) :
    (steps kind policies file)[index]? = policies[index]?.map fun policy =>
      let input := lastFile kind (policies.take index) file
      ⟨input, input.instrument kind policy⟩ := by
  induction policies generalizing file index with
  | nil => rfl
  | cons policy rest inductionHypothesis =>
      cases index with
      | zero => rfl
      | succ index => exact inductionHypothesis _ index

theorem length_steps (policies : List MarkerPolicy) (file : SourceFile) :
    (steps kind policies file).length = policies.length := by
  induction policies generalizing file with
  | nil => rfl
  | cons policy rest inductionHypothesis => exact congrArg (· + 1) (inductionHypothesis _)

/-! ## One step of a run -/

theorem instrumentedNames_filter_isSkipped (outcomes : List Outcome) :
    instrumentedNames (outcomes.filter Outcome.isSkipped) = [] := by
  rw [instrumentedNames, List.filterMap_eq_nil_iff]
  intro outcome member
  cases outcome with
  | instrumented name stripped => cases (List.mem_filter.mp member).2
  | skipped name => rfl

theorem skippedNames_filter_isSkipped (outcomes : List Outcome) :
    skippedNames (outcomes.filter Outcome.isSkipped) = skippedNames outcomes := by
  rw [skippedNames, List.filterMap_filter, skippedNames]
  refine List.filterMap_congr fun outcome _ => ?_
  cases outcome <;> rfl

theorem strippedMarkers_filter_isSkipped (outcomes : List Outcome) :
    strippedMarkers (outcomes.filter Outcome.isSkipped) = 0 := by
  induction outcomes with
  | nil => rfl
  | cons outcome rest inductionHypothesis =>
      cases outcome with
      | instrumented name stripped => exact inductionHypothesis
      | skipped name => exact (Nat.zero_add _).trans inductionHypothesis

/-- A step before which all markers were kept reports what the original file would report. -/
theorem outcomes_step_of_retain (policies : List MarkerPolicy) (policy : MarkerPolicy)
    (file : SourceFile) (kept : lastingPolicy policies = .retain) :
    ((lastFile kind policies file).instrument kind policy).outcomes =
      (file.instrument kind policy).outcomes := by
  rw [tree_lastFile, kept]
  exact outcomes_treat_layers_retain kind policy none _ file.tree

/-- A step before which markers were removed reports the declarations without a body. -/
theorem outcomes_step_of_strip (policies : List MarkerPolicy) (policy : MarkerPolicy)
    (file : SourceFile) (removed : lastingPolicy policies = .strip) :
    ((lastFile kind policies file).instrument kind policy).outcomes =
      (file.instrument kind policy).outcomes.filter Outcome.isSkipped := by
  rw [tree_lastFile, removed]
  exact outcomes_treat_layers_strip kind policy none _ file.tree

/-- A step before which markers were removed changes nothing. -/
theorem file_step_of_strip (policies : List MarkerPolicy) (policy : MarkerPolicy)
    (file : SourceFile) (removed : lastingPolicy policies = .strip) :
    ((lastFile kind policies file).instrument kind policy).file = lastFile kind policies file := by
  rw [tree_lastFile, removed]
  refine congrArg (SourceFile.mk file.shebang) ?_
  rw [instrument_eq_treat, treat_treat_of_strip kind _ _ rfl]

theorem skipped_step (policies : List MarkerPolicy) (policy other : MarkerPolicy)
    (file : SourceFile) :
    ((lastFile kind policies file).instrument kind policy).skipped =
      (file.instrument kind other).skipped := by
  have original : (file.instrument kind policy).skipped = (file.instrument kind other).skipped :=
    (skippedNames_outcomes kind policy none file.tree).trans
      (skippedNames_outcomes kind other none file.tree).symm
  rw [← original, InstrumentedFile.skipped]
  cases removed : lastingPolicy policies with
  | retain => rw [outcomes_step_of_retain kind policies policy file removed]; rfl
  | strip =>
      rw [outcomes_step_of_strip kind policies policy file removed,
        skippedNames_filter_isSkipped]
      rfl

/-! ## A whole run -/

/-- Up to the first policy that removes the markers, each step of a run reports the same
declarations as the first one and removes nothing before it.  Each step behind it reports nothing
but the declarations without a body, which every step reports, and changes nothing.  In the end
the tree is the original one behind a layer of the active steps: each body that was tagged has one
diagnostic for each of them in front of its own statements, and these are treated in the same
way. -/
theorem steps_until_removal (policies : List MarkerPolicy) (file : SourceFile) :
    let run := steps kind policies file
    let active := activeSteps policies
    run.length = policies.length ∧
      (∀ (index : Nat) (first step : Step), run[0]? = some first → run[index]? = some step →
        (index < active → step.result.instrumented = first.result.instrumented) ∧
        (index + 1 < active → step.result.stripped = 0) ∧
        (active ≤ index →
          step.result.instrumented = [] ∧ step.result.stripped = 0 ∧
            step.result.changed = false ∧ step.result.file = step.input) ∧
        step.result.skipped = first.result.skipped) ∧
      lastFile kind policies file =
        { file with
          tree := treat kind (.layers (lastingPolicy policies) active) file.tree } ∧
      List.Forall₂ (fun original last => isInstrumented kind original = true →
          last.statements? = original.statements?.map fun statements =>
            List.replicate active Diagnostic.statement ++
              statements.map (treat kind (.layers (lastingPolicy policies) active)))
        (declarations file.tree) (declarations (lastFile kind policies file).tree) := by
  intro run active
  refine ⟨length_steps kind policies file, ?_, tree_lastFile kind policies file,
    statements?_lastFile kind policies file⟩
  intro index first step atStart atIndex
  rw [getElem?_steps] at atStart atIndex
  obtain ⟨firstPolicy, _, rfl⟩ := Option.map_eq_some_iff.mp atStart
  obtain ⟨policy, found, rfl⟩ := Option.map_eq_some_iff.mp atIndex
  have inRun : index < policies.length := (List.getElem?_eq_some_iff.mp found).1
  refine ⟨fun early => ?_, fun early => ?_, fun late => ?_, ?_⟩
  · have kept := lastingPolicy_take_of_lt policies index early
    have same := outcomes_step_of_retain kind _ policy file kept
    exact (congrArg instrumentedNames same).trans
      ((instrumentedNames_outcomes kind policy none file.tree).trans
        (instrumentedNames_outcomes kind firstPolicy none file.tree).symm)
  · have retains := (getElem?_of_succ_lt_activeSteps policies index early).symm.trans found
    cases retains
    exact strippedMarkers_outcomes_retain kind none _
  · have removed := lastingPolicy_take_of_le policies index late inRun
    have outcomes := outcomes_step_of_strip kind _ policy file removed
    have instrumented := (congrArg instrumentedNames outcomes).trans
      (instrumentedNames_filter_isSkipped _)
    have stripped := (congrArg strippedMarkers outcomes).trans
      (strippedMarkers_filter_isSkipped _)
    refine ⟨instrumented, stripped, ?_, file_step_of_strip kind _ policy file removed⟩
    simp only [InstrumentedFile.changed, InstrumentedFile.instrumented,
      InstrumentedFile.stripped, instrumented, stripped]
    rfl
  · exact skipped_step kind _ policy firstPolicy file

/-- A tagged declaration with the given body, or a semicolon in place of one. -/
def taggedFunction (node : Kind) (name : String) (body : Tree Token) : Tree Token :=
  let leaf := Diagnostic.leaf
  let path : Tree Token := .node .path
    [.absent, .sequence [.node .segment [leaf (.word "method_logger"), .absent]]]
  let marker : Tree Token := .node .outerAttribute
    [leaf (.mark "#" false), leaf (.opening .bracket), .node .metaPath [path],
      leaf (.closing .bracket)]
  let signature : Tree Token := .node .signature
    [.absent, .absent, .absent, .absent, leaf (.word "fn"), leaf (.word name), .absent, .absent,
      leaf (.opening .parenthesis), .sequence [], leaf (.closing .parenthesis), .absent]
  .node node [.sequence [marker], .sequence [], .absent, .absent, signature, body]

/-- A file with a tagged function in the body of another one, and one that has no body. -/
def nestedFile : SourceFile :=
  let block (statements : List (Tree Token)) : Tree Token := .node .block
    [Diagnostic.leaf (.opening .brace), .sequence statements, Diagnostic.leaf (.closing .brace)]
  let inner := taggedFunction .function "inner" (block [])
  let outer := taggedFunction .function "outer" (block [inner])
  let bodiless := taggedFunction .foreignFunction "bodiless" (Diagnostic.leaf (.mark ";" false))
  ⟨none, .node .file [.sequence [], .sequence [outer, bodiless]]⟩

/-- Of three steps, the second one of which removes the markers, the last one has nothing to do. -/
theorem steps_until_removal_nestedFile :
    let run := steps .methodLogger [.retain, .strip, .retain] nestedFile
    ∃ first last, run[0]? = some first ∧ run[2]? = some last ∧
      first.result.instrumented = ["outer", "inner"] ∧ first.result.skipped = ["bodiless"] ∧
      last.result.instrumented = [] ∧ last.result.file = last.input ∧
      last.result.skipped = ["bodiless"] := by
  have whole := (steps_until_removal .methodLogger [.retain, .strip, .retain] nestedFile).2.1
  obtain ⟨_, _, late, skipped⟩ := whole 2 _ _ rfl rfl
  obtain ⟨instrumented, _, _, unchanged⟩ := late (by decide)
  exact ⟨_, _, rfl, rfl, by decide, by decide, instrumented, unchanged, skipped.trans (by decide)⟩

end Instrumentation
end Instrument
