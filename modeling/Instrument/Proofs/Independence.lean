import Instrument.Proofs.Runs
import Instrument.Proofs.Unmentioned

/-!
# Kinds of markers that do not interfere

A path that spells a marker ends in the name of the marker.  So an attribute is a marker of no two
kinds with different names, whatever crates the kinds are exported by.  Instrumenting for one kind
takes out only its own markers and puts in a diagnostic that is the same for every kind.  What the
other kind is about, on the same declaration or elsewhere, is therefore the same before and after,
and two passes for different kinds can be made in either order.
-/

namespace Instrument

namespace MarkerKind

variable {first second : MarkerKind}

/-- A path spells markers of one name only. -/
theorem name_eq_of_matchesPath {path : Tree Token} (matching : first.matchesPath path = true)
    (matching' : second.matchesPath path = true) : first.name = second.name := by
  rcases exists_name_of_matchesPath matching with ⟨leading, segments, name, rest, same, last, word⟩
  rcases exists_name_of_matchesPath matching' with
    ⟨leading', segments', name', rest', same', last', word'⟩
  cases same.symm.trans same'
  cases last.symm.trans last'
  exact Option.some.inj (word.symm.trans word')

theorem name_eq_of_isNamedBy {candidate : Tree Token} (named : first.isNamedBy candidate = true)
    (named' : second.isNamedBy candidate = true) : first.name = second.name := by
  rcases exists_attributePath?_of_isNamedBy named with ⟨path, found, matching⟩
  rcases exists_attributePath?_of_isNamedBy named' with ⟨path', found', matching'⟩
  cases found.symm.trans found'
  exact name_eq_of_matchesPath matching matching'

variable (different : first.name ≠ second.name)

include different

/-- No attribute is a marker of two kinds with different names. -/
theorem not_isMarker_and_isMarker (candidate : Tree Token) :
    (!first.isMarker candidate && second.isMarker candidate) = second.isMarker candidate := by
  cases marker : second.isMarker candidate with
  | false => exact Bool.and_false _
  | true =>
      cases marker' : first.isMarker candidate with
      | false => rfl
      | true =>
          have named := (Bool.and_eq_true_iff.mp marker').2
          have named' := (Bool.and_eq_true_iff.mp marker).2
          exact absurd (name_eq_of_isNamedBy named named') different

/-- Among attributes that a policy leaves for one kind are all markers of the other one. -/
theorem any_leaves (policy : MarkerPolicy) (attributes : List (Tree Token)) :
    (policy.leaves first attributes).any second.isMarker = attributes.any second.isMarker := by
  cases policy with
  | retain => rfl
  | strip =>
      rw [MarkerPolicy.leaves, MarkerKind.strip, List.any_filter]
      exact congrArg attributes.any (funext (not_isMarker_and_isMarker different))

theorem countMarkers_leaves (policy : MarkerPolicy) (attributes : List (Tree Token)) :
    second.countMarkers (policy.leaves first attributes) = second.countMarkers attributes := by
  cases policy with
  | retain => rfl
  | strip =>
      rw [MarkerPolicy.leaves, MarkerKind.strip, countMarkers, List.countP_filter, countMarkers]
      refine List.countP_congr fun candidate _ => ?_
      rw [Bool.and_comm, not_isMarker_and_isMarker different]

end MarkerKind

/-! ## What a pass for one kind leaves of another -/

section Declarations

variable {first second : MarkerKind} (different : first.name ≠ second.name)

include different

theorem isTagged_onDeclaration_other (treatment : Treatment) (declaration : Declaration) :
    (treatment.onDeclaration first declaration).isTagged second =
      declaration.isTagged second := by
  rw [Declaration.isTagged, Declaration.isMarked, attributes_onDeclaration,
    MarkerKind.any_leaves different]
  rfl

theorem changesNode_onParts_other (treatment : Treatment) (node : Kind)
    (parts : List (Tree Token)) :
    Instrumentation.changesNode second node (treatment.onParts first parts) =
      Instrumentation.changesNode second node parts := by
  rw [Instrumentation.changesNode, ofParts?_onParts, Instrumentation.changesNode]
  cases Declaration.ofParts? node parts with
  | none => rfl
  | some declaration =>
      simp only [Option.map_some, Instrumentation.isInstrumented, hasBody_onDeclaration,
        isTagged_onDeclaration_other different]

variable (policy : MarkerPolicy) (copies : Nat) (declaration : Declaration)

theorem isTagged_layered_other :
    (layered first policy copies declaration).isTagged second = declaration.isTagged second := by
  unfold layered
  split
  next => rw [isTagged_onDeclaration_other different, isTagged_treatInside]
  next => rw [isTagged_treatInside]

theorem countMarkers_layered_other :
    second.countMarkers (layered first policy copies declaration).attributes =
      second.countMarkers declaration.attributes := by
  unfold layered
  split
  next =>
      rw [attributes_onDeclaration, MarkerKind.countMarkers_leaves different]
      exact countMarkers_treatInside first _ second declaration
  next => exact countMarkers_treatInside first _ second declaration

/-- Behind a layer for one kind, the same is said of a declaration for the other one. -/
theorem outcome?_layered_other (other : MarkerPolicy) (owner : Owner) :
    Instrumentation.outcome? second other owner (layered first policy copies declaration) =
      Instrumentation.outcome? second other owner declaration := by
  have lost : other.lost second (layered first policy copies declaration).attributes =
      other.lost second declaration.attributes := by
    cases other with
    | retain => rfl
    | strip => exact countMarkers_layered_other different policy copies declaration
  simp only [Instrumentation.outcome?, isTagged_layered_other different, qualify_layered,
    hasBody_layered, lost]

theorem outcomes_treat_layers_other (other : MarkerPolicy) (owner : Owner) (tree : Tree Token) :
    Instrumentation.outcomes second other owner (treat first (.layers policy copies) tree) =
      Instrumentation.outcomes second other owner tree := by
  rw [Instrumentation.outcomes_eq_filterMap_declared,
    Instrumentation.outcomes_eq_filterMap_declared, declared_treat_layers, List.filterMap_map]
  exact List.filterMap_congr fun found _ =>
    outcome?_layered_other different policy copies found.2 other found.1

end Declarations

/-! ## Two passes in either order -/

section Order

variable (first second : MarkerKind) (policy other : MarkerPolicy) (copies below : Nat)

theorem apply_comm (attributes : Tree Token) :
    other.apply second (policy.apply first attributes) =
      policy.apply first (other.apply second attributes) := by
  cases attributes with
  | leaf token => rfl
  | node node parts =>
      cases node with
      | sequence =>
          cases policy <;> cases other <;> try rfl
          exact congrArg (Tree.node .sequence) (List.filter_comm _ _ parts)
      | _ => rfl

theorem onBody_layers_comm (body : Tree Token) :
    (Treatment.layers other below).onBody ((Treatment.layers policy copies).onBody body) =
      (Treatment.layers policy copies).onBody ((Treatment.layers other below).onBody body) := by
  rw [onBody_onBody, onBody_onBody, layers_after_layers, layers_after_layers, Nat.add_comm]
  rfl

theorem onParts_layers_comm (parts : List (Tree Token)) :
    (Treatment.layers other below).onParts second
        ((Treatment.layers policy copies).onParts first parts) =
      (Treatment.layers policy copies).onParts first
        ((Treatment.layers other below).onParts second parts) := by
  match parts with
  | [] | [_] | [_, _] | [_, _, _] | [_, _, _, _] | [_, _, _, _, _] => rfl
  | [outer, inner, visibility, mode, signature, body] =>
      simp only [Treatment.onParts, layers_policy, apply_comm first second,
        onBody_layers_comm policy other]
  | _ :: _ :: _ :: _ :: _ :: _ :: _ :: _ => rfl

variable {first second}

/-- Of two treatments of a node for different kinds, each one is made exactly if it would be made
by itself, and both are made in front of what is inside the node. -/
theorem treatedParts_treatedParts (different : first.name ≠ second.name)
    (treatment next : Treatment) (node : Kind) (parts : List (Tree Token)) :
    treatedParts second next node (treatedParts first treatment node parts) =
      let inside := (parts.map (treat first treatment)).map (treat second next)
      let treated := if Instrumentation.changesNode first node parts then
        treatment.onParts first inside else inside
      if Instrumentation.changesNode second node parts then next.onParts second treated
      else treated := by
  have meets : Instrumentation.changesNode second node (treatedParts first treatment node parts) =
      Instrumentation.changesNode second node parts := by
    rw [treatedParts]
    split
    next => rw [changesNode_onParts_other different, changesNode_map_treat]
    next => rw [changesNode_map_treat]
  have moved : (treatedParts first treatment node parts).map (treat second next) =
      if Instrumentation.changesNode first node parts then
        treatment.onParts first ((parts.map (treat first treatment)).map (treat second next))
      else (parts.map (treat first treatment)).map (treat second next) := by
    rw [treatedParts]
    split
    next => exact (onParts_map_treat second next treatment first _).symm
    next => rfl
  rw [treatedParts, meets, moved]

/-- Layers for different kinds can be put on a tree in either order. -/
theorem treat_layers_comm (different : first.name ≠ second.name) (tree : Tree Token) :
    treat second (.layers other below) (treat first (.layers policy copies) tree) =
      treat first (.layers policy copies) (treat second (.layers other below) tree) := by
  induction tree using Tree.induction with
  | leaf token => rfl
  | node node parts inductionHypothesis =>
      have inside : (parts.map (treat first (.layers policy copies))).map
            (treat second (.layers other below)) =
          (parts.map (treat second (.layers other below))).map
            (treat first (.layers policy copies)) := by
        rw [List.map_map, List.map_map]
        exact List.map_congr_left inductionHypothesis
      rw [treat_node, treat_node, treat_node, treat_node]
      congr 1
      rw [treatedParts_treatedParts different, treatedParts_treatedParts different.symm, inside]
      dsimp only
      split <;> split <;> first | rfl | exact onParts_layers_comm first second _ _ _ _ _

end Order

/-- Two passes for kinds of markers with different names, each under a policy of its own, leave the
same file in whatever order they are made.  Each of them reports the same whether it is the first
one or the second one, or the only one. -/
theorem instrument_comm {first second : MarkerKind} (different : first.name ≠ second.name)
    (policy other : MarkerPolicy) (file : SourceFile) :
    let alone := file.instrument first policy
    let otherAlone := file.instrument second other
    let behind := otherAlone.file.instrument first policy
    let otherBehind := alone.file.instrument second other
    otherBehind.file = behind.file ∧
      (behind.instrumented = alone.instrumented ∧ behind.skipped = alone.skipped ∧
        behind.stripped = alone.stripped) ∧
      (otherBehind.instrumented = otherAlone.instrumented ∧
        otherBehind.skipped = otherAlone.skipped ∧
        otherBehind.stripped = otherAlone.stripped) := by
  intro alone otherAlone behind otherBehind
  have tree : otherBehind.file = behind.file := by
    refine congrArg (SourceFile.mk file.shebang) ?_
    simp only [alone, otherAlone, SourceFile.instrument, instrument_eq_treat]
    exact treat_layers_comm policy other 1 1 different file.tree
  have outcomes : behind.outcomes = alone.outcomes := by
    simp only [behind, alone, otherAlone, SourceFile.instrument, instrument_eq_treat]
    exact outcomes_treat_layers_other different.symm other 1 policy none file.tree
  have otherOutcomes : otherBehind.outcomes = otherAlone.outcomes := by
    simp only [otherBehind, alone, otherAlone, SourceFile.instrument, instrument_eq_treat]
    exact outcomes_treat_layers_other different policy 1 other none file.tree
  refine ⟨tree, ⟨?_, ?_, ?_⟩, ?_, ?_, ?_⟩
  · exact congrArg Instrumentation.instrumentedNames outcomes
  · exact congrArg Instrumentation.skippedNames outcomes
  · exact congrArg Instrumentation.strippedMarkers outcomes
  · exact congrArg Instrumentation.instrumentedNames otherOutcomes
  · exact congrArg Instrumentation.skippedNames otherOutcomes
  · exact congrArg Instrumentation.strippedMarkers otherOutcomes

/-- A function with markers of two kinds, and another one with a marker of each kind that has no
effect. -/
theorem instrument_comm_both :
    let source := "#[traced]\n#[logs::method_logger]\nfn main() \x7b\x7d\n\n" ++
      "#[traced(level)]\nfn quiet() \x7b #![method_logger] \x7d\n"
    let logger : MarkerKind := ⟨"method_logger", ["logs"]⟩
    let tracer : MarkerKind := ⟨"traced", ["logs"]⟩
    ∃ file, SourceFile.parseProgram source = .ok file ∧
      let logged := file.instrument logger .strip
      let traced := file.instrument tracer .retain
      logged.instrumented = ["main"] ∧ logged.stripped = 1 ∧
        traced.instrumented = ["main"] ∧ traced.stripped = 0 ∧
        (traced.file.instrument logger .strip).instrumented = ["main"] ∧
        (traced.file.instrument logger .strip).stripped = 1 ∧
        (logged.file.instrument tracer .retain).file =
          (traced.file.instrument logger .strip).file := by
  intro source logger tracer
  have reports : (SourceFile.parseProgram source).toOption.any (fun file =>
      decide ((file.instrument logger .strip).instrumented = ["main"] ∧
        (file.instrument logger .strip).stripped = 1 ∧
        (file.instrument tracer .retain).instrumented = ["main"] ∧
        (file.instrument tracer .retain).stripped = 0)) = true := by decide +kernel
  obtain ⟨file, parsed, reports⟩ := exists_ok_of_any reports
  obtain ⟨logged, removed, traced, kept⟩ := of_decide_eq_true reports
  have names : logger.name ≠ tracer.name := by decide
  obtain ⟨same, ⟨instrumented, _, stripped⟩, _⟩ := instrument_comm names .strip .retain file
  exact ⟨file, parsed, logged, removed, traced, kept, instrumented.trans logged,
    stripped.trans removed, same⟩

end Instrument
