import Instrument.Proofs.Independence
import Instrument.Proofs.Policies
import Mathlib.Data.List.Flatten

/-!
# Kinds of markers that share attributes

Kinds with different names have no marker in common.  Kinds with the same name do, however different
the crates are that export them: the attribute that is written bare, and those that are written
behind the name of a crate of both.  Removing the markers of one kind removes these markers of the
other kind as well, and no others.
-/

namespace Instrument

namespace MarkerKind

/-! ## What two kinds have in common -/

/-- A kind for the attributes that two kinds of the same name have in common. -/
def shared (first second : MarkerKind) : MarkerKind :=
  ⟨first.name, first.crates.filter second.crates.contains⟩

section Shared

variable {first second : MarkerKind} (same : first.name = second.name)

include same

theorem matchesNames_shared (isRooted : Bool) (names : List String) :
    (first.shared second).matchesNames isRooted names =
      (first.matchesNames isRooted names && second.matchesNames isRooted names) := by
  match names with
  | [] => rfl
  | [only] =>
      simp only [matchesNames, shared, same]
      cases isRooted <;> simp
  | [crate, last] =>
      rw [Bool.eq_iff_iff]
      simp only [matchesNames, shared, same, Bool.and_eq_true, List.contains_iff_mem,
        List.mem_filter]
      tauto
  | _ :: _ :: _ :: _ => rfl

theorem matchesPath_shared (path : Tree Token) :
    (first.shared second).matchesPath path =
      (first.matchesPath path && second.matchesPath path) := by
  have segments (isRooted : Bool) (segments : Tree Token) :
      (first.shared second).matchesSegments isRooted segments =
        (first.matchesSegments isRooted segments && second.matchesSegments isRooted segments) := by
    unfold matchesSegments
    split
    · exact matchesNames_shared same isRooted _
    · rfl
  unfold matchesPath
  split
  · exact segments false _
  · exact segments true _
  · rfl

theorem isMarker_shared (candidate : Tree Token) :
    (first.shared second).isMarker candidate =
      (first.isMarker candidate && second.isMarker candidate) := by
  have named : (first.shared second).isNamedBy candidate =
      (first.isNamedBy candidate && second.isNamedBy candidate) := by
    unfold isNamedBy
    split
    · exact matchesPath_shared same _
    · rfl
  rw [isMarker, isMarker, isMarker, named]
  cases isBare candidate <;> rfl

end Shared

/-- An attribute is a marker of two kinds exactly if these have the same name and the attribute is
bare or names a crate of both. -/
theorem isMarker_and_isMarker_iff (first second : MarkerKind) (candidate : Tree Token) :
    first.isMarker candidate = true ∧ second.isMarker candidate = true ↔
      first.name = second.name ∧ (first.shared second).isMarker candidate = true := by
  constructor
  · rintro ⟨marker, marker'⟩
    have same := name_eq_of_isNamedBy (Bool.and_eq_true_iff.mp marker).2
      (Bool.and_eq_true_iff.mp marker').2
    rw [isMarker_shared same, marker, marker']
    exact ⟨same, rfl⟩
  · rintro ⟨same, marker⟩
    rw [isMarker_shared same] at marker
    exact Bool.and_eq_true_iff.mp marker

end MarkerKind

/-! ## Losing some of a list -/

/-- A list loses some of its members, and the others stay in their order. -/
structure Loses {α : Type} (gone before after : List α) : Prop where
  sublist : after.Sublist before
  perm : before.Perm (after ++ gone)

namespace Loses

variable {α β : Type} {gone gone' before before' after after' : List α}

theorem refl (list : List α) : Loses [] list list :=
  ⟨List.Sublist.refl list, (List.append_nil list).symm ▸ List.Perm.refl list⟩

theorem append (loses : Loses gone before after) (loses' : Loses gone' before' after') :
    Loses (gone ++ gone') (before ++ before') (after ++ after') where
  sublist := loses.sublist.append loses'.sublist
  perm := by
    refine (loses.perm.append loses'.perm).trans ?_
    rw [List.append_assoc, List.append_assoc]
    refine List.Perm.append_left after ?_
    rw [← List.append_assoc, ← List.append_assoc]
    exact List.Perm.append_right gone' List.perm_append_comm

/-- What is lost later comes first. -/
theorem trans (loses : Loses gone before after) (loses' : Loses gone' after after') :
    Loses (gone' ++ gone) before after' where
  sublist := loses'.sublist.trans loses.sublist
  perm := by
    refine loses.perm.trans ?_
    rw [← List.append_assoc]
    exact loses'.perm.append_right gone

theorem flatMap {list : List β} {lost first second : β → List α}
    (loses : ∀ member ∈ list, Loses (lost member) (first member) (second member)) :
    Loses (list.flatMap lost) (list.flatMap first) (list.flatMap second) := by
  induction list with
  | nil => exact refl []
  | cons head rest inductionHypothesis =>
      rw [List.flatMap_cons, List.flatMap_cons, List.flatMap_cons]
      exact (loses head List.mem_cons_self).append
        (inductionHypothesis fun member within => loses member (List.mem_cons_of_mem head within))

theorem flatMap_filter (list : List β) (leaves : β → Bool) (within : β → List α) :
    Loses ((list.filter leaves).flatMap within) (list.flatMap within)
      ((list.filter fun member => !leaves member).flatMap within) where
  sublist := List.filter_sublist.flatMap within
  perm := by
    rw [← List.flatMap_append]
    have both := List.perm_append_comm.trans (List.filter_append_perm leaves list)
    exact (both.flatMap_right within).symm

theorem eq_of_nil (loses : Loses [] before after) : after = before := by
  have length := loses.perm.length_eq
  rw [List.append_nil] at length
  exact loses.sublist.eq_of_length length.symm

end Loses

/-! ## The markers in a tree -/

namespace Instrumentation

/-- A node that is a marker reports itself. -/
def markerReport (kind : MarkerKind) : NodeReport (Tree Token) :=
  fun _ node parts => [.node node parts].filter kind.isMarker

/-- All markers in a tree, wherever they stand, in visiting order. -/
def markersIn (kind : MarkerKind) (tree : Tree Token) : List (Tree Token) :=
  collect (markerReport kind) none tree

section Markers

variable (kind : MarkerKind)

theorem collect_markerReport (owner other : Owner) (tree : Tree Token) :
    collect (markerReport kind) owner tree = collect (markerReport kind) other tree := by
  induction tree using Tree.induction generalizing owner other with
  | leaf token => rfl
  | node node parts inductionHypothesis =>
      rw [collect_node, collect_node]
      congr 1
      exact List.flatMap_congr fun part member => inductionHypothesis part member _ _

theorem markersIn_node (node : Kind) (parts : List (Tree Token)) :
    markersIn kind (.node node parts) =
      [.node node parts].filter kind.isMarker ++ parts.flatMap (markersIn kind) := by
  rw [markersIn, collect_node]
  congr 1
  exact List.flatMap_congr fun part _ => collect_markerReport kind _ _ part

theorem markersIn_node_of_not_isMarker {node : Kind} {parts : List (Tree Token)}
    (notMarker : kind.isMarker (.node node parts) = false) :
    markersIn kind (.node node parts) = parts.flatMap (markersIn kind) := by
  rw [markersIn_node, List.filter_singleton, notMarker]
  rfl

theorem isMarker_node_of_ne {node : Kind} (different : node ≠ .outerAttribute)
    (parts : List (Tree Token)) : kind.isMarker (.node node parts) = false := by
  cases node <;> first | rfl | exact absurd rfl different

theorem markersIn_sequence (elements : List (Tree Token)) :
    markersIn kind (.node .sequence elements) = elements.flatMap (markersIn kind) :=
  markersIn_node_of_not_isMarker kind rfl

/-- There is no marker inside a path that spells one. -/
theorem markersIn_of_isSpelling (tree : Tree Token)
    (spelling : tree.isMadeOf Kind.isSpelling = true) : markersIn kind tree = [] := by
  induction tree using Tree.induction with
  | leaf token => rfl
  | node node parts inductionHypothesis =>
      have ⟨spellingKind, spellingParts⟩ := (Tree.isMadeOf_node_iff _ node parts).mp spelling
      have different : node ≠ .outerAttribute := by
        rintro rfl
        cases spellingKind
      rw [markersIn_node_of_not_isMarker kind (isMarker_node_of_ne kind different parts),
        List.flatMap_eq_nil_iff]
      exact fun part member => inductionHypothesis part member (spellingParts part member)

/-- A marker of whatever kind has no markers inside it. -/
theorem markersIn_of_isMarker {other : MarkerKind} {candidate : Tree Token}
    (marker : other.isMarker candidate = true) :
    markersIn kind candidate = [candidate].filter kind.isMarker := by
  obtain ⟨bare, named⟩ := Bool.and_eq_true_iff.mp marker
  unfold MarkerKind.isBare at bare
  split at bare
  next hash opening path closing =>
      have within := markersIn_of_isSpelling kind path (other.isSpelling_of_matchesPath path named)
      have content : markersIn kind (.node .metaPath [path]) = [] := by
        rw [markersIn_node_of_not_isMarker kind rfl, List.flatMap_singleton, within]
      have leaves (token : Token) : markersIn kind (.leaf token) = [] := rfl
      rw [markersIn_node]
      simp only [List.flatMap_cons, List.flatMap_nil, leaves, content, List.append_nil]
  next => cases bare

theorem flatMap_markersIn_of_isMarker {other : MarkerKind} {candidates : List (Tree Token)}
    (markers : ∀ candidate ∈ candidates, other.isMarker candidate = true) :
    candidates.flatMap (markersIn kind) = candidates.filter kind.isMarker := by
  have each := List.flatMap_congr fun candidate member =>
    markersIn_of_isMarker kind (markers candidate member)
  rw [each, ← List.filter_flatMap, List.flatMap_singleton']

theorem filter_isMarker_elements (attributes : List (Tree Token)) :
    (Tree.elements (.node .sequence attributes)).filter kind.isMarker =
      attributes.filter kind.isMarker := by
  rw [Tree.elements, List.filter_filter]
  refine List.filter_congr fun candidate _ => ?_
  cases candidate with
  | leaf token => rfl
  | node node parts => exact Bool.and_true _

end Markers

/-! ## Removing markers of another kind -/

section Removal

variable (first second : MarkerKind)

theorem loses_apply_strip (attributes : Tree Token) :
    Loses ((attributes.elements.filter first.isMarker).filter second.isMarker)
      (markersIn second attributes)
      (markersIn second (MarkerPolicy.strip.apply first attributes)) := by
  cases attributes with
  | leaf token => exact Loses.refl _
  | node node parts =>
      by_cases sequence : node = .sequence
      · subst node
        have loses := Loses.flatMap_filter parts first.isMarker (markersIn second)
        rw [flatMap_markersIn_of_isMarker second fun candidate member =>
          (List.mem_filter.mp member).2] at loses
        rw [filter_isMarker_elements, markersIn_sequence]
        exact (markersIn_sequence second _).symm ▸ loses
      · have unchanged : MarkerPolicy.strip.apply first (.node node parts) = .node node parts := by
          cases node <;> first | rfl | exact absurd rfl sequence
        rw [unchanged, Tree.elements_of_ne_sequence node parts sequence]
        exact Loses.refl _

theorem markersIn_onBody_layers (policy : MarkerPolicy) (copies : Nat) (body : Tree Token) :
    markersIn second ((Treatment.layers policy copies).onBody body) = markersIn second body := by
  by_cases block : IsBody body
  · obtain ⟨opening, statements, closing, rfl⟩ := block
    have diagnostics : (List.replicate copies Diagnostic.statement).flatMap (markersIn second) =
        [] := by
      rw [List.flatMap_eq_nil_iff]
      intro statement member
      rw [List.eq_of_mem_replicate member]
      rfl
    have ofBlock (parts : List (Tree Token)) : markersIn second (.node .block parts) =
        parts.flatMap (markersIn second) := markersIn_node_of_not_isMarker second rfl
    rw [Treatment.onBody, ofBlock, ofBlock]
    simp only [List.flatMap_cons, markersIn_sequence, Treatment.layers, List.flatMap_append,
      diagnostics, List.nil_append]
  · rw [onBody_of_not_isBody _ body block]

/-- A treated declaration has lost its own markers. -/
theorem loses_onParts_layers (copies : Nat) {node : Kind} {parts : List (Tree Token)}
    {declaration : Declaration} (declares : Declaration.ofParts? node parts = some declaration) :
    Loses ((declaration.attributes.filter first.isMarker).filter second.isMarker)
      (parts.flatMap (markersIn second))
      (((Treatment.layers .strip copies).onParts first parts).flatMap (markersIn second)) := by
  unfold Declaration.ofParts? at declares
  split at declares
  next callable outer inner visibility mode signature body _ =>
      cases declares
      have rest := Loses.refl ([visibility, mode, signature, body].flatMap (markersIn second))
      have loses := (loses_apply_strip first second outer).append
        ((loses_apply_strip first second inner).append rest)
      rw [List.append_nil, ← List.filter_append, ← List.filter_append] at loses
      simp only [Treatment.onParts, List.flatMap_cons, markersIn_onBody_layers]
      exact loses
  next => cases declares

theorem removedMarkers_of_isQuiet {tree : Tree Token} (quiet : tree.isQuiet = true) :
    removedMarkers first tree = [] := by
  have none : declarations tree = [] := by
    rw [declarations_eq_map_declared Option.none, declared,
      collect_of_isQuiet ignoresQuiet_declarationReport _ tree quiet]
    rfl
  rw [removedMarkers, none]
  rfl

theorem removedMarkers_node (node : Kind) (parts : List (Tree Token)) :
    removedMarkers first (.node node parts) =
      ((Declaration.ofParts? node parts).toList.filter (isInstrumented first)).flatMap
          (fun declaration => declaration.attributes.filter first.isMarker) ++
        parts.flatMap (removedMarkers first) := by
  rw [removedMarkers, declarations, declarationsOfParts_eq_flatMap, List.filter_append,
    List.flatMap_append, List.filter_flatMap, List.flatMap_assoc]
  rfl

/-- Markers are the same before a treatment and behind it. -/
theorem filter_isMarker_map_treat (treatment : Treatment) (attributes : List (Tree Token)) :
    (attributes.map (treat first treatment)).filter first.isMarker =
      attributes.filter first.isMarker := by
  have asked : first.isMarker ∘ treat first treatment = first.isMarker :=
    funext (isMarker_treat first treatment first)
  rw [List.filter_map, asked]
  refine (List.map_congr_left fun candidate member => ?_).trans (List.map_id _)
  have marker := (List.mem_filter.mp member).2
  exact treat_of_isQuiet first treatment candidate (first.isQuiet_of_isMarker candidate marker)

/-- Removing the markers of one kind from a tree takes the same attributes from the markers of
another kind. -/
theorem loses_treat (copies : Nat) (tree : Tree Token) :
    Loses ((removedMarkers first tree).filter second.isMarker) (markersIn second tree)
      (markersIn second (treat first (.layers .strip copies) tree)) := by
  induction tree using Tree.induction with
  | leaf token => exact Loses.refl []
  | node node parts inductionHypothesis =>
      cases marker : second.isMarker (.node node parts) with
      | true =>
          have quiet := second.isQuiet_of_isMarker _ marker
          rw [treat_of_isQuiet _ _ _ quiet, removedMarkers_of_isQuiet first quiet]
          exact Loses.refl _
      | false =>
          have marker' := (isMarker_treat first (.layers .strip copies) second _).trans marker
          have inside := Loses.flatMap inductionHypothesis
          rw [← List.flatMap_map (treat first _), ← List.filter_flatMap] at inside
          rw [treat_node] at marker' ⊢
          rw [markersIn_node_of_not_isMarker second marker,
            markersIn_node_of_not_isMarker second marker', removedMarkers_node, treatedParts,
            changesNode, List.filter_append]
          cases declares : Declaration.ofParts? node parts with
          | none => exact inside
          | some declaration =>
              cases instrumented : isInstrumented first declaration with
              | false =>
                  simp only [Option.toList_some, List.filter_singleton, instrumented]
                  exact inside
              | true =>
                  have declares' := ofParts?_map_treat first (.layers .strip copies) node parts
                  rw [declares, Option.map_some] at declares'
                  have own := loses_onParts_layers first second copies declares'
                  rw [attributes_treatInside, filter_isMarker_map_treat] at own
                  simp only [Option.toList_some, List.filter_singleton, instrumented]
                  rw [cond_true, List.flatMap_singleton]
                  exact inside.trans own

end Removal

/-! ## Two kinds -/

/-- An attribute is a marker of two kinds exactly if these have the same name and the attribute is
bare or names a crate of both.  Instrumenting with the markers of the first kind removed takes away
those markers of the second kind that are such attributes, on the declarations that are
instrumented; the others stay as they stand, and they are all there if the names are different. -/
theorem isMarker_shared_of_strip (first second : MarkerKind) :
    (∀ candidate, first.isMarker candidate = true ∧ second.isMarker candidate = true ↔
      first.name = second.name ∧ (first.shared second).isMarker candidate = true) ∧
    ∀ file : SourceFile,
      let left := markersIn second (file.instrument first .strip).file.tree
      Loses ((removedMarkers first file.tree).filter second.isMarker)
          (markersIn second file.tree) left ∧
        (first.name ≠ second.name → left = markersIn second file.tree) := by
  refine ⟨MarkerKind.isMarker_and_isMarker_iff first second, fun file => ?_⟩
  intro left
  have loses : Loses ((removedMarkers first file.tree).filter second.isMarker)
      (markersIn second file.tree) left := by
    simp only [left, SourceFile.instrument, instrument_eq_treat]
    exact loses_treat first second 1 file.tree
  refine ⟨loses, fun different => Loses.eq_of_nil ?_⟩
  have none : (removedMarkers first file.tree).filter second.isMarker = [] := by
    refine List.filter_eq_nil_iff.mpr fun candidate member marker' => different ?_
    obtain ⟨declaration, _, taken⟩ := List.mem_flatMap.mp member
    have marker := (List.mem_filter.mp taken).2
    exact ((MarkerKind.isMarker_and_isMarker_iff first second candidate).mp ⟨marker, marker'⟩).1
  rwa [none] at loses

/-- Of two markers the one that is bare goes, since it is a marker of the other kind too, while a
kind with another name takes neither. -/
theorem isMarker_shared_of_strip_bare :
    let source := "#[method_logger]\n#[method_logger_macros::method_logger]\nfn main() \x7b\x7d\n"
    let other : MarkerKind := ⟨"method_logger", ["other"]⟩
    let tracer : MarkerKind := ⟨"traced", ["other"]⟩
    ∃ file, SourceFile.parseProgram source = .ok file ∧
      let before := markersIn .methodLogger file.tree
      let left := markersIn .methodLogger (file.instrument other .strip).file.tree
      before.length = 2 ∧ left.length = 1 ∧
        Loses ((removedMarkers other file.tree).filter MarkerKind.methodLogger.isMarker)
          before left ∧
        markersIn .methodLogger (file.instrument tracer .strip).file.tree = before := by
  intro source other tracer
  have counted : (SourceFile.parseProgram source).toOption.any (fun file =>
      decide ((markersIn .methodLogger file.tree).length = 2 ∧
        (markersIn .methodLogger (file.instrument other .strip).file.tree).length = 1)) = true := by
    decide +kernel
  obtain ⟨file, parsed, counted⟩ := exists_ok_of_any counted
  obtain ⟨two, one⟩ := of_decide_eq_true counted
  exact ⟨file, parsed, two, one, ((isMarker_shared_of_strip other .methodLogger).2 file).1,
    ((isMarker_shared_of_strip tracer .methodLogger).2 file).2 (by decide)⟩

/-- Two kinds that are exported by different crates, and a bare attribute that is a marker of both.
Removing the markers of one kind leaves none of the other. -/
theorem not_apart_of_ne_bare :
    let other : MarkerKind := ⟨"method_logger", ["other"]⟩
    other ≠ .methodLogger ∧
      ∃ file, SourceFile.parseProgram "#[method_logger]\nfn main() \x7b\x7d\n" = .ok file ∧
        (∃ candidate ∈ markersIn .methodLogger file.tree,
          MarkerKind.methodLogger.isMarker candidate = true ∧ other.isMarker candidate = true) ∧
        markersIn .methodLogger (file.instrument other .strip).file.tree = [] := by
  intro other
  refine ⟨by decide, ?_⟩
  have shared : (SourceFile.parseProgram "#[method_logger]\nfn main() \x7b\x7d\n").toOption.any
      (fun file => ((markersIn .methodLogger file.tree).any fun candidate =>
          decide (MarkerKind.methodLogger.isMarker candidate = true ∧
            other.isMarker candidate = true)) &&
        decide (markersIn .methodLogger (file.instrument other .strip).file.tree = [])) = true := by
    decide +kernel
  obtain ⟨file, parsed, shared⟩ := exists_ok_of_any shared
  obtain ⟨shared, nothing⟩ := Bool.and_eq_true_iff.mp shared
  obtain ⟨candidate, member, both⟩ := List.any_eq_true.mp shared
  exact ⟨file, parsed, ⟨candidate, member, of_decide_eq_true both⟩, of_decide_eq_true nothing⟩

end Instrumentation
end Instrument
