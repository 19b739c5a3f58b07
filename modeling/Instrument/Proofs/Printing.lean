import Instrument.InstrumentedSource
import Instrument.Proofs.Layers

/-!
# What can be printed

Parsing accepts more than printing does.  Where the parser keeps tokens without giving them a
structure, there is nothing to lay out, and a definition of a macro is laid out by its rules, which
the parser does not look for.  Such a place is a defect of the tree for the printer.

Instrumenting neither makes a defect nor removes one: the diagnostic has none, and no marker has
one, because a marker is bare.  So whether an instrumented text can be written is told by the text
as it was read.  A text with a defect is still handed back as long as nothing in it is instrumented.
-/

namespace Instrument

/-! ## Defects -/

namespace Tree

variable {α : Type}

/-- A tree stands somewhere in another one. -/
inductive IsSubtree : Tree α → Tree α → Prop
  | refl (tree : Tree α) : IsSubtree tree tree
  | inside {tree part : Tree α} {kind : Kind} {parts : List (Tree α)} (member : part ∈ parts)
      (within : IsSubtree tree part) : IsSubtree tree (.node kind parts)

end Tree

namespace Print

/-- A node cannot be laid out: it defines a macro by something else than rules, or tokens without
structure stand among its parts and it is not a node that keeps its tokens. -/
def Defect (node : Kind) (parts : List (Tree Token)) : Prop :=
  hasGoodRules node parts = false ∨
    keepsTokens node = false ∧ ∃ part ∈ parts, isUnreadable part = true

/-- A part can be printed wherever a construct may stand. -/
def Readable (tree : Tree Token) : Prop :=
  isUnreadable tree = false ∧ canPrint tree = true

theorem canPrintAll_eq_all (parts : List (Tree Token)) :
    canPrintAll parts = parts.all canPrint := by
  induction parts with
  | nil => rfl
  | cons part rest inductionHypothesis => rw [canPrintAll, inductionHypothesis, List.all_cons]

theorem canPrint_node_iff (node : Kind) (parts : List (Tree Token)) :
    canPrint (.node node parts) = true ↔
      ¬ Defect node parts ∧ ∀ part ∈ parts, canPrint part = true := by
  rw [canPrint, canPrintAll_eq_all, Bool.and_eq_true, Bool.and_eq_true, Bool.or_eq_true,
    List.all_eq_true, List.all_eq_true, Defect, not_or, Bool.not_eq_false, not_and, not_exists]
  refine and_congr (and_congr Iff.rfl ?_) Iff.rfl
  cases keepsTokens node <;> simp

/-- A tree can be printed exactly if there is no defect in it. -/
theorem canPrint_iff (tree : Tree Token) :
    canPrint tree = true ↔
      ∀ node parts, (Tree.node node parts).IsSubtree tree → ¬ Defect node parts := by
  induction tree using Tree.induction with
  | leaf token =>
      refine ⟨fun _ node parts within => ?_, fun _ => rfl⟩
      cases within
  | node node parts inductionHypothesis =>
      rw [canPrint_node_iff]
      constructor
      · rintro ⟨sound, printable⟩ other others within
        cases within with
        | refl => exact sound
        | inside member within =>
            exact (inductionHypothesis _ member).mp (printable _ member) other others within
      · intro sound
        refine ⟨sound node parts (.refl _), fun part member => ?_⟩
        refine (inductionHypothesis part member).mpr fun other others within => ?_
        exact sound other others (.inside member within)

/-- Nodes of most kinds can be printed as soon as their parts are readable. -/
theorem canPrint_node_iff_readable (node : Kind) (parts : List (Tree Token))
    (keepsNothing : keepsTokens node = false) :
    canPrint (.node node parts) = true ↔ ∀ part ∈ parts, Readable part := by
  have goodRules : hasGoodRules node parts = true := by
    cases node <;> first | rfl | cases keepsNothing
  rw [canPrint_node_iff, Defect, goodRules, keepsNothing]
  constructor
  · rintro ⟨sound, printable⟩ part member
    refine ⟨Bool.eq_false_iff.mpr fun unreadable => ?_, printable part member⟩
    exact sound (.inr ⟨rfl, part, member, unreadable⟩)
  · intro readable
    refine ⟨?_, fun part member => (readable part member).2⟩
    rintro (bad | ⟨_, part, member, unreadable⟩)
    · cases bad
    · rw [(readable part member).1] at unreadable
      cases unreadable

end Print

/-! ## Markers and the diagnostic -/

namespace Print

theorem readable_of_isPlain (tree : Tree Token) (plain : tree.isMadeOf Kind.isPlain = true) :
    Readable tree := by
  induction tree using Tree.induction with
  | leaf token => exact ⟨rfl, rfl⟩
  | node node parts inductionHypothesis =>
      have ⟨plainKind, plainParts⟩ := (Tree.isMadeOf_node_iff _ node parts).mp plain
      have keepsNothing : keepsTokens node = false := by
        cases node <;> first | rfl | cases plainKind
      have structured : isUnreadable (.node node parts) = false := by
        cases node <;> first | rfl | cases plainKind
      exact ⟨structured, (canPrint_node_iff_readable node parts keepsNothing).mpr fun part member =>
        inductionHypothesis part member (plainParts part member)⟩

theorem readable_statement : Readable Diagnostic.statement := by
  constructor <;> decide

theorem readable_sequence_iff (parts : List (Tree Token)) :
    Readable (.node .sequence parts) ↔ ∀ part ∈ parts, Readable part := by
  have readable := canPrint_node_iff_readable .sequence parts rfl
  exact ⟨fun whole => readable.mp whole.2, fun inside => ⟨rfl, readable.mpr inside⟩⟩

variable (kind : MarkerKind) (policy : MarkerPolicy) (copies : Nat)

/-- Attributes are as readable as those that a policy leaves. -/
theorem readable_apply_iff (attributes : Tree Token) :
    Readable (policy.apply kind attributes) ↔ Readable attributes := by
  unfold MarkerPolicy.apply
  split
  next parts =>
      cases policy with
      | retain => exact Iff.rfl
      | strip =>
          rw [readable_sequence_iff, readable_sequence_iff]
          constructor
          · intro left part member
            cases marker : kind.isMarker part with
            | true => exact readable_of_isPlain part (kind.isPlain_of_isMarker part marker)
            | false =>
                refine left part (List.mem_filter.mpr ⟨member, ?_⟩)
                rw [marker]
                rfl
          · exact fun all part member => all part (List.mem_filter.mp member).1
  next => exact Iff.rfl

theorem readable_onBody_iff (body : Tree Token) :
    Readable ((Treatment.layers policy copies).onBody body) ↔ Readable body := by
  by_cases block : IsBody body
  · obtain ⟨opening, statements, closing, rfl⟩ := block
    have whole (inside : List (Tree Token)) :
        Readable (.node .block [opening, .node .sequence inside, closing]) ↔
          Readable opening ∧ (∀ part ∈ inside, Readable part) ∧ Readable closing := by
      rw [← readable_sequence_iff]
      have readable := canPrint_node_iff_readable .block
        [opening, .node .sequence inside, closing] rfl
      simp only [List.forall_mem_cons, List.not_mem_nil, false_implies, implies_true,
        and_true] at readable
      exact ⟨fun found => readable.mp found.2, fun parts => ⟨rfl, readable.mpr parts⟩⟩
    rw [Treatment.onBody, whole, whole]
    refine and_congr Iff.rfl (and_congr ?_ Iff.rfl)
    simp only [Treatment.layers, List.forall_mem_append]
    refine ⟨fun both => both.2, fun inside => ⟨fun part member => ?_, inside⟩⟩
    rw [List.eq_of_mem_replicate member]
    exact readable_statement
  · rw [onBody_of_not_isBody _ body block]

theorem forall_readable_onParts_iff (parts : List (Tree Token)) :
    (∀ part ∈ (Treatment.layers policy copies).onParts kind parts, Readable part) ↔
      ∀ part ∈ parts, Readable part := by
  unfold Treatment.onParts
  split
  next =>
      simp only [List.forall_mem_cons, readable_apply_iff, readable_onBody_iff]
  next => exact Iff.rfl

end Print

/-! ## Defects of treated trees -/

section Treated

variable (kind : MarkerKind) (treatment : Treatment)

theorem plainNames?_map_treat (segments : List (Tree Token)) :
    Tree.plainNames? (segments.map (treat kind treatment)) = Tree.plainNames? segments := by
  have quiet {others : List (Tree Token)} {names : List String}
      (plain : Tree.plainNames? others = some names) : ∀ segment ∈ others, segment.isQuiet = true :=
    fun segment member => Tree.isMadeOf_mono
      (fun kind spelling => Kind.isQuiet_of_isPlain kind (Kind.isPlain_of_isSpelling kind spelling))
      segment (MarkerKind.isSpelling_of_mem_plainNames? plain segment member)
  cases before : Tree.plainNames? segments with
  | some names =>
      have fixed : segments.map (treat kind treatment) = segments :=
        (List.map_congr_left fun segment member =>
          treat_of_isQuiet kind treatment segment (quiet before segment member)).trans
            (List.map_id segments)
      rw [fixed, before]
  | none =>
      cases behind : Tree.plainNames? (segments.map (treat kind treatment)) with
      | none => rfl
      | some names =>
          have fixed : segments.map (treat kind treatment) = segments :=
            (List.map_congr_left fun segment member =>
              treat_of_isQuiet_treat kind treatment segment
                (quiet behind _ (List.mem_map_of_mem member))).trans (List.map_id segments)
          rw [fixed, before] at behind
          cases behind

theorem soleName?_treat (path : Tree Token) :
    Print.soleName? (treat kind treatment path) = Print.soleName? path := by
  cases path with
  | leaf token => rfl
  | node node parts =>
      cases node with
      | path =>
          rw [treat_node_of_not_callable kind treatment .path parts rfl]
          match parts with
          | [] | [_] | _ :: _ :: _ :: _ => rfl
          | [leading, segments] =>
              simp only [List.map_cons, List.map_nil, Print.soleName?, isAbsent_treat,
                elements_treat, plainNames?_map_treat]
      | _ => rw [treat_node]; rfl

theorem value?_treat (tree : Tree Token) : (treat kind treatment tree).value? = tree.value? := by
  cases tree with
  | leaf token => rfl
  | node node parts => rw [treat_node]; rfl

theorem filterMap_value?_onParts (parts : List (Tree Token)) :
    (treatment.onParts kind parts).filterMap Tree.value? = parts.filterMap Tree.value? := by
  have attributes (part : Tree Token) :
      (treatment.policy.apply kind part).value? = part.value? := by
    unfold MarkerPolicy.apply
    split
    next => cases treatment.policy <;> rfl
    next => rfl
  have body (part : Tree Token) : (treatment.onBody part).value? = part.value? := by
    unfold Treatment.onBody
    split <;> rfl
  unfold Treatment.onParts
  split
  next => simp only [List.filterMap_cons, attributes, body]
  next => rfl

theorem ownLeaves_treat (tree : Tree Token) :
    (treat kind treatment tree).ownLeaves = tree.ownLeaves := by
  cases tree with
  | leaf token => rfl
  | node node parts =>
      have inside : (parts.map (treat kind treatment)).filterMap Tree.value? =
          parts.filterMap Tree.value? := by
        rw [List.filterMap_map]
        exact List.filterMap_congr fun part _ => value?_treat kind treatment part
      rw [treat_node, Tree.ownLeaves, Tree.parts, Tree.ownLeaves, Tree.parts, treatedParts]
      split
      next => rw [filterMap_value?_onParts, inside]
      next => exact inside

theorem isUnreadable_treat (tree : Tree Token) :
    Print.isUnreadable (treat kind treatment tree) = Print.isUnreadable tree := by
  cases tree with
  | leaf token => rfl
  | node node parts =>
      cases node with
      | verbatim =>
          rw [treat_node_of_not_callable kind treatment .verbatim parts rfl]
          cases parts <;> rfl
      | _ => rw [treat_node]; rfl

theorem hasGoodRules_map_treat (node : Kind) (parts : List (Tree Token)) :
    Print.hasGoodRules node (parts.map (treat kind treatment)) =
      Print.hasGoodRules node parts := by
  cases node with
  | macroItem =>
      match parts with
      | [] | [_] | [_, _] | [_, _, _] | [_, _, _, _] | [_, _, _, _, _] | [_, _, _, _, _, _]
      | [_, _, _, _, _, _, _] | _ :: _ :: _ :: _ :: _ :: _ :: _ :: _ :: _ :: _ => rfl
      | [_, path, _, name, _, body, _, _] =>
          simp only [List.map_cons, List.map_nil, Print.hasGoodRules, Print.definesByRules,
            Print.isName, soleName?_treat, isPresent_treat, ownLeaves_treat]
  | _ => rfl

/-- A treatment inside a node makes no defect of the node and removes none. -/
theorem defect_map_treat_iff (node : Kind) (parts : List (Tree Token)) :
    Print.Defect node (parts.map (treat kind treatment)) ↔ Print.Defect node parts := by
  simp only [Print.Defect, hasGoodRules_map_treat, List.mem_map, exists_exists_and_eq_and,
    isUnreadable_treat]

end Treated

namespace Print

variable (kind : MarkerKind) (policy : MarkerPolicy)

/-- A layered tree can be printed exactly if the tree can. -/
theorem canPrint_treat_layers (copies : Nat) (tree : Tree Token) :
    canPrint (treat kind (.layers policy copies) tree) = canPrint tree := by
  induction tree using Tree.induction with
  | leaf token => rfl
  | node node parts inductionHypothesis =>
      have readable (part : Tree Token) (member : part ∈ parts) :
          Readable (treat kind (.layers policy copies) part) ↔ Readable part := by
        rw [Readable, isUnreadable_treat, inductionHypothesis part member, Readable]
      rw [treat_node, treatedParts, Bool.eq_iff_iff]
      cases changes : Instrumentation.changesNode kind node parts with
      | true =>
          have keepsNothing : keepsTokens node = false := by
            cases node <;> first | rfl | cases changes
          rw [if_pos rfl, canPrint_node_iff_readable _ _ keepsNothing, forall_readable_onParts_iff,
            canPrint_node_iff_readable _ _ keepsNothing, List.forall_mem_map]
          exact forall₂_congr readable
      | false =>
          rw [if_neg Bool.false_ne_true, canPrint_node_iff, canPrint_node_iff,
            defect_map_treat_iff, List.forall_mem_map]
          exact and_congr Iff.rfl (forall₂_congr fun part member => by
            rw [inductionHypothesis part member])

theorem canPrint_instrument (tree : Tree Token) :
    canPrint (Instrumentation.instrument kind policy tree) = canPrint tree := by
  rw [instrument_eq_treat, canPrint_treat_layers]

end Print

/-! ## Texts that are instrumented -/

/-- Only what is instrumented loses markers. -/
theorem Instrumentation.strippedMarkers_of_instrumentedNames_eq_nil (outcomes : List Outcome)
    (nothing : instrumentedNames outcomes = []) : strippedMarkers outcomes = 0 := by
  induction outcomes with
  | nil => rfl
  | cons outcome rest inductionHypothesis =>
      cases outcome with
      | instrumented name stripped => cases nothing
      | skipped name =>
          exact (Nat.zero_add _).trans (inductionHypothesis nothing)

/-- A file is changed exactly if something in it is instrumented. -/
theorem InstrumentedFile.changed_eq_false_iff (result : InstrumentedFile) :
    result.changed = false ↔ result.instrumented = [] := by
  rw [changed, Bool.or_eq_false_iff, Bool.not_eq_false', List.isEmpty_iff, decide_eq_false_iff_not]
  refine ⟨fun both => both.1, fun nothing => ⟨nothing, ?_⟩⟩
  have zero := Instrumentation.strippedMarkers_of_instrumentedNames_eq_nil _ nothing
  exact Nat.not_lt.mpr (Nat.le_zero.mpr zero)

section Texts

variable (kind : MarkerKind) (policy : MarkerPolicy)

theorem isSome_render?_iff (file : SourceFile) (source : String) :
    ((file.instrument kind policy).render? source).isSome = true ↔
      (file.instrument kind policy).instrumented = [] ∨ Print.canPrint file.tree = true := by
  have same : (file.instrument kind policy).file.canPrint = Print.canPrint file.tree :=
    Print.canPrint_instrument kind policy file.tree
  rw [← InstrumentedFile.changed_eq_false_iff, InstrumentedFile.render?, same]
  cases (file.instrument kind policy).changed <;> cases Print.canPrint file.tree <;> simp

/-- A text is instrumented exactly if it parses, and either nothing in it is to be instrumented or
nothing in it is a defect for the printer. -/
theorem exists_instrumentSource_iff (source : String) :
    (∃ result, instrumentSource kind policy source = .ok result) ↔
      ∃ file, SourceFile.parseProgram source = .ok file ∧
        ((file.instrument kind policy).instrumented = [] ∨
          ∀ node parts, (Tree.node node parts).IsSubtree file.tree →
            ¬ Print.Defect node parts) := by
  rw [instrumentSource]
  cases SourceFile.parseProgram source with
  | error failure => simp
  | ok file =>
      simp only [Except.ok.injEq, exists_eq_left', ← Print.canPrint_iff,
        ← isSome_render?_iff kind policy file source, instrumentParsed]
      cases (file.instrument kind policy).render? source <;> simp

end Texts

/-- A function of an `extern` block that says `safe` is kept as tokens.  A text with one parses, but
is not instrumented as soon as there is something to be instrumented in it. -/
theorem not_exists_instrumentSource_safe :
    let source := "unsafe extern \"C\" \x7b\n    safe fn tick();\n\x7d\n\n" ++
      "#[method_logger]\nfn main() \x7b\x7d\n"
    (SourceFile.parseProgram source).isOk = true ∧
      ¬ ∃ result, instrumentSource .methodLogger .strip source = .ok result := by
  intro source
  have fails : (instrumentSource .methodLogger .strip source).isOk = false := by decide +kernel
  refine ⟨by decide +kernel, ?_⟩
  rintro ⟨result, instrumented⟩
  rw [instrumented] at fails
  cases fails

end Instrument
