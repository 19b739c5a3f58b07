import Instrument.Proofs.Policies

/-!
# Scanning what was instrumented

A scan of an instrumented file tells what a scan of the file itself tells.  If the markers were
kept, the two are the same, line by line.  If they were removed, the declarations that were
instrumented are not tagged any more and nothing else is different: a marker that was ignored is
still there, with the same reason, and so is a declaration without a body.

A scan reads more of a tree than instrumenting does.  It looks at the attributes of what cannot be
called, and at attributes that are spelled like a marker without being one; these may hold an
expression, and a declaration inside it.  All that a scan reads of an attribute is its path and its
line, which no treatment reaches.
-/

namespace Instrument

section Treated

variable (kind : MarkerKind) (treatment : Treatment)

/-! ## The spelling of attributes -/

/-- A path spells a marker of any kind before a treatment exactly if it does so behind it. -/
theorem matchesPath_treat (asked : MarkerKind) (path : Tree Token) :
    asked.matchesPath (treat kind treatment path) = asked.matchesPath path := by
  rw [Bool.eq_iff_iff]
  constructor
  · intro matching
    have quiet := asked.isQuiet_of_matchesPath _ matching
    rwa [treat_of_isQuiet_treat kind treatment path quiet] at matching
  · intro matching
    rwa [treat_of_isQuiet kind treatment path (asked.isQuiet_of_matchesPath _ matching)]

/-- A path is no sequence, so no policy takes anything out of it. -/
theorem matchesPath_apply (policy : MarkerPolicy) (asked : MarkerKind) (path : Tree Token) :
    asked.matchesPath (policy.apply kind path) = asked.matchesPath path := by
  unfold MarkerPolicy.apply
  split
  next => cases policy <;> rfl
  next => rfl

theorem line_apply (policy : MarkerPolicy) (tree : Tree Token) :
    (policy.apply kind tree).line = tree.line := by
  unfold MarkerPolicy.apply
  split
  next => cases policy <;> rfl
  next => rfl

/-- A scan reads the same of both trees where they stand at the front of an attribute or of its
content. -/
structure ReadsAlike (before behind : Tree Token) : Prop where
  matchesPath : ∀ asked : MarkerKind, asked.matchesPath behind = asked.matchesPath before
  line : behind.line = before.line

/-- A node may declare a function, and is then treated itself.  Its first part still reads alike. -/
theorem treatedParts_cons (node : Kind) (first : Tree Token) (rest : List (Tree Token)) :
    ∃ first' rest', treatedParts kind treatment node (first :: rest) = first' :: rest' ∧
      ReadsAlike first first' := by
  have inside : ReadsAlike first (treat kind treatment first) :=
    ⟨fun asked => matchesPath_treat kind treatment asked first, line_treat kind treatment first⟩
  unfold treatedParts
  dsimp only [List.map_cons]
  split
  next =>
      unfold Treatment.onParts
      split
      next outer _ _ _ _ _ places =>
          have same : treat kind treatment first = outer := (List.cons.inj places).1
          subst same
          refine ⟨_, _, rfl, fun asked => ?_, ?_⟩
          · rw [matchesPath_apply, inside.matchesPath]
          · rw [line_apply, inside.line]
      next => exact ⟨_, _, rfl, inside⟩
  next => exact ⟨_, _, rfl, inside⟩

/-- The content of an attribute starts with a path that spells the marker. -/
def isSpelledBy (asked : MarkerKind) : Tree Token → Bool
  | .node _ (path :: _) => asked.matchesPath path
  | _ => false

theorem isSpelledBy_treat (asked : MarkerKind) (content : Tree Token) :
    isSpelledBy asked (treat kind treatment content) = isSpelledBy asked content := by
  cases content with
  | leaf token => rfl
  | node node parts =>
      rw [treat_node]
      cases parts with
      | nil =>
          unfold treatedParts
          split <;> rfl
      | cons path behind =>
          obtain ⟨path', behind', parts, alike⟩ :=
            treatedParts_cons kind treatment node path behind
          rw [parts]
          exact alike.matchesPath asked

/-- The content of the attribute that a node with the given parts is. -/
def attributeContent? : Kind → List (Tree Token) → Option (Tree Token)
  | .outerAttribute, [_, _, content, _] => some content
  | .innerAttribute, [_, _, _, content, _] => some content
  | _, _ => none

theorem isNamedBy_node (asked : MarkerKind) (node : Kind) (parts : List (Tree Token)) :
    asked.isNamedBy (.node node parts) =
      match attributeContent? node parts with
      | some content => isSpelledBy asked content
      | none => false := by
  unfold MarkerKind.isNamedBy
  fun_cases attributeContent? node parts with
  | case1 hash opening content closing =>
      cases content with
      | leaf token => rfl
      | node inner inside => cases inside <;> rfl
  | case2 hash bang opening content closing =>
      cases content with
      | leaf token => rfl
      | node inner inside => cases inside <;> rfl
  | case3 =>
      rename_i notOuter notInner
      have noPath : MarkerKind.attributePath? (.node node parts) = none := by
        unfold MarkerKind.attributePath?
        split
        next equal => cases equal; exact (notOuter _ _ _ _ rfl rfl).elim
        next equal => cases equal; exact (notInner _ _ _ _ _ rfl rfl).elim
        next => rfl
      rw [noPath]

theorem attributeContent?_map (change : Tree Token → Tree Token) (node : Kind)
    (parts : List (Tree Token)) :
    attributeContent? node (parts.map change) = (attributeContent? node parts).map change := by
  cases node with
  | outerAttribute | innerAttribute =>
      match parts with
      | [] | [_] | [_, _] | [_, _, _] | [_, _, _, _] | [_, _, _, _, _]
      | _ :: _ :: _ :: _ :: _ :: _ :: _ => rfl
  | _ => rfl

/-- An attribute is spelled like a marker before a treatment exactly if it is so behind it. -/
theorem isNamedBy_treat (asked : MarkerKind) (candidate : Tree Token) :
    asked.isNamedBy (treat kind treatment candidate) = asked.isNamedBy candidate := by
  cases candidate with
  | leaf token => rfl
  | node node parts =>
      cases callable : Callable.ofKind? node with
      | none =>
          rw [treat_node_of_not_callable kind treatment node parts callable, isNamedBy_node,
            isNamedBy_node, attributeContent?_map]
          cases attributeContent? node parts with
          | none => rfl
          | some content => exact isSpelledBy_treat kind treatment asked content
      | some place =>
          rw [treat_node]
          cases node <;> first | rfl | cases callable

theorem attributeLine_treat (candidate : Tree Token) :
    Scan.attributeLine (treat kind treatment candidate) = Scan.attributeLine candidate := by
  cases candidate with
  | leaf token => rfl
  | node node parts =>
      rw [treat_node]
      cases parts with
      | nil =>
          unfold treatedParts
          split <;> rfl
      | cons hash behind =>
          obtain ⟨hash', behind', parts, alike⟩ :=
            treatedParts_cons kind treatment node hash behind
          rw [parts]
          exact alike.line

/-- Ignored attributes are listed in the same way before a treatment and behind it. -/
theorem ignoredAs_map_treat (asked : MarkerKind) (item : String) (reason : IgnoreReason)
    (attributes : List (Tree Token)) :
    Scan.ignoredAs asked item reason (attributes.map (treat kind treatment)) =
      Scan.ignoredAs asked item reason attributes := by
  have named : asked.isNamedBy ∘ treat kind treatment = asked.isNamedBy :=
    funext (isNamedBy_treat kind treatment asked)
  rw [Scan.ignoredAs, List.filter_map, List.map_map, named, Scan.ignoredAs]
  refine List.map_congr_left fun candidate _ => ?_
  rw [Function.comp_apply, attributeLine_treat]

/-! ## What cannot be called -/

/-- What carries attributes and cannot be called does so behind a treatment, under the same name. -/
theorem bystander?_map_treat (node : Kind) (parts : List (Tree Token)) :
    Scan.bystander? node (parts.map (treat kind treatment)) =
      (Scan.bystander? node parts).map fun bystander =>
        ⟨bystander.label, bystander.attributes.map (treat kind treatment)⟩ := by
  cases node
  all_goals first
    | rfl
    | -- No kind of node has more than twelve parts.
      match parts with
      | [] | [_] | [_, _] | [_, _, _] | [_, _, _, _] | [_, _, _, _, _] | [_, _, _, _, _, _]
      | [_, _, _, _, _, _, _] | [_, _, _, _, _, _, _, _] | [_, _, _, _, _, _, _, _, _]
      | [_, _, _, _, _, _, _, _, _, _] | [_, _, _, _, _, _, _, _, _, _, _]
      | [_, _, _, _, _, _, _, _, _, _, _, _]
      | _ :: _ :: _ :: _ :: _ :: _ :: _ :: _ :: _ :: _ :: _ :: _ :: _ :: _ =>
        first
        | (change none = none
           rfl)
        | (change some (Scan.Bystander.mk _ _) = some (Scan.Bystander.mk _ _)
           simp only [text_treat, typeName_treat, elements_treat, Scan.fieldLabel, isAbsent_treat,
            List.map_append])

end Treated

/-! ## What a node reports -/

/-- The finding is reported again once the file was instrumented under a policy. -/
def Finding.isLasting (policy : MarkerPolicy) : Finding → Bool
  | .tagged declaration => policy == .retain || !declaration.hasBody
  | .ignored _ => true

/-- As long as markers are kept, every finding lasts. -/
theorem filter_isLasting_retain (found : List Finding) :
    found.filter (Finding.isLasting .retain) = found := by
  rw [List.filter_eq_self]
  intro finding _
  cases finding <;> rfl

section Layered

variable (kind : MarkerKind) (policy : MarkerPolicy) (copies : Nat)

@[simp] theorem line_layered (declaration : Declaration) :
    (layered kind policy copies declaration).line = declaration.line := by
  unfold layered
  split
  next => exact line_treatInside kind _ declaration
  next => exact line_treatInside kind _ declaration

theorem ignoresQuiet_ofNode : IgnoresQuiet (Scan.ofNode kind) := by
  intro owner node parts quiet
  rw [Scan.ofNode, ofParts?_of_isQuiet node parts quiet]
  cases node <;> first | rfl | cases quiet

/-- Findings on ignored attributes are always reported again. -/
theorem filter_isLasting_ignoredAs (item : String) (reason : IgnoreReason)
    (attributes : List (Tree Token)) :
    (Scan.ignoredAs kind item reason attributes).filter (Finding.isLasting policy) =
      Scan.ignoredAs kind item reason attributes := by
  rw [List.filter_eq_self]
  intro finding member
  obtain ⟨candidate, _, rfl⟩ := List.mem_map.mp member
  rfl

theorem filter_leaves (attributes : List (Tree Token)) :
    (policy.leaves kind attributes).filter (fun candidate => !kind.isMarker candidate) =
      attributes.filter fun candidate => !kind.isMarker candidate := by
  cases policy with
  | retain => rfl
  | strip => simp only [MarkerPolicy.leaves, MarkerKind.strip, List.filter_filter, Bool.and_self]

/-- The malformed markers of a declaration are never taken off. -/
theorem ignoredAs_malformed_layered (item : String) (declaration : Declaration) :
    Scan.ignoredAs kind item .malformed
        ((layered kind policy copies declaration).attributes.filter fun candidate =>
          !kind.isMarker candidate) =
      Scan.ignoredAs kind item .malformed
        (declaration.attributes.filter fun candidate => !kind.isMarker candidate) := by
  have attributes : (layered kind policy copies declaration).attributes.filter (fun candidate =>
      !kind.isMarker candidate) =
        (declaration.attributes.filter fun candidate => !kind.isMarker candidate).map
          (treat kind (.layers policy copies)) := by
    have inside : ((treatInside kind (.layers policy copies) declaration).attributes.filter
        fun candidate => !kind.isMarker candidate) =
          (declaration.attributes.filter fun candidate => !kind.isMarker candidate).map
            (treat kind (.layers policy copies)) := by
      rw [attributes_treatInside, List.filter_map]
      congr 1
      exact List.filter_congr fun candidate _ => by
        rw [Function.comp_apply, isMarker_treat]
    unfold layered
    split
    next =>
        rw [attributes_onDeclaration, layers_policy, filter_leaves]
        exact inside
    next => exact inside
  rw [attributes, ignoredAs_map_treat]

/-- What a declaration reports once, however many markers it has: that it is tagged, or that it
cannot be. -/
def Scan.verdict (owner : Owner) (declaration : Declaration) : List Finding :=
  if declaration.isTagged kind then
    [.tagged ⟨owner.qualify declaration, declaration.line, declaration.hasBody⟩]
  else if declaration.isMarked kind then
    [.ignored ⟨owner.qualify declaration, declaration.line, .constFn⟩]
  else []

theorem verdict_treatInside (treatment : Treatment) (owner : Owner) (declaration : Declaration) :
    Scan.verdict kind owner (treatInside kind treatment declaration) =
      Scan.verdict kind owner declaration := by
  simp only [Scan.verdict, isTagged_treatInside, isMarked_treatInside, qualify_treatInside,
    line_treatInside, hasBody_treatInside]

theorem isMarked_layered_retain (declaration : Declaration) :
    (layered kind .retain copies declaration).isMarked kind = declaration.isMarked kind := by
  unfold layered
  split
  next =>
      rw [Declaration.isMarked, attributes_onDeclaration]
      exact isMarked_treatInside kind _ kind declaration
  next => exact isMarked_treatInside kind _ kind declaration

theorem verdict_layered (owner : Owner) (declaration : Declaration) :
    Scan.verdict kind owner (layered kind policy copies declaration) =
      (Scan.verdict kind owner declaration).filter (Finding.isLasting policy) := by
  cases policy with
  | retain =>
      rw [filter_isLasting_retain]
      simp only [Scan.verdict, isTagged_layered_retain, isMarked_layered_retain, qualify_layered,
        line_layered, hasBody_layered]
  | strip =>
      cases instrumented : Instrumentation.isInstrumented kind declaration with
      | true =>
          have ⟨tagged, hasBody⟩ := Bool.and_eq_true_iff.mp instrumented
          rw [layered_of_instrumented kind .strip copies declaration instrumented, Scan.verdict,
            isTagged_onDeclaration_strip _ kind rfl, isMarked_onDeclaration_strip _ kind rfl,
            Scan.verdict, tagged, hasBody]
          rfl
      | false =>
          rw [layered_of_not_instrumented kind .strip copies declaration instrumented,
            verdict_treatInside, eq_comm, List.filter_eq_self]
          intro finding member
          cases finding with
          | ignored marker => rfl
          | tagged listed =>
              unfold Scan.verdict at member
              split at member
              next tagged =>
                  -- What is tagged and was not instrumented has no body.
                  have bodiless : declaration.hasBody = false := by
                    rwa [Instrumentation.isInstrumented, tagged, Bool.true_and] at instrumented
                  cases List.mem_singleton.mp member
                  rw [Finding.isLasting, bodiless]
                  rfl
              next =>
                  split at member
                  next => cases List.mem_singleton.mp member
                  next => cases member

theorem ofDeclaration_layered (owner : Owner) (declaration : Declaration) :
    Scan.ofDeclaration kind owner (layered kind policy copies declaration) =
      (Scan.ofDeclaration kind owner declaration).filter (Finding.isLasting policy) := by
  have parts : ∀ declaration, Scan.ofDeclaration kind owner declaration =
      Scan.ignoredAs kind (owner.qualify declaration) .malformed
          (declaration.attributes.filter fun candidate => !kind.isMarker candidate) ++
        Scan.verdict kind owner declaration := fun _ => rfl
  rw [parts, parts, List.filter_append, filter_isLasting_ignoredAs, verdict_layered,
    ignoredAs_malformed_layered, qualify_layered]

/-- Behind a layer, a node reports what it reported before, as far as that lasts. -/
theorem ofNode_treatedParts (owner : Owner) (node : Kind) (parts : List (Tree Token)) :
    Scan.ofNode kind owner node (treatedParts kind (.layers policy copies) node parts) =
      (Scan.ofNode kind owner node parts).filter (Finding.isLasting policy) := by
  cases found : Declaration.ofParts? node parts with
  | some declaration =>
      rw [Scan.ofNode, ofParts?_treatedParts, Scan.ofNode, found]
      exact ofDeclaration_layered kind policy copies owner declaration
  | none =>
      have unchanged : treatedParts kind (.layers policy copies) node parts =
          parts.map (treat kind (.layers policy copies)) := by
        rw [treatedParts, Instrumentation.changesNode, found]
        rfl
      have none : Declaration.ofParts? node (parts.map (treat kind (.layers policy copies))) =
          none := by
        rw [ofParts?_map_treat, found]
        rfl
      rw [unchanged, Scan.ofNode, none, bystander?_map_treat, Scan.ofNode, found]
      cases Scan.bystander? node parts with
      | none => rfl
      | some bystander =>
          exact (ignoredAs_map_treat kind _ kind _ _ _).trans
            (filter_isLasting_ignoredAs kind policy _ _ _).symm

/-! ## What a tree reports -/

/-- Behind a layer, a tree reports what it reported before, as far as that lasts. -/
theorem findings_treat_layers (owner : Owner) (tree : Tree Token) :
    Scan.findings kind owner (treat kind (.layers policy copies) tree) =
      (Scan.findings kind owner tree).filter (Finding.isLasting policy) := by
  have same : ∀ owner node parts,
      Scan.ofNode kind owner node (treatedParts kind (.layers policy copies) node parts) =
        (Scan.ofNode kind owner node parts).filterMap
          (Option.guard (Finding.isLasting policy)) := by
    intro owner node parts
    rw [ofNode_treatedParts, List.filterMap_eq_filter]
  rw [Scan.findings_eq_collect, collect_treat_layers kind policy copies (ignoresQuiet_ofNode kind)
    same, ← filterMap_collect, ← Scan.findings_eq_collect, List.filterMap_eq_filter]

theorem ignored_filter_isLasting (found : List Finding) :
    (Scan.ofFindings (found.filter (Finding.isLasting policy))).ignored =
      (Scan.ofFindings found).ignored := by
  dsimp only [Scan.ofFindings]
  rw [List.filterMap_filter]
  refine List.filterMap_congr fun finding _ => ?_
  cases finding with
  | tagged declaration => cases Finding.isLasting policy (.tagged declaration) <;> rfl
  | ignored marker => rfl

theorem tagged_filter_isLasting_strip (found : List Finding) :
    (Scan.ofFindings (found.filter (Finding.isLasting .strip))).tagged =
      (Scan.ofFindings found).tagged.filter fun declaration => !declaration.hasBody := by
  dsimp only [Scan.ofFindings]
  rw [List.filterMap_filter, List.filter_filterMap]
  refine List.filterMap_congr fun finding _ => ?_
  cases finding with
  | tagged declaration =>
      cases hasBody : declaration.hasBody <;>
        simp [Finding.isLasting, Option.filter, hasBody]
  | ignored marker => rfl

end Layered

namespace Instrumentation

/-- Instrumenting hides no finding of a scan and adds none.  A file whose markers were kept has the
scan that it had before, in every line.  One whose markers were removed has the same ignored
markers; of its tagged declarations those without a body are left, and none is tagged any more that
has one. -/
theorem scan_instrument (kind : MarkerKind) (file : SourceFile) :
    let before := kind.scan file.tree
    let kept := (file.instrument kind .retain).file
    let removed := (file.instrument kind .strip).file
    kind.scan kept.tree = before ∧
      (kind.scan removed.tree).ignored = before.ignored ∧
      (kind.scan removed.tree).tagged =
        (before.tagged.filter fun declaration => !declaration.hasBody) ∧
      ∀ declaration ∈ declarations removed.tree,
        declaration.hasBody = true → declaration.isTagged kind = false := by
  intro before kept removed
  have keptTree : kept.tree = treat kind (.layers .retain 1) file.tree :=
    instrument_eq_treat kind .retain file.tree
  have removedTree : removed.tree = treat kind (.layers .strip 1) file.tree :=
    instrument_eq_treat kind .strip file.tree
  refine ⟨?_, ?_, ?_, ?_⟩
  · rw [keptTree, MarkerKind.scan, findings_treat_layers, filter_isLasting_retain]
    rfl
  · rw [removedTree, MarkerKind.scan, findings_treat_layers, ignored_filter_isLasting]
    rfl
  · rw [removedTree, MarkerKind.scan, findings_treat_layers, tagged_filter_isLasting_strip]
    rfl
  · rw [removedTree, declarations_treat_layers, List.forall_mem_map]
    intro declaration _ hasBody
    rw [hasBody_layered] at hasBody
    rw [isTagged_layered_strip, hasBody, Bool.not_true, Bool.and_false]

end Instrumentation
end Instrument
