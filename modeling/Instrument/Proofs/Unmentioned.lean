import Instrument.CommandLine.Listing
import Instrument.Proofs.Attachments
import Instrument.Proofs.Genuine.Items
import Instrument.Proofs.Words

/-!
# Texts that do not mention the marker

A text that nowhere contains the name of a kind of marker is copied without being parsed, and left
out of listings.  Parsing it would have come to the same: an attribute that is spelled like the
marker ends in a word of the tree, and such a word stands in the text.  The one exception is the
name of the attributes that documentation comments stand for; but these have a value, so they are
never markers.
-/

namespace Instrument

open Lexer (Spelled)

/-! ## The last name of a marker -/

namespace MarkerKind

variable {kind : MarkerKind}

theorem length_of_plainNames? {segments : List (Tree Token)} {names : List String}
    (plain : Tree.plainNames? segments = some names) : names.length = segments.length := by
  fun_induction Tree.plainNames? segments generalizing names with
  | case1 =>
      cases plain
      rfl
  | case2 name rest first behind found word inductionHypothesis =>
      cases plain
      exact congrArg (· + 1) (inductionHypothesis found)
  | case3 => cases plain
  | case4 => cases plain

theorem exists_getLast?_of_plainNames? {segments : List (Tree Token)} {names : List String}
    {last : String} (plain : Tree.plainNames? segments = some names)
    (isLast : names.getLast? = some last) :
    ∃ name rest, segments.getLast? = some (.node .segment (name :: rest)) ∧
      name.word? = some last := by
  fun_induction Tree.plainNames? segments generalizing names with
  | case1 =>
      cases plain
      cases isLast
  | case2 name rest first behind found word inductionHypothesis =>
      cases plain
      cases behind with
      | nil =>
          cases isLast
          rw [List.eq_nil_of_length_eq_zero (length_of_plainNames? found).symm]
          exact ⟨name, _, rfl, word⟩
      | cons second others =>
          rw [List.getLast?_cons_cons] at isLast
          rcases inductionHypothesis found isLast with ⟨name', rest', isLast', word'⟩
          refine ⟨name', rest', ?_, word'⟩
          rw [List.getLast?_cons, isLast']
          rfl
  | case3 => cases plain
  | case4 => cases plain

theorem getLast?_of_matchesNames {isRooted : Bool} {names : List String}
    (matching : kind.matchesNames isRooted names = true) : names.getLast? = some kind.name := by
  unfold matchesNames at matching
  split at matching
  next only =>
      have same := (Bool.and_eq_true_iff.mp matching).2
      exact congrArg some (beq_iff_eq.mp same)
  next crate last =>
      have same := (Bool.and_eq_true_iff.mp matching).1
      exact congrArg some (beq_iff_eq.mp same)
  next => cases matching

/-- The last segment of a path that spells the marker starts with the name of the marker. -/
theorem exists_name_of_matchesPath {path : Tree Token} (matching : kind.matchesPath path = true) :
    ∃ leading segments name rest, path = .node .path [leading, segments] ∧
      segments.elements.getLast? = some (.node .segment (name :: rest)) ∧
      name.word? = some kind.name := by
  have ofSegments {isRooted : Bool} {segments : Tree Token}
      (matching : kind.matchesSegments isRooted segments = true) :
      ∃ name rest, segments.elements.getLast? = some (.node .segment (name :: rest)) ∧
        name.word? = some kind.name := by
    unfold matchesSegments at matching
    split at matching
    next names plain =>
        exact exists_getLast?_of_plainNames? plain (getLast?_of_matchesNames matching)
    next => cases matching
  unfold matchesPath at matching
  split at matching
  next segments =>
      rcases ofSegments matching with ⟨name, rest, isLast, word⟩
      exact ⟨_, segments, name, rest, rfl, isLast, word⟩
  next leading segments =>
      rcases ofSegments matching with ⟨name, rest, isLast, word⟩
      exact ⟨_, segments, name, rest, rfl, isLast, word⟩
  next => cases matching

theorem exists_attributePath?_of_isNamedBy {candidate : Tree Token}
    (named : kind.isNamedBy candidate = true) :
    ∃ path, attributePath? candidate = some path ∧ kind.matchesPath path = true := by
  unfold isNamedBy at named
  split at named
  next path found => exact ⟨path, found, named⟩
  next => cases named

/-- The path of an attribute is a part of a part of it. -/
theorem isSubtree_of_attributePath? {candidate path : Tree Token}
    (found : attributePath? candidate = some path) : path.IsSubtree candidate := by
  unfold attributePath? at found
  split at found
  next =>
      cases found
      refine .inside (.tail _ (.tail _ (.head _))) (.inside (.head _) (.refl _))
  next =>
      cases found
      exact .inside (.tail _ (.tail _ (.tail _ (.head _)))) (.inside (.head _) (.refl _))
  next => cases found

end MarkerKind

/-! ## Words of the tree and of the text -/

section Cited

variable {tokens : List Token} {kind : MarkerKind}

/-- The path that spells the marker ends in a word of the source. -/
theorem exists_position_of_matchesPath {path : Node}
    (matching : kind.matchesPath (path.map (Citation.token (Source.ofTokens tokens))) = true) :
    ∃ leading segments citation rest position line, path = .node .path [leading, segments] ∧
      segments.elements.getLast? = some (.node .segment (.leaf citation :: rest)) ∧
      (citation = .read position ∨ citation = .kept position) ∧
      tokens[position]? = some ⟨.word kind.name, line⟩ := by
  rcases MarkerKind.exists_name_of_matchesPath matching with
    ⟨leading, segments, name, rest, isPath, isLast, word⟩
  rcases Tree.map_eq_node isPath with ⟨parts, rfl, mapped⟩
  rcases List.map_eq_cons_iff.mp mapped with ⟨leading', behind, rfl, _, mapped'⟩
  rcases List.map_eq_cons_iff.mp mapped' with ⟨segments', nothing, rfl, rfl, mapped''⟩
  cases List.map_eq_nil_iff.mp mapped''
  rw [Tree.elements_map, List.getLast?_map] at isLast
  rcases Option.map_eq_some_iff.mp isLast with ⟨segment, isLast', isSegment⟩
  rcases Tree.map_eq_node isSegment with ⟨parts, rfl, mapped⟩
  rcases List.map_eq_cons_iff.mp mapped with ⟨name', rest', rfl, rfl, _⟩
  unfold Tree.word? at word
  split at word
  next line isLeaf =>
      cases word
      rcases Tree.map_eq_leaf isLeaf with ⟨citation, rfl, same⟩
      rcases Citation.word_of_token same with ⟨position, cites, token⟩
      exact ⟨_, _, citation, rest', position, line, rfl, isLast', cites, token⟩
  next => cases word

/-- A bare attribute of the tree of tokens has the same form in the tree of citations. -/
theorem exists_original_of_isBare {change : Citation → Token} {original : Node}
    (bare : MarkerKind.isBare (original.map change) = true) :
    ∃ hash opening path closing,
      original = .node .outerAttribute [hash, opening, .node .metaPath [path], closing] := by
  unfold MarkerKind.isBare at bare
  split at bare
  next isAttribute =>
      rcases Tree.map_eq_node isAttribute with ⟨parts, rfl, mapped⟩
      rcases List.map_eq_cons_iff.mp mapped with ⟨hash, behindHash, rfl, _, mapped'⟩
      rcases List.map_eq_cons_iff.mp mapped' with ⟨opening, behindOpening, rfl, _, mapped''⟩
      rcases List.map_eq_cons_iff.mp mapped'' with ⟨content, rest, rfl, isContent, closed⟩
      rcases List.map_eq_singleton_iff.mp closed with ⟨closing, rfl, _⟩
      rcases Tree.map_eq_node isContent with ⟨paths, rfl, only⟩
      rcases List.map_eq_singleton_iff.mp only with ⟨path, rfl, _⟩
      exact ⟨hash, opening, path, closing, rfl⟩
  next => cases bare

variable {text : String} {tree : Node} (spelled : Spelled text.toList tokens)
  (unmentioned : Project.mentions kind text = false)

include spelled unmentioned in
/-- A word of the source that is the name of the marker although it does not stand in the text is
the name of a documentation attribute. -/
theorem isDoc_of_not_mentions {position line : Nat}
    (token : tokens[position]? = some ⟨.word kind.name, line⟩) :
    kind.name = "doc" ∧ (Source.ofTokens tokens).HasEquals (position + 1) := by
  rcases spelled.at_position token with inside | ⟨isDoc, joint, line', equals⟩
  · rw [Project.mentions, ← Bool.not_eq_true, Text.occursIn_iff] at unmentioned
    exact absurd inside unmentioned
  · exact ⟨isDoc, joint, line', by simpa [Source.ofTokens] using equals⟩

include spelled unmentioned in
theorem not_isNamedBy_of_not_mentions (noDoc : kind.name ≠ "doc") {candidate : Tree Token}
    (within : candidate.IsSubtree (tree.map (Citation.token (Source.ofTokens tokens)))) :
    kind.isNamedBy candidate = false := by
  rw [← Bool.not_eq_true]
  intro named
  rcases MarkerKind.exists_attributePath?_of_isNamedBy named with ⟨path, found, matching⟩
  rcases ((MarkerKind.isSubtree_of_attributePath? found).trans within).of_map with
    ⟨original, _, rfl⟩
  rcases exists_position_of_matchesPath matching with ⟨_, _, _, _, position, line, _, _, _, token⟩
  exact noDoc (isDoc_of_not_mentions spelled unmentioned token).1

include spelled unmentioned in
theorem not_isMarker_of_not_mentions (genuine : GenuineTree (Source.ofTokens tokens) tree)
    {candidate : Tree Token}
    (within : candidate.IsSubtree (tree.map (Citation.token (Source.ofTokens tokens)))) :
    kind.isMarker candidate = false := by
  rw [← Bool.not_eq_true, MarkerKind.isMarker, Bool.and_eq_true]
  rintro ⟨bare, named⟩
  rcases within.of_map with ⟨original, inside, rfl⟩
  rcases exists_original_of_isBare bare with ⟨hash, opening, path, closing, rfl⟩
  rcases MarkerKind.exists_attributePath?_of_isNamedBy named with ⟨path', found, matching⟩
  cases found
  rcases exists_position_of_matchesPath matching with
    ⟨leading, segments, citation, rest, position, line, rfl, isLast, cites, token⟩
  have noValue := (genuine.proper _ _ inside).noValue rfl
  rcases noValue _ _ isLast with ⟨position', isRead, notEquals⟩
  cases isRead
  rcases cites with same | same
  · cases same
    exact notEquals (isDoc_of_not_mentions spelled unmentioned token).2
  · cases same

end Cited
/-! ## Trees without markers -/

namespace Tree

variable {α : Type}

theorem isSubtree_of_mem_elements {tree part : Tree α} (member : part ∈ tree.elements) :
    part.IsSubtree tree := by
  unfold elements at member
  split at member
  next parts => exact .inside (List.mem_of_mem_filter member) (.refl _)
  next => cases member

end Tree

theorem Declaration.isSubtree_of_mem_attributes {node : Kind} {parts : List (Tree Token)}
    {declaration : Declaration} (declares : Declaration.ofParts? node parts = some declaration)
    {candidate : Tree Token} (member : candidate ∈ declaration.attributes) :
    candidate.IsSubtree (.node node parts) := by
  rcases declaration.exists_of_ofParts? declares with ⟨_, _, -, rfl⟩
  rcases List.mem_append.mp member with member | member
  · exact (Tree.isSubtree_of_mem_elements member).trans (.inside (.head _) (.refl _))
  · exact (Tree.isSubtree_of_mem_elements member).trans (.inside (.tail _ (.head _)) (.refl _))

theorem Scan.isSubtree_of_mem_attributes {node : Kind} {parts : List (Tree Token)}
    {bystander : Scan.Bystander} (carries : Scan.bystander? node parts = some bystander)
    {candidate : Tree Token} (member : candidate ∈ bystander.attributes) :
    candidate.IsSubtree (.node node parts) := by
  have among : candidate ∈ Site.attributes ⟨none, node, parts⟩ := by
    rw [← Site.bystander?_eq]
    dsimp only
    rw [carries]
    exact member
  unfold Site.attributes at among
  split at among
  next =>
      rcases List.mem_flatMap.mp among with ⟨part, first, inside⟩
      have beside : part ∈ parts := List.mem_of_mem_take first
      exact (Tree.isSubtree_of_mem_elements inside).trans (.inside beside (.refl _))
  next => cases among

/-- What is reported of a tree is reported by one of its nodes. -/
theorem exists_of_mem_collect {β : Type} {report : NodeReport β} {owner : Owner}
    {tree : Tree Token} {entry : β} (member : entry ∈ collect report owner tree) :
    ∃ owner node parts, (Tree.node node parts).IsSubtree tree ∧
      entry ∈ report owner node parts := by
  induction tree using Tree.induction generalizing owner with
  | leaf token => cases member
  | node node parts inductionHypothesis =>
      rw [collect_node] at member
      rcases List.mem_append.mp member with member | member
      · exact ⟨owner, node, parts, .refl _, member⟩
      · rcases List.mem_flatMap.mp member with ⟨part, beside, member⟩
        rcases inductionHypothesis part beside member with ⟨owner, node, parts, within, reported⟩
        exact ⟨owner, node, parts, .inside beside within, reported⟩

/-- Where no node reports anything, nothing is reported. -/
theorem collect_eq_nil {β : Type} {report : NodeReport β} {tree : Tree Token}
    (silent : ∀ owner node parts, (Tree.node node parts).IsSubtree tree →
      report owner node parts = []) (owner : Owner) : collect report owner tree = [] := by
  rw [List.eq_nil_iff_forall_not_mem]
  intro entry member
  rcases exists_of_mem_collect member with ⟨owner, node, parts, within, reported⟩
  rw [silent owner node parts within] at reported
  cases reported

section Unmarked

variable {kind : MarkerKind} {tree : Tree Token}
  (unmarked : ∀ candidate : Tree Token, candidate.IsSubtree tree → kind.isMarker candidate = false)

include unmarked

theorem isMarked_of_unmarked {node : Kind} {parts : List (Tree Token)}
    (within : (Tree.node node parts).IsSubtree tree) {declaration : Declaration}
    (declares : Declaration.ofParts? node parts = some declaration) :
    declaration.isMarked kind = false := by
  rw [Declaration.isMarked, List.any_eq_false]
  intro candidate member
  rw [Bool.not_eq_true]
  have inside := declaration.isSubtree_of_mem_attributes declares member
  exact unmarked candidate (inside.trans within)

theorem isTagged_of_unmarked {node : Kind} {parts : List (Tree Token)}
    (within : (Tree.node node parts).IsSubtree tree) {declaration : Declaration}
    (declares : Declaration.ofParts? node parts = some declaration) :
    declaration.isTagged kind = false := by
  rw [Declaration.isTagged, isMarked_of_unmarked unmarked within declares, Bool.and_false]

theorem isTagged_of_mem_declared {owner : Owner} {found : Owner × Declaration}
    (member : found ∈ declared owner tree) : found.2.isTagged kind = false := by
  rcases exists_of_mem_collect member with ⟨owner, node, parts, within, reported⟩
  rw [declarationReport, Option.mem_toList, Option.map_eq_some_iff] at reported
  rcases reported with ⟨declaration, declares, rfl⟩
  exact isTagged_of_unmarked unmarked within declares

/-- What is selected from tagged declarations only is selected nowhere. -/
theorem filterMap_declared_of_unmarked {β : Type} {select : Owner × Declaration → Option β}
    (onlyTagged : ∀ found, found.2.isTagged kind = false → select found = none) (owner : Owner) :
    (declared owner tree).filterMap select = [] :=
  List.filterMap_eq_nil_iff.mpr fun found member =>
    onlyTagged found (isTagged_of_mem_declared unmarked member)

theorem tagged_scan_of_unmarked : (kind.scan tree).tagged = [] := by
  rw [Scan.tagged_eq_filterMap_declared]
  refine filterMap_declared_of_unmarked unmarked (fun found untagged => ?_) none
  rw [Scan.taggedDeclaration?, untagged]
  rfl

theorem outcomes_of_unmarked (policy : MarkerPolicy) (owner : Owner) :
    Instrumentation.outcomes kind policy owner tree = [] := by
  rw [Instrumentation.outcomes_eq_filterMap_declared]
  refine filterMap_declared_of_unmarked unmarked (fun found untagged => ?_) owner
  rw [Instrumentation.outcome?, untagged]
  rfl

theorem instrument_of_unmarked (policy : MarkerPolicy) :
    Instrumentation.instrument kind policy tree = tree := by
  rw [instrument_eq_treat]
  refine treat_of_untouched kind _ tree fun declaration member => ?_
  rw [declarations_eq_map_declared none] at member
  rcases List.mem_map.mp member with ⟨found, inside, rfl⟩
  rw [Instrumentation.isInstrumented, isTagged_of_mem_declared unmarked inside, Bool.false_and]

end Unmarked

/-- Where nothing is spelled like a marker, a scan finds nothing. -/
theorem scan_of_unnamed {kind : MarkerKind} {tree : Tree Token}
    (unnamed : ∀ candidate : Tree Token, candidate.IsSubtree tree →
      kind.isNamedBy candidate = false) : kind.scan tree = ⟨[], []⟩ := by
  have unmarked (candidate : Tree Token) (within : candidate.IsSubtree tree) :
      kind.isMarker candidate = false := by
    rw [MarkerKind.isMarker, unnamed candidate within, Bool.and_false]
  have nothing (item : String) (reason : IgnoreReason) {attributes : List (Tree Token)}
      (inside : ∀ candidate ∈ attributes, candidate.IsSubtree tree) :
      Scan.ignoredAs kind item reason attributes = [] := by
    rw [Scan.ignoredAs, List.map_eq_nil_iff, List.filter_eq_nil_iff]
    intro candidate member
    rw [Bool.not_eq_true]
    exact unnamed candidate (inside candidate member)
  have findings : Scan.findings kind none tree = [] := by
    rw [Scan.findings_eq_collect]
    refine collect_eq_nil (fun owner node parts within => ?_) none
    unfold Scan.ofNode
    split
    next declaration declares =>
        have inside (candidate : Tree Token) (member : candidate ∈ declaration.attributes) :
            candidate.IsSubtree tree :=
          (declaration.isSubtree_of_mem_attributes declares member).trans within
        dsimp only [Scan.ofDeclaration]
        rw [nothing _ _ fun candidate member => inside candidate (List.mem_of_mem_filter member),
          isTagged_of_unmarked unmarked within declares,
          isMarked_of_unmarked unmarked within declares]
        rfl
    next =>
        split
        next bystander carries =>
            exact nothing _ _ fun candidate member =>
              (Scan.isSubtree_of_mem_attributes carries member).trans within
        next => rfl
  rw [MarkerKind.scan, findings]
  rfl

/-! ## Files that do not mention the marker -/

namespace Project

theorem toUTF8_of_decode {content : ByteArray} {text : String}
    (decoded : Files.FileTree.decode content = .ok text) : text.toUTF8 = content := by
  unfold Files.FileTree.decode at decoded
  split at decoded
  next found =>
      cases decoded
      unfold String.fromUTF8? at found
      split at found <;> cases found
      rfl
  next => cases decoded

variable {kind : MarkerKind} {text : String} {file : SourceFile}

/-- In a file that does not mention the marker nothing is tagged and nothing is changed.  If the
marker is not called like a documentation attribute, nothing else is spelled like it either: what is
copied without being parsed is what parsing it would have led to, and what a listing leaves out is a
file in which nothing is found. -/
theorem untouched_of_not_mentions (parsed : SourceFile.parse text = .ok file)
    (unmentioned : mentions kind text = false) :
    (kind.scan file.tree).tagged = [] ∧
    (∀ policy, (file.instrument kind policy).file = file ∧
      (file.instrument kind policy).instrumented = [] ∧
      (file.instrument kind policy).skipped = [] ∧
      (file.instrument kind policy).render? text = some text) ∧
    (kind.name ≠ "doc" →
      (kind.scan file.tree).ignored = [] ∧
      ∀ content, Files.FileTree.decode content = .ok text →
        (∀ policy path,
          stageSource kind policy path content = ⟨[], .ok ⟨content, none⟩⟩ ∧
          stageMarked kind policy path text = ⟨[], .ok ⟨content, some ⟨path, [], [], []⟩⟩⟩) ∧
        ∀ path shown, CommandLine.scanCandidate kind ⟨path, shown, content⟩ = .ok none) := by
  rcases SourceFile.exists_cite_of_parse parsed with ⟨tokens, tree, spelled, cited, same⟩
  have genuine := genuineTree_of_cite cited
  have unmarked (candidate : Tree Token) (within : candidate.IsSubtree file.tree) :
      kind.isMarker candidate = false := by
    rw [same] at within
    exact not_isMarker_of_not_mentions spelled unmentioned genuine within
  have unchanged (policy : MarkerPolicy) : file.instrument kind policy = ⟨file, []⟩ := by
    rw [SourceFile.instrument, instrument_of_unmarked unmarked, outcomes_of_unmarked unmarked]
  refine ⟨tagged_scan_of_unmarked unmarked, fun policy => ?_, fun noDoc => ?_⟩
  · rw [unchanged]
    exact ⟨rfl, rfl, rfl, rfl⟩
  have scanned : kind.scan file.tree = ⟨[], []⟩ := by
    refine scan_of_unnamed fun candidate within => ?_
    rw [same] at within
    exact not_isNamedBy_of_not_mentions spelled unmentioned noDoc within
  refine ⟨congrArg Scan.ignored scanned, fun content decoded => ⟨fun policy path => ?_, ?_⟩⟩
  · constructor
    · rw [stageSource, decoded]
      dsimp only
      rw [unmentioned]
      rfl
    · rw [stageMarked, parsed]
      dsimp only
      rw [scanned, unchanged, ← toUTF8_of_decode decoded]
      rfl
  · intro path shown
    rw [CommandLine.scanCandidate, decoded]
    dsimp only
    rw [unmentioned]
    rfl

/-- A documented function in a file that does not mention the marker. -/
theorem untouched_documented :
    let text := "/// Logs nothing.\n#[inline]\nfn main() \x7b\x7d\n"
    ∃ file, SourceFile.parse text = .ok file ∧ mentions .methodLogger text = false ∧
      (file.instrument .methodLogger .retain).file = file ∧
      (MarkerKind.methodLogger.scan file.tree).ignored = [] := by
  intro text
  have parses : (SourceFile.parse text).isOk = true := by decide +kernel
  have unmentioned : mentions .methodLogger text = false := by decide +kernel
  cases parsed : SourceFile.parse text with
  | error failure =>
      rw [parsed] at parses
      cases parses
  | ok file =>
      have untouched := untouched_of_not_mentions parsed unmentioned
      exact ⟨file, rfl, unmentioned, (untouched.2.1 .retain).1,
        (untouched.2.2 (by decide)).1⟩

end Project
end Instrument
