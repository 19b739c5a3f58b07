import Instrument.Proofs.Traversal

/-!
# Quiet trees

A tree is quiet if no report can find anything in it: none of its nodes carries attributes that are
scanned, declares a function or owns what is inside it.  Markers and the diagnostic are quiet.  This
is why taking out the one and putting in the other cannot change any other report.

A marker is quiet because it has to be bare.  An attribute with arguments may hold any expression,
and so any declaration; it is malformed and stays.
-/

namespace Instrument

namespace Kind

/-- Nodes of this kind carry no attributes that a scan reports, declare no function, and own
nothing.  Markers and the diagnostic are made of such nodes, and a body is one, too. -/
def isQuiet : Kind → Bool
  | .absent | .sequence | .verbatim | .path | .segment | .invocation | .macroStatement
  | .outerAttribute | .metaPath | .block => true
  | _ => false

/-- Markers are made of nodes of this kind. -/
def isPlain : Kind → Bool
  | .absent | .sequence | .path | .segment | .outerAttribute | .metaPath => true
  | _ => false

/-- Paths that spell markers are made of nodes of this kind. -/
def isSpelling : Kind → Bool
  | .absent | .sequence | .path | .segment => true
  | _ => false

theorem isPlain_of_isSpelling (kind : Kind) (spelling : kind.isSpelling = true) :
    kind.isPlain = true := by
  cases kind <;> first | rfl | cases spelling

theorem isQuiet_of_isPlain (kind : Kind) (plain : kind.isPlain = true) : kind.isQuiet = true := by
  cases kind <;> first | rfl | cases plain

end Kind

namespace Tree

mutual

/-- All nodes of the tree are of kinds that are admitted. -/
def isMadeOf (admits : Kind → Bool) : Tree Token → Bool
  | .leaf _ => true
  | .node kind parts => admits kind && areMadeOf admits parts

/-- All nodes of several trees are of kinds that are admitted. -/
def areMadeOf (admits : Kind → Bool) : List (Tree Token) → Bool
  | [] => true
  | part :: rest => isMadeOf admits part && areMadeOf admits rest

end

theorem areMadeOf_eq_all (admits : Kind → Bool) (parts : List (Tree Token)) :
    areMadeOf admits parts = parts.all (isMadeOf admits) := by
  induction parts with
  | nil => rfl
  | cons part rest inductionHypothesis => rw [areMadeOf, inductionHypothesis, List.all_cons]

theorem isMadeOf_node_iff (admits : Kind → Bool) (kind : Kind) (parts : List (Tree Token)) :
    (Tree.node kind parts).isMadeOf admits = true ↔
      admits kind = true ∧ ∀ part ∈ parts, part.isMadeOf admits = true := by
  rw [isMadeOf, areMadeOf_eq_all, Bool.and_eq_true, List.all_eq_true]

theorem isMadeOf_mono {admits other : Kind → Bool}
    (more : ∀ kind, admits kind = true → other kind = true) (tree : Tree Token)
    (made : tree.isMadeOf admits = true) : tree.isMadeOf other = true := by
  induction tree using Tree.induction with
  | leaf token => rfl
  | node kind parts inductionHypothesis =>
      have ⟨admitted, inside⟩ := (isMadeOf_node_iff admits kind parts).mp made
      exact (isMadeOf_node_iff other kind parts).mpr
        ⟨more kind admitted, fun part member =>
          inductionHypothesis part member (inside part member)⟩

/-- All nodes of the tree are quiet. -/
def isQuiet (tree : Tree Token) : Bool :=
  tree.isMadeOf Kind.isQuiet

theorem isQuiet_node_iff (kind : Kind) (parts : List (Tree Token)) :
    (Tree.node kind parts).isQuiet = true ↔
      kind.isQuiet = true ∧ ∀ part ∈ parts, part.isQuiet = true :=
  isMadeOf_node_iff Kind.isQuiet kind parts

theorem elements_of_ne_sequence (kind : Kind) (parts : List (Tree Token))
    (different : kind ≠ .sequence) : (Tree.node kind parts).elements = [] := by
  cases kind <;> first | rfl | exact absurd rfl different

end Tree

/-! ## Reports on quiet trees -/

theorem inside_of_isQuiet (owner : Owner) (kind : Kind) (parts : List (Tree Token))
    (quiet : kind.isQuiet = true) : owner.inside kind parts = owner := by
  cases kind <;> first | rfl | cases quiet

theorem ofParts?_of_isQuiet (kind : Kind) (parts : List (Tree Token))
    (quiet : kind.isQuiet = true) : Declaration.ofParts? kind parts = none := by
  cases kind <;> first | rfl | cases quiet

/-- A report that finds nothing on a quiet node. -/
def IgnoresQuiet {β : Type} (report : NodeReport β) : Prop :=
  ∀ owner kind parts, Kind.isQuiet kind = true → report owner kind parts = []

theorem ignoresQuiet_declarationReport : IgnoresQuiet declarationReport := by
  intro owner kind parts quiet
  rw [declarationReport, ofParts?_of_isQuiet kind parts quiet]
  rfl

section Reports

variable {β : Type} {report : NodeReport β} (ignores : IgnoresQuiet report) (owner : Owner)

include ignores

/-- A quiet node only passes on what its parts report. -/
theorem collect_node_of_isQuiet (kind : Kind) (parts : List (Tree Token))
    (quiet : kind.isQuiet = true) :
    collect report owner (.node kind parts) = parts.flatMap (collect report owner) := by
  rw [collect_node, ignores owner kind parts quiet, inside_of_isQuiet owner kind parts quiet,
    List.nil_append]

theorem collect_of_isQuiet (tree : Tree Token) (quiet : tree.isQuiet = true) :
    collect report owner tree = [] := by
  induction tree using Tree.induction with
  | leaf token => rfl
  | node kind parts inductionHypothesis =>
      have ⟨quietKind, quietParts⟩ := (Tree.isQuiet_node_iff kind parts).mp quiet
      rw [collect_node_of_isQuiet ignores owner kind parts quietKind, List.flatMap_eq_nil_iff]
      intro part member
      exact inductionHypothesis part member (quietParts part member)

end Reports

/-! ## What is quiet -/

/-- The diagnostic is quiet. -/
theorem isQuiet_statement : Diagnostic.statement.isQuiet = true :=
  rfl

namespace MarkerKind

theorem isSpelling_of_mem_plainNames? {segments : List (Tree Token)} {names : List String}
    (plain : Tree.plainNames? segments = some names) :
    ∀ segment ∈ segments, segment.isMadeOf Kind.isSpelling = true := by
  fun_induction Tree.plainNames? segments generalizing names with
  | case1 => exact fun _ member => absurd member List.not_mem_nil
  | case2 name rest first behind found word inductionHypothesis =>
      intro segment member
      rcases List.mem_cons.mp member with same | member
      · subst segment
        cases name with
        | leaf token => rfl
        | node kind parts => cases word
      · exact inductionHypothesis found segment member
  | case3 => cases plain
  | case4 => cases plain

variable (kind : MarkerKind)

theorem isSpelling_of_matchesSegments (isRooted : Bool) (segments : Tree Token)
    (matching : kind.matchesSegments isRooted segments = true) :
    segments.isMadeOf Kind.isSpelling = true := by
  unfold matchesSegments at matching
  split at matching
  next names plain =>
      cases segments with
      | leaf token => rfl
      | node node parts =>
          by_cases sequence : node = .sequence
          · subst node
            refine (Tree.isMadeOf_node_iff _ _ _).mpr ⟨rfl, fun part member => ?_⟩
            cases part with
            | leaf token => rfl
            | node inner inside =>
                exact isSpelling_of_mem_plainNames? plain _ (List.mem_filter.mpr ⟨member, rfl⟩)
          · rw [Tree.elements_of_ne_sequence node parts sequence] at plain
            cases plain
            cases matching
  next => cases matching

theorem isSpelling_of_matchesPath (path : Tree Token) (matching : kind.matchesPath path = true) :
    path.isMadeOf Kind.isSpelling = true := by
  unfold matchesPath at matching
  split at matching
  next segments =>
      have spelling := kind.isSpelling_of_matchesSegments false segments matching
      simp only [Tree.isMadeOf, Tree.areMadeOf, Kind.isSpelling, spelling, Bool.and_self]
  next leading segments =>
      have spelling := kind.isSpelling_of_matchesSegments true segments matching
      simp only [Tree.isMadeOf, Tree.areMadeOf, Kind.isSpelling, spelling, Bool.and_self]
  next => cases matching

theorem isPlain_of_matchesPath (path : Tree Token) (matching : kind.matchesPath path = true) :
    path.isMadeOf Kind.isPlain = true :=
  Tree.isMadeOf_mono Kind.isPlain_of_isSpelling path (kind.isSpelling_of_matchesPath path matching)

/-- A marker is a path in brackets, and nothing else. -/
theorem isPlain_of_isMarker (candidate : Tree Token) (marker : kind.isMarker candidate = true) :
    candidate.isMadeOf Kind.isPlain = true := by
  obtain ⟨bare, named⟩ := Bool.and_eq_true_iff.mp marker
  unfold isBare at bare
  split at bare
  next hash opening path closing =>
      have plain := kind.isPlain_of_matchesPath path named
      simp only [Tree.isMadeOf, Tree.areMadeOf, Kind.isPlain, plain, Bool.and_self]
  next => cases bare

theorem isQuiet_of_matchesPath (path : Tree Token) (matching : kind.matchesPath path = true) :
    path.isQuiet = true :=
  Tree.isMadeOf_mono Kind.isQuiet_of_isPlain path (kind.isPlain_of_matchesPath path matching)

/-- A marker is quiet: nothing in it could be reported apart from the marker itself. -/
theorem isQuiet_of_isMarker (candidate : Tree Token) (marker : kind.isMarker candidate = true) :
    candidate.isQuiet = true :=
  Tree.isMadeOf_mono Kind.isQuiet_of_isPlain candidate (kind.isPlain_of_isMarker candidate marker)

end MarkerKind

end Instrument
