import Instrument.Proofs.Quiet
import Mathlib.Data.List.GetD

/-!
# Treating tagged bodies

Instrumenting is one of several ways to treat the declarations of a tree that are tagged and have a
body: their markers stay or go, and something is done to their statements.  `treat` does this to
every such declaration of a tree, wherever it stands, and nothing to anything else.

A treatment must not depend on what statements are, the diagnostic apart.  This is a proof field, so
that the laws below hold of every treatment without further assumptions: a treatment commutes with
what happens inside the statements, and a tree looks the same from outside before and after it.
-/

namespace Instrument

/-- What is done to a declaration that is tagged and has a body. -/
structure Treatment where
  policy : MarkerPolicy
  statements : List (Tree Token) → List (Tree Token)
  natural : ∀ (change : Tree Token → Tree Token) (body : List (Tree Token)),
    change Diagnostic.statement = Diagnostic.statement →
      statements (body.map change) = (statements body).map change

namespace Treatment

/-- The policy, and so many diagnostics in front of the statements. -/
def layers (policy : MarkerPolicy) (copies : Nat) : Treatment where
  policy := policy
  statements := fun body => List.replicate copies Diagnostic.statement ++ body
  natural := by
    intro change body fixed
    rw [List.map_append, List.map_replicate, fixed]

/-- The first statement is taken off, and all markers stay. -/
def unlayering : Treatment where
  policy := .retain
  statements := List.tail
  natural := by
    intro change body _
    exact List.map_tail.symm

/-- The markers are taken off, and the statements stay. -/
def unmarking : Treatment where
  policy := .strip
  statements := fun body => body
  natural := fun _ _ _ => rfl

/-- One treatment and then another one.  Of the two policies only the last one remains, which is
all there is to say as long as the first one keeps the markers. -/
def after (second first : Treatment) : Treatment where
  policy := second.policy
  statements := fun body => second.statements (first.statements body)
  natural := by
    intro change body fixed
    rw [first.natural change body fixed, second.natural change _ fixed]

/-- A block with its statements treated. -/
def onBody (treatment : Treatment) : Tree Token → Tree Token
  | .node .block [opening, .node .sequence statements, closing] =>
    .node .block [opening, .node .sequence (treatment.statements statements), closing]
  | other => other

/-- The parts of a declaration, treated. -/
def onParts (treatment : Treatment) (kind : MarkerKind) : List (Tree Token) → List (Tree Token)
  | [outer, inner, visibility, mode, signature, body] =>
    [treatment.policy.apply kind outer, treatment.policy.apply kind inner, visibility, mode,
      signature, treatment.onBody body]
  | parts => parts

end Treatment

mutual

/-- The tree with all its tagged bodies treated. -/
def treat (kind : MarkerKind) (treatment : Treatment) : Tree Token → Tree Token
  | .leaf token => .leaf token
  | .node node parts =>
    let inside := treatAll kind treatment parts
    if Instrumentation.changesNode kind node parts then
      .node node (treatment.onParts kind inside)
    else .node node inside

/-- Several trees with all their tagged bodies treated. -/
def treatAll (kind : MarkerKind) (treatment : Treatment) : List (Tree Token) → List (Tree Token)
  | [] => []
  | part :: rest => treat kind treatment part :: treatAll kind treatment rest

end

section Outside

variable (kind : MarkerKind) (treatment : Treatment)

theorem treatAll_eq_map (parts : List (Tree Token)) :
    treatAll kind treatment parts = parts.map (treat kind treatment) := by
  induction parts with
  | nil => rfl
  | cons part rest inductionHypothesis => rw [treatAll, inductionHypothesis, List.map_cons]

/-- The parts of a node once everything inside it is treated, and then the node itself. -/
def treatedParts (node : Kind) (parts : List (Tree Token)) : List (Tree Token) :=
  let inside := parts.map (treat kind treatment)
  if Instrumentation.changesNode kind node parts then treatment.onParts kind inside else inside

theorem treat_node (node : Kind) (parts : List (Tree Token)) :
    treat kind treatment (.node node parts) =
      .node node (treatedParts kind treatment node parts) := by
  rw [treat, treatAll_eq_map, treatedParts]
  split <;> rfl

theorem instrumentAll_eq_map (policy : MarkerPolicy) (trees : List (Tree Token)) :
    Instrumentation.instrumentAll kind policy trees =
      trees.map (Instrumentation.instrument kind policy) := by
  induction trees with
  | nil => rfl
  | cons tree rest inductionHypothesis =>
      rw [Instrumentation.instrumentAll, inductionHypothesis, List.map_cons]

/-- Instrumenting is a treatment: one diagnostic in front of every tagged body. -/
theorem instrument_eq_treat (policy : MarkerPolicy) (tree : Tree Token) :
    Instrumentation.instrument kind policy tree =
      treat kind (Treatment.layers policy 1) tree := by
  induction tree using Tree.induction with
  | leaf token => rfl
  | node node parts inductionHypothesis =>
      have inside : Instrumentation.instrumentAll kind policy parts =
          parts.map (treat kind (Treatment.layers policy 1)) :=
        (instrumentAll_eq_map kind policy parts).trans (List.map_congr_left inductionHypothesis)
      rw [Instrumentation.instrument, inside, treat_node, treatedParts]
      split <;> rfl

/-! ## A tree from outside

A treatment keeps leaves and kinds of nodes.  So it keeps whatever is told by leaves, kinds and the
order of parts, as names, lines and qualifiers are.
-/

theorem changesNode_of_not_callable (node : Kind) (parts : List (Tree Token))
    (notCallable : Callable.ofKind? node = none) :
    Instrumentation.changesNode kind node parts = false := by
  simp only [Instrumentation.changesNode, Declaration.ofParts?, notCallable]

/-- Nodes that declare no function are only treated inside. -/
theorem treat_node_of_not_callable (node : Kind) (parts : List (Tree Token))
    (notCallable : Callable.ofKind? node = none) :
    treat kind treatment (.node node parts) = .node node (parts.map (treat kind treatment)) := by
  rw [treat_node, treatedParts, changesNode_of_not_callable kind node parts notCallable]
  rfl

@[simp] theorem treat_sequence (parts : List (Tree Token)) :
    treat kind treatment (.node .sequence parts) =
      .node .sequence (parts.map (treat kind treatment)) :=
  treat_node_of_not_callable kind treatment .sequence parts rfl

@[simp] theorem treat_absent : treat kind treatment .absent = .absent :=
  treat_node_of_not_callable kind treatment .absent [] rfl

@[simp] theorem isLeaf_treat (tree : Tree Token) :
    (treat kind treatment tree).isLeaf = tree.isLeaf := by
  cases tree with
  | leaf token => rfl
  | node node parts => rw [treat_node]; rfl

@[simp] theorem isPresent_treat (tree : Tree Token) :
    (treat kind treatment tree).isPresent = tree.isPresent := by
  cases tree with
  | leaf token => rfl
  | node node parts =>
      rw [treat_node]
      cases node <;> rfl

@[simp] theorem isAbsent_treat (tree : Tree Token) :
    (treat kind treatment tree).isAbsent = tree.isAbsent :=
  Bool.not_inj (isPresent_treat kind treatment tree)

@[simp] theorem text_treat (tree : Tree Token) :
    (treat kind treatment tree).text = tree.text := by
  cases tree with
  | leaf token => rfl
  | node node parts => rw [treat_node]; rfl

@[simp] theorem line_treat (tree : Tree Token) :
    (treat kind treatment tree).line = tree.line := by
  cases tree with
  | leaf token => rfl
  | node node parts => rw [treat_node]; rfl

theorem elements_treat (tree : Tree Token) :
    (treat kind treatment tree).elements = tree.elements.map (treat kind treatment) := by
  cases tree with
  | leaf token => rfl
  | node node parts =>
      by_cases sequence : node = .sequence
      · subst node
        rw [treat_sequence, Tree.elements, Tree.elements, List.filter_map]
        congr 1
        exact List.filter_congr fun part _ => by
          rw [Function.comp_apply, isLeaf_treat]
      · rw [treat_node, Tree.elements_of_ne_sequence node _ sequence,
          Tree.elements_of_ne_sequence node _ sequence, List.map_nil]

@[simp] theorem getD_map_treat (parts : List (Tree Token)) (place : Nat) :
    (parts.map (treat kind treatment)).getD place .absent =
      treat kind treatment (parts.getD place .absent) := by
  have mapped := List.getD_map (l := parts) (n := place) (d := .absent) (treat kind treatment)
  rwa [treat_absent] at mapped

/-! ## Quiet trees stay as they are -/

theorem notCallable_of_isQuiet (node : Kind) (quiet : node.isQuiet = true) :
    Callable.ofKind? node = none := by
  cases node <;> first | rfl | cases quiet

theorem treat_of_isQuiet (tree : Tree Token) (quiet : tree.isQuiet = true) :
    treat kind treatment tree = tree := by
  induction tree using Tree.induction with
  | leaf token => rfl
  | node node parts inductionHypothesis =>
      have ⟨quietKind, quietParts⟩ := (Tree.isQuiet_node_iff node parts).mp quiet
      have notCallable := notCallable_of_isQuiet node quietKind
      rw [treat_node_of_not_callable kind treatment node parts notCallable]
      congr 1
      refine (List.map_congr_left fun part member => ?_).trans (List.map_id parts)
      exact inductionHypothesis part member (quietParts part member)

/-- What is quiet behind a treatment was left alone by it. -/
theorem treat_of_isQuiet_treat (tree : Tree Token)
    (quiet : (treat kind treatment tree).isQuiet = true) : treat kind treatment tree = tree := by
  induction tree using Tree.induction with
  | leaf token => rfl
  | node node parts inductionHypothesis =>
      rw [treat_node] at quiet
      have quietKind := ((Tree.isQuiet_node_iff node _).mp quiet).1
      have notCallable := notCallable_of_isQuiet node quietKind
      rw [← treat_node, treat_node_of_not_callable kind treatment node parts notCallable] at quiet
      have quietParts := ((Tree.isQuiet_node_iff node _).mp quiet).2
      rw [treat_node_of_not_callable kind treatment node parts notCallable]
      congr 1
      refine (List.map_congr_left fun part member => ?_).trans (List.map_id parts)
      exact inductionHypothesis part member
        (quietParts _ (List.mem_map_of_mem member))

/-- An attribute is a marker of any kind before a treatment exactly if it is one behind it. -/
@[simp] theorem isMarker_treat (asked : MarkerKind) (candidate : Tree Token) :
    asked.isMarker (treat kind treatment candidate) = asked.isMarker candidate := by
  rw [Bool.eq_iff_iff]
  constructor
  · intro marker
    have quiet := asked.isQuiet_of_isMarker _ marker
    rwa [treat_of_isQuiet_treat kind treatment candidate quiet] at marker
  · intro marker
    rwa [treat_of_isQuiet kind treatment candidate (asked.isQuiet_of_isMarker _ marker)]

theorem segments_treat (path : Tree Token) :
    Owner.segments (treat kind treatment path) =
      (Owner.segments path).map (treat kind treatment) := by
  cases path with
  | leaf token => rfl
  | node node parts =>
      cases node with
      | path | qualifiedPath =>
          rw [treat_node_of_not_callable kind treatment _ parts rfl]
          simp only [Owner.segments, getD_map_treat, elements_treat]
      | _ => rw [treat_node]; rfl

theorem segmentName_treat (segment : Tree Token) :
    Owner.segmentName (treat kind treatment segment) = Owner.segmentName segment := by
  cases segment with
  | leaf token => rfl
  | node node parts =>
      cases node with
      | segment =>
          rw [treat_node_of_not_callable kind treatment _ parts rfl]
          cases parts with
          | nil => rfl
          | cons name behind => exact text_treat kind treatment name
      | _ => rw [treat_node]; rfl

/-- A path names the same type before a treatment and behind it. -/
theorem typeName_treat (type : Tree Token) :
    Owner.typeName (treat kind treatment type) = Owner.typeName type := by
  cases type with
  | leaf token => rfl
  | node node parts =>
      cases node with
      | pathType =>
          rw [treat_node_of_not_callable kind treatment _ parts rfl]
          match parts with
          | [] | _ :: _ :: _ => rfl
          | [path] =>
              rw [List.map_singleton, Owner.typeName, Owner.typeName, segments_treat,
                List.getLast?_map]
              cases (Owner.segments path).getLast? with
              | none => rfl
              | some last => exact segmentName_treat kind treatment last
      | _ => rw [treat_node]; rfl

/-- What a node contains has the same owner before a treatment and behind it. -/
theorem inside_map_treat (owner : Owner) (node : Kind) (parts : List (Tree Token)) :
    owner.inside node (parts.map (treat kind treatment)) = owner.inside node parts := by
  cases node with
  | implItem | traitItem =>
      simp only [Owner.inside, getD_map_treat, typeName_treat, text_treat]
  | _ => rfl

/-! ## A declaration from outside -/

/-- A declaration with everything inside it treated. -/
def treatInside (declaration : Declaration) : Declaration where
  callable := declaration.callable
  outer := treat kind treatment declaration.outer
  inner := treat kind treatment declaration.inner
  signature := treat kind treatment declaration.signature
  body := treat kind treatment declaration.body

theorem ofParts?_map_treat (node : Kind) (parts : List (Tree Token)) :
    Declaration.ofParts? node (parts.map (treat kind treatment)) =
      (Declaration.ofParts? node parts).map (treatInside kind treatment) :=
  Declaration.ofParts?_map_of (fun _ _ _ _ _ => rfl) node parts

theorem attributes_treatInside (declaration : Declaration) :
    (treatInside kind treatment declaration).attributes =
      declaration.attributes.map (treat kind treatment) := by
  simp only [Declaration.attributes, treatInside, elements_treat, List.map_append]

theorem signaturePart_treatInside (declaration : Declaration) (place : Nat) :
    (treatInside kind treatment declaration).signaturePart place =
      treat kind treatment (declaration.signaturePart place) := by
  unfold Declaration.signaturePart treatInside
  cases declaration.signature with
  | leaf token => exact (treat_absent kind treatment).symm
  | node node parts =>
      cases node with
      | signature =>
          rw [treat_node_of_not_callable kind treatment _ parts rfl]
          exact getD_map_treat kind treatment parts place
      | _ => rw [treat_node]; exact (treat_absent kind treatment).symm

@[simp] theorem name_treatInside (declaration : Declaration) :
    (treatInside kind treatment declaration).name = declaration.name := by
  rw [Declaration.name, signaturePart_treatInside, text_treat, Declaration.name]

@[simp] theorem line_treatInside (declaration : Declaration) :
    (treatInside kind treatment declaration).line = declaration.line := by
  rw [Declaration.line, signaturePart_treatInside, line_treat, Declaration.line]

@[simp] theorem qualify_treatInside (owner : Owner) (declaration : Declaration) :
    owner.qualify (treatInside kind treatment declaration) = owner.qualify declaration := by
  simp only [Owner.qualify, name_treatInside]
  rfl

@[simp] theorem isMarked_treatInside (asked : MarkerKind) (declaration : Declaration) :
    (treatInside kind treatment declaration).isMarked asked = declaration.isMarked asked := by
  rw [Declaration.isMarked, attributes_treatInside, List.any_map, Declaration.isMarked]
  congr 1
  funext candidate
  exact isMarker_treat kind treatment asked candidate

@[simp] theorem isTagged_treatInside (asked : MarkerKind) (declaration : Declaration) :
    (treatInside kind treatment declaration).isTagged asked = declaration.isTagged asked := by
  have sameConst : (treatInside kind treatment declaration).isConst = declaration.isConst := by
    rw [Declaration.isConst, signaturePart_treatInside, isPresent_treat, Declaration.isConst]
  rw [Declaration.isTagged, Declaration.acceptsMarker, sameConst, isMarked_treatInside]
  rfl

theorem countMarkers_treatInside (asked : MarkerKind) (declaration : Declaration) :
    asked.countMarkers (treatInside kind treatment declaration).attributes =
      asked.countMarkers declaration.attributes := by
  rw [attributes_treatInside, MarkerKind.countMarkers, List.countP_map, MarkerKind.countMarkers]
  congr 1
  funext candidate
  exact isMarker_treat kind treatment asked candidate

end Outside

/-! ## Trees that a treatment leaves alone -/

theorem mem_declarations_node {node : Kind} {parts : List (Tree Token)} {part : Tree Token}
    (member : part ∈ parts) {declaration : Declaration} (inside : declaration ∈ declarations part) :
    declaration ∈ declarations (.node node parts) := by
  rw [declarations, declarationsOfParts_eq_flatMap]
  exact List.mem_append_right _ (List.mem_flatMap.mpr ⟨part, member, inside⟩)

/-- Where no declaration is to be instrumented, nothing is treated. -/
theorem treat_of_untouched (kind : MarkerKind) (treatment : Treatment) (tree : Tree Token)
    (untouched : ∀ declaration ∈ declarations tree,
      Instrumentation.isInstrumented kind declaration = false) :
    treat kind treatment tree = tree := by
  induction tree using Tree.induction with
  | leaf token => rfl
  | node node parts inductionHypothesis =>
      have unchanged : Instrumentation.changesNode kind node parts = false := by
        unfold Instrumentation.changesNode
        split
        next declaration declares =>
            refine untouched declaration ?_
            rw [declarations, declares]
            exact List.mem_append_left _ (List.mem_singleton.mpr rfl)
        next => rfl
      have inside : parts.map (treat kind treatment) = parts := by
        refine (List.map_congr_left fun part member => ?_).trans (List.map_id parts)
        exact inductionHypothesis part member fun declaration within =>
          untouched declaration (mem_declarations_node member within)
      rw [treat_node, treatedParts, unchanged, inside]
      rfl

end Instrument
