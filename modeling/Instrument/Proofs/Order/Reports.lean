import Instrument.Proofs.Attachments
import Instrument.Proofs.Order.Lines

/-!
# The order of reports

A node reports what it finds on itself before anything that its parts report, so a list of a scan
follows the order in which a tree is visited.  Mostly this is the order of the source, and the lines
in the list never decrease.  There are four ways in which it is not, and none of them is excluded
by the grammar: `Displaces` names them.
-/

namespace Instrument

/-- One of the two lists of a scan. -/
inductive Listing where
  | tagged
  | ignored
deriving DecidableEq, Repr

namespace Listing

/-- The line of an entry that is in the list. -/
def line? : Listing → Finding → Option Nat
  | tagged, .tagged declaration => some declaration.line
  | ignored, .ignored marker => some marker.line
  | _, _ => none

/-- The lines of the entries in their order. -/
def lines : Listing → Scan → List Nat
  | tagged, scan => scan.tagged.map TaggedDeclaration.line
  | ignored, scan => scan.ignored.map IgnoredMarker.line

variable (listing : Listing) (kind : MarkerKind)

/-- The lines of the entries that a node makes for itself. -/
def ownLines (node : Kind) (parts : List (Tree Token)) : List Nat :=
  (Scan.ofNode kind none node parts).filterMap listing.line?

/-- The lines of all entries for a tree. -/
def linesIn (tree : Tree Token) : List Nat :=
  (Scan.findings kind none tree).filterMap listing.line?

theorem lines_scan (tree : Tree Token) :
    listing.lines (kind.scan tree) = listing.linesIn kind tree := by
  cases listing
  all_goals
    change List.map _ (List.filterMap _ _) = _
    rw [List.map_filterMap, linesIn]
    refine List.filterMap_congr fun finding _ => ?_
    cases finding <;> rfl

theorem filterMap_ignoredAs (item : String) (reason : IgnoreReason)
    (attributes : List (Tree Token)) :
    (Scan.ignoredAs kind item reason attributes).filterMap ignored.line? =
      (attributes.filter kind.isNamedBy).map Scan.attributeLine := by
  rw [Scan.ignoredAs, List.filterMap_map, ← List.filterMap_eq_map]
  rfl

/-- A declaration is in the list of tagged ones if it is tagged. -/
theorem filterMap_ofDeclaration_tagged (owner : Owner) (declaration : Declaration) :
    (Scan.ofDeclaration kind owner declaration).filterMap tagged.line? =
      if declaration.isTagged kind then [declaration.line] else [] := by
  dsimp only [Scan.ofDeclaration]
  rw [List.filterMap_append, Scan.filterMap_ignoredAs kind _ _ _ _ fun _ => rfl]
  cases declaration.isTagged kind <;> cases declaration.isMarked kind <;> rfl

/-- A declaration has an entry for each malformed marker, and one for itself if it cannot be
tagged. -/
theorem filterMap_ofDeclaration_ignored (owner : Owner) (declaration : Declaration) :
    (Scan.ofDeclaration kind owner declaration).filterMap ignored.line? =
      ((declaration.attributes.filter fun candidate => !kind.isMarker candidate).filter
          kind.isNamedBy).map Scan.attributeLine ++
        if declaration.isMarked kind && !declaration.isTagged kind then [declaration.line]
        else [] := by
  dsimp only [Scan.ofDeclaration]
  rw [List.filterMap_append, filterMap_ignoredAs]
  cases declaration.isTagged kind <;> cases declaration.isMarked kind <;> rfl

/-- The owner shows in the names of entries only. -/
theorem filterMap_ofNode (owner : Owner) (node : Kind) (parts : List (Tree Token)) :
    (Scan.ofNode kind owner node parts).filterMap listing.line? =
      listing.ownLines kind node parts := by
  unfold ownLines Scan.ofNode
  cases Declaration.ofParts? node parts with
  | none => rfl
  | some declaration =>
      dsimp only
      cases listing with
      | tagged => rw [filterMap_ofDeclaration_tagged, filterMap_ofDeclaration_tagged]
      | ignored => rw [filterMap_ofDeclaration_ignored, filterMap_ofDeclaration_ignored]

theorem filterMap_findings (owner : Owner) (tree : Tree Token) :
    (Scan.findings kind owner tree).filterMap listing.line? = listing.linesIn kind tree := by
  unfold linesIn
  rw [Scan.findings_eq_collect, Scan.findings_eq_collect, filterMap_collect, filterMap_collect]
  simp only [filterMap_ofNode]
  generalize (none : Owner) = other
  induction tree using Tree.induction generalizing owner other with
  | leaf token => rfl
  | node node parts inductionHypothesis =>
      rw [collect_node, collect_node]
      exact congrArg _ (List.flatMap_congr fun part member => inductionHypothesis part member _ _)

theorem linesIn_node (node : Kind) (parts : List (Tree Token)) :
    listing.linesIn kind (.node node parts) =
      listing.ownLines kind node parts ++ parts.flatMap (listing.linesIn kind) := by
  rw [linesIn, Scan.findings, Scan.findingsOfParts_eq_flatMap, List.filterMap_append,
    List.filterMap_flatMap, filterMap_ofNode]
  exact congrArg _ (List.flatMap_congr fun part _ => filterMap_findings listing kind _ part)

end Listing

/-! ## Where a scan leaves the order of the source -/

/-- The attributes inside its body that a node with the given parts reports on. -/
def Kind.bodyAttributes (node : Kind) (parts : List (Tree Token)) : List (Tree Token) :=
  if (Callable.ofKind? node).isSome || node.attributeParts == 2 then
    (parts.getD 1 .absent).elements
  else []

/-- The ways in which entries of a list can stand in another order than what they are about. -/
inductive Displaces (kind : MarkerKind) : Listing → Kind → List (Tree Token) → Prop
  /-- An entry is about something in a part that is visited elsewhere than it stands, such as a
  `where` clause. -/
  | detached {listing : Listing} {node : Kind} {parts : List (Tree Token)} {part : Tree Token}
      (member : part ∈ node.detached parts) (listed : listing.linesIn kind part ≠ []) :
      Displaces kind listing node parts
  /-- Behind the entry for a node itself, one is about something inside its attributes. -/
  | attribute {listing : Listing} {node : Kind} {outer : Tree Token} {rest : List (Tree Token)}
      (own : listing.ownLines kind node (outer :: rest) ≠ [])
      (listed : listing.linesIn kind outer ≠ []) :
      Displaces kind listing node (outer :: rest)
  /-- Behind the entry for an attribute inside a body, one is about something in front of the
  body. -/
  | body {node : Kind} {parts : List (Tree Token)} {part : Tree Token}
      (malformed : (node.bodyAttributes parts).any kind.isNamedBy = true)
      (member : part ∈ parts.dropLast) (listed : Listing.ignored.linesIn kind part ≠ []) :
      Displaces kind .ignored node parts
  /-- Behind the entry for an attribute inside a body, one is about the function itself. -/
  | constFn {node : Kind} {parts : List (Tree Token)} {declaration : Declaration}
      (declares : Declaration.ofParts? node parts = some declaration)
      (malformed : declaration.inner.elements.any kind.isNamedBy = true)
      (isMarked : declaration.isMarked kind = true) (isConst : declaration.isConst = true) :
      Displaces kind .ignored node parts

namespace Displaces

variable {kind : MarkerKind} {listing : Listing} {node : Kind} {parts : List (Tree Token)}

/-- An entry is displaced, as a condition that can be evaluated. -/
def test (kind : MarkerKind) (listing : Listing) (node : Kind) (parts : List (Tree Token)) : Bool :=
  (node.detached parts).any (fun part => listing.linesIn kind part != []) ||
  (listing.ownLines kind node parts != [] &&
    parts.head?.any fun outer => listing.linesIn kind outer != []) ||
  (listing == .ignored && (node.bodyAttributes parts).any kind.isNamedBy &&
    parts.dropLast.any fun part => Listing.ignored.linesIn kind part != []) ||
  (listing == .ignored && (Declaration.ofParts? node parts).any fun declaration =>
    declaration.inner.elements.any kind.isNamedBy && declaration.isMarked kind &&
      declaration.isConst)

theorem iff_test : Displaces kind listing node parts ↔ test kind listing node parts = true := by
  simp only [test, Bool.or_eq_true, Bool.and_eq_true, List.any_eq_true, Option.any_eq_true,
    bne_iff_ne, beq_iff_eq]
  constructor
  · rintro (⟨member, listed⟩ | ⟨own, listed⟩ | ⟨malformed, member, listed⟩ |
      ⟨declares, malformed, isMarked, isConst⟩)
    · exact .inl (.inl (.inl ⟨_, member, listed⟩))
    · exact .inl (.inl (.inr ⟨own, _, rfl, listed⟩))
    · exact .inl (.inr ⟨⟨rfl, List.any_eq_true.mp malformed⟩, _, member, listed⟩)
    · exact .inr ⟨rfl, _, declares, ⟨List.any_eq_true.mp malformed, isMarked⟩, isConst⟩
  · rintro (((⟨part, member, listed⟩ | ⟨own, outer, head, listed⟩) |
      ⟨⟨rfl, malformed⟩, part, member, listed⟩) |
      ⟨rfl, declaration, declares, ⟨malformed, isMarked⟩, isConst⟩)
    · exact .detached member listed
    · cases parts with
      | nil => cases head
      | cons first rest =>
          cases head
          exact .attribute own listed
    · exact .body (List.any_eq_true.mpr malformed) member listed
    · exact .constFn declares (List.any_eq_true.mpr malformed) isMarked isConst

instance : Decidable (Displaces kind listing node parts) :=
  decidable_of_iff _ iff_test.symm

end Displaces

/-! ## Entries and landmarks -/

namespace Tree

variable {α : Type}

/-- The landmarks of the elements of a sequence are landmarks of the sequence. -/
theorem landmarks_elements (tree : Tree α) :
    (tree.elements.flatMap landmarks).Sublist tree.landmarks := by
  unfold elements
  split
  next parts =>
      cases parts with
      | nil => exact List.nil_sublist _
      | cons first rest =>
          rw [landmarks_node rfl]
          have all : (if Kind.sequence.isOperator then [] else first.landmarks) ++
              ownLandmark .sequence (first :: rest) ++ rest.flatMap landmarks =
                (first :: rest).flatMap landmarks := by
            rw [List.flatMap_cons]
            exact congrArg (· ++ _) (List.append_nil _)
          rw [all]
          exact List.filter_sublist.flatMap _
  next => exact List.nil_sublist _

end Tree

namespace MarkerKind

variable (kind : MarkerKind)

/-- An attribute is spelled by what it starts with, which is a landmark. -/
theorem sublist_attributeLine {candidate : Tree Token} (named : kind.isNamedBy candidate = true) :
    [Scan.attributeLine candidate].Sublist (candidate.landmarks.map Tree.line) := by
  unfold isNamedBy attributePath? at named
  split at named
  next path found =>
      have first {node : Kind} (hash : Tree Token) (rest : List (Tree Token))
          (noLifetime : node.isLifetime = false)
          (own : Tree.ownLandmark node (hash :: rest) = [hash]) :
          [Scan.attributeLine (.node node (hash :: rest))].Sublist
            ((Tree.node node (hash :: rest)).landmarks.map Tree.line) := by
        rw [Tree.landmarks_node noLifetime, own, List.map_append, List.map_append]
        exact (List.sublist_append_right _ _).trans (List.sublist_append_left _ _)
      split at found
      next => exact first _ _ rfl rfl
      next => exact first _ _ rfl rfl
      next => cases found
  next => cases named

/-- The entries for attributes follow the landmarks of the sequence that the attributes are in. -/
theorem sublist_attributeLines (select : Tree Token → Bool) (attributes : Tree Token) :
    (((attributes.elements.filter select).filter kind.isNamedBy).map Scan.attributeLine).Sublist
      (attributes.landmarks.map Tree.line) := by
  refine List.Sublist.trans ?_ ((Tree.landmarks_elements attributes).map Tree.line)
  generalize attributes.elements = elements
  induction elements with
  | nil => exact List.nil_sublist _
  | cons candidate rest inductionHypothesis =>
      rw [List.flatMap_cons, List.map_append, List.filter_cons]
      split
      next =>
          rw [List.filter_cons]
          split
          next named => exact (kind.sublist_attributeLine named).append inductionHypothesis
          next => exact inductionHypothesis.trans (List.sublist_append_right _ _)
      next => exact inductionHypothesis.trans (List.sublist_append_right _ _)

end MarkerKind

namespace Kind

/-- Parts that list nothing where they are visited list nothing where they stand. -/
theorem flatMap_restInSource {β γ : Type} (node : Kind) (list : β → List γ) (first : β)
    (rest : List β) (nothing : ∀ part ∈ node.detached (first :: rest), list part = []) :
    (node.restInSource rest).flatMap list = rest.flatMap list := by
  -- Most kinds leave the parts where they are; for the others their number decides, and what is
  -- left are those with one part that is moved or with two.
  cases node <;> try rfl
  all_goals
    rcases rest with _ | ⟨_, _ | ⟨_, _ | ⟨_, _ | ⟨_, _ | ⟨_, _ | ⟨_, _ | ⟨_, _ | ⟨_, _ | ⟨_,
      _ | ⟨_, _ | ⟨_, _ | ⟨_, _⟩⟩⟩⟩⟩⟩⟩⟩⟩⟩⟩⟩ <;> try rfl
  all_goals
    have moved := nothing _ (.head _)
    simp only [List.flatMap_cons, moved, List.nil_append]
  all_goals
    have constrained := nothing _ (.tail _ (.head _))
    simp only [constrained, List.nil_append]

/-- Parts are arranged without looking at them, so none is added. -/
theorem mem_of_mem_restInSource {β : Type} {node : Kind} {rest : List β} {part : β}
    (member : part ∈ node.restInSource rest) : part ∈ rest := by
  have same := restInSource_map Subtype.val node rest.attach
  rw [List.attach_map_subtype_val] at same
  rw [same] at member
  obtain ⟨⟨part, inside⟩, _, rfl⟩ := List.mem_map.mp member
  exact inside

end Kind

namespace Listing

variable {listing : Listing} {kind : MarkerKind} {node : Kind} {first : Tree Token}
  {rest : List (Tree Token)}

/-- Lifetimes and operators have no entries for themselves. -/
theorem ownLines_eq_nil (special : node.isLifetime = true ∨ node.isOperator = true)
    (parts : List (Tree Token)) : listing.ownLines kind node parts = [] := by
  rcases special with lifetime | operator
  · cases node <;> first | rfl | cases lifetime
  · cases node <;> first | rfl | cases operator

theorem ownLines_nil : listing.ownLines kind node [] = [] := by
  cases node <;> rfl

/-- Entries for parts follow the landmarks of the parts in the order of the source. -/
theorem sublist_rest (inOrder : ¬ Displaces kind listing node (first :: rest))
    (behind : ∀ part ∈ rest, (listing.linesIn kind part).Sublist (part.landmarks.map Tree.line)) :
    (rest.flatMap (listing.linesIn kind)).Sublist
      (((node.restInSource rest).flatMap Tree.landmarks).map Tree.line) := by
  have nothing (part : Tree Token) (member : part ∈ node.detached (first :: rest)) :
      listing.linesIn kind part = [] :=
    not_not.mp fun listed => inOrder (.detached member listed)
  rw [← node.flatMap_restInSource _ first rest nothing, List.map_flatMap]
  have all : ∀ part ∈ node.restInSource rest,
      (listing.linesIn kind part).Sublist (part.landmarks.map Tree.line) :=
    fun part member => behind part (Kind.mem_of_mem_restInSource member)
  generalize node.restInSource rest = parts at all
  induction parts with
  | nil => exact List.nil_sublist _
  | cons part others inductionHypothesis =>
      rw [List.flatMap_cons, List.flatMap_cons]
      exact (all part (.head _)).append
        (inductionHypothesis fun other member => all other (.tail _ member))

/-- A node that has no entry for itself. -/
theorem sublist_of_quiet (quiet : listing.ownLines kind node (first :: rest) = [])
    (inOrder : ¬ Displaces kind listing node (first :: rest))
    (behind : ∀ part ∈ first :: rest,
      (listing.linesIn kind part).Sublist (part.landmarks.map Tree.line)) :
    (listing.linesIn kind (.node node (first :: rest))).Sublist
      ((Tree.node node (first :: rest)).landmarks.map Tree.line) := by
  rw [linesIn_node, quiet, List.nil_append, List.flatMap_cons]
  cases lifetime : node.isLifetime with
  | true =>
      have nothing (part : Tree Token) (member : part ∈ first :: rest) :
          listing.linesIn kind part = [] := by
        refine not_not.mp fun listed => inOrder (.detached ?_ listed)
        cases node <;> first | exact member | cases lifetime
      rw [← List.flatMap_cons, List.flatMap_eq_nil_iff.mpr nothing]
      exact List.nil_sublist _
  | false =>
      have front : (listing.linesIn kind first).Sublist
          ((if node.isOperator then [] else first.landmarks).map Tree.line) := by
        split
        next operator =>
            have nothing : listing.linesIn kind first = [] := by
              refine not_not.mp fun listed => inOrder (.detached ?_ listed)
              cases node <;> first | exact .head _ | cases operator
            rw [nothing]
            exact List.nil_sublist _
        next => exact behind first (.head _)
      rw [Tree.landmarks_node lifetime, List.map_append, List.map_append]
      exact (front.trans (List.sublist_append_left _ _)).append
        (sublist_rest inOrder fun part member => behind part (.tail _ member))

/-- The entries of a node for itself, by where they stand in the source: those for attributes in
front, those for attributes inside its body, and the one for the node. -/
structure OwnEntries (listing : Listing) (kind : MarkerKind) (node : Kind) (first : Tree Token)
    (rest : List (Tree Token)) where
  outer : List Nat
  inner : List Nat
  key : List Nat
  all : listing.ownLines kind node (first :: rest) = outer ++ inner ++ key
  outerInside : outer.Sublist (first.landmarks.map Tree.line)
  keyInside : key.Sublist ((Tree.ownLandmark node (first :: rest)).map Tree.line)
  /-- Attributes inside the body are listed with nothing else but what is in the body. -/
  innerInside : inner = [] ∨ key = [] ∧ ∃ front attributes body,
    node.restInSource rest = front ++ [attributes, body] ∧
      inner.Sublist (attributes.landmarks.map Tree.line) ∧
      rest.flatMap (listing.linesIn kind) = listing.linesIn kind body

theorem sublist_of_ownEntries (own : OwnEntries listing kind node first rest)
    (inOrder : ¬ Displaces kind listing node (first :: rest))
    (behind : ∀ part ∈ first :: rest,
      (listing.linesIn kind part).Sublist (part.landmarks.map Tree.line)) :
    (listing.linesIn kind (.node node (first :: rest))).Sublist
      ((Tree.node node (first :: rest)).landmarks.map Tree.line) := by
  by_cases quiet : listing.ownLines kind node (first :: rest) = []
  · exact sublist_of_quiet quiet inOrder behind
  · have noLifetime : node.isLifetime = false :=
      Bool.eq_false_iff.mpr fun lifetime => quiet (ownLines_eq_nil (.inl lifetime) _)
    have noOperator : node.isOperator = false :=
      Bool.eq_false_iff.mpr fun operator => quiet (ownLines_eq_nil (.inr operator) _)
    have nothing : listing.linesIn kind first = [] :=
      not_not.mp fun listed => inOrder (.attribute quiet listed)
    rw [linesIn_node, List.flatMap_cons, nothing, List.nil_append, own.all,
      Tree.landmarks_node noLifetime, noOperator, if_neg Bool.false_ne_true, List.map_append,
      List.map_append]
    rcases own.innerInside with none | ⟨noKey, front, attributes, body, last, inside, only⟩
    · rw [none, List.append_nil]
      exact (own.outerInside.append own.keyInside).append
        (sublist_rest inOrder fun part member => behind part (.tail _ member))
    · have member : body ∈ first :: rest := by
        refine .tail _ (Kind.mem_of_mem_restInSource (?_ : body ∈ node.restInSource rest))
        rw [last]
        simp
      rw [noKey, List.append_nil, only, last, List.flatMap_append, List.map_append,
        List.append_assoc]
      refine (own.outerInside.trans (List.sublist_append_left _ _)).append ?_
      refine List.Sublist.trans ?_ (List.sublist_append_right _ _)
      simpa using inside.append (behind body member)

/-- The lines of those among some attributes that are selected and spelled like the marker. -/
def attributeLines (kind : MarkerKind) (select : Tree Token → Bool)
    (attributes : List (Tree Token)) : List Nat :=
  ((attributes.filter select).filter kind.isNamedBy).map Scan.attributeLine

theorem attributeLines_append (kind : MarkerKind) (select : Tree Token → Bool)
    (outer inner : List (Tree Token)) :
    attributeLines kind select (outer ++ inner) =
      attributeLines kind select outer ++ attributeLines kind select inner := by
  rw [attributeLines, List.filter_append, List.filter_append, List.map_append]
  rfl

theorem attributeLines_eq_nil {select : Tree Token → Bool} {attributes : List (Tree Token)}
    (none : attributes.any kind.isNamedBy = false) :
    attributeLines kind select attributes = [] := by
  rw [attributeLines, List.map_eq_nil_iff, List.filter_eq_nil_iff]
  intro candidate member
  exact List.any_eq_false.mp none candidate (List.mem_filter.mp member).1

/-- The entries of a node with a body that has attributes inside it. -/
theorem exists_ownEntries_of_body {select : Tree Token → Bool} {key : List Nat}
    {attributes body : Tree Token} {middle front : List (Tree Token)}
    (own : ignored.ownLines kind node (first :: rest) =
      attributeLines kind select (first.elements ++ attributes.elements) ++ key)
    (keyInside : key.Sublist ((Tree.ownLandmark node (first :: rest)).map Tree.line))
    (alone : attributes.elements.any kind.isNamedBy = true → key = [])
    (parts : rest = attributes :: middle ++ [body])
    (inSource : node.restInSource rest = front ++ [attributes, body])
    (isBody : node.bodyAttributes (first :: rest) = attributes.elements)
    (inOrder : ¬ Displaces kind .ignored node (first :: rest)) :
    Nonempty (OwnEntries .ignored kind node first rest) := by
  rw [attributeLines_append] at own
  refine ⟨⟨_, _, key, own, kind.sublist_attributeLines select first, keyInside, ?_⟩⟩
  cases malformed : attributes.elements.any kind.isNamedBy with
  | false => exact .inl (attributeLines_eq_nil malformed)
  | true =>
      refine .inr ⟨alone malformed, front, attributes, body, inSource,
        kind.sublist_attributeLines select attributes, ?_⟩
      have nothing (part : Tree Token) (member : part ∈ attributes :: middle) :
          ignored.linesIn kind part = [] := by
        refine not_not.mp fun listed => inOrder (.body (isBody.symm ▸ malformed) ?_ listed)
        rw [parts, ← List.cons_append, List.dropLast_concat]
        exact .tail _ member
      rw [parts, List.flatMap_append, List.flatMap_eq_nil_iff.mpr nothing, List.nil_append,
        List.flatMap_singleton]

/-- A declaration is listed by its keyword. -/
theorem line_eq_keyword (declaration : Declaration) :
    declaration.line = declaration.signature.keyword.line := by
  rcases declaration with ⟨callable, outer, inner, declared, body⟩
  cases declared with
  | leaf token => rfl
  | node other parts => cases other <;> rfl

/-- The entry of a function for itself, if it has one, is that of its landmark. -/
theorem sublist_keyLine {declaration : Declaration}
    (declares : Declaration.ofParts? node (first :: rest) = some declaration) (listed : Bool) :
    (if listed then [declaration.line] else []).Sublist
      ((Tree.ownLandmark node (first :: rest)).map Tree.line) := by
  have own : (Tree.ownLandmark node (first :: rest)).map Tree.line = [declaration.line] := by
    rcases declaration.exists_of_ofParts? declares with ⟨_, _, isCallable, parts⟩
    rw [line_eq_keyword, parts]
    cases node <;> first | rfl | cases isCallable
  rw [own]
  cases listed
  · exact List.nil_sublist _
  · exact List.Sublist.refl _

/-- The attributes inside the body of a function stand in front of the body. -/
theorem restInSource_of_callable {callable : Callable}
    (isCallable : Callable.ofKind? node = some callable)
    (inner visible mode declared body : Tree Token) :
    node.restInSource [inner, visible, mode, declared, body] =
      [visible, mode, declared] ++ [inner, body] := by
  cases node <;> first | rfl | cases isCallable

theorem exists_ownEntries_of_declaration {declaration : Declaration}
    (declares : Declaration.ofParts? node (first :: rest) = some declaration)
    (inOrder : ¬ Displaces kind listing node (first :: rest)) :
    Nonempty (OwnEntries listing kind node first rest) := by
  cases listing with
  | tagged =>
      refine ⟨⟨[], [], _, ?_, List.nil_sublist _,
        sublist_keyLine declares (declaration.isTagged kind), .inl rfl⟩⟩
      rw [ownLines, Scan.ofNode, declares]
      exact filterMap_ofDeclaration_tagged kind none declaration
  | ignored =>
      have own : ignored.ownLines kind node (first :: rest) =
          attributeLines kind (fun candidate => !kind.isMarker candidate)
            (declaration.outer.elements ++ declaration.inner.elements) ++
              if declaration.isMarked kind && !declaration.isTagged kind then [declaration.line]
              else [] := by
        rw [ownLines, Scan.ofNode, declares]
        exact filterMap_ofDeclaration_ignored kind none _
      have keyInside := sublist_keyLine declares
        (declaration.isMarked kind && !declaration.isTagged kind)
      rcases declaration.exists_of_ofParts? declares with ⟨visible, mode, isCallable, parts⟩
      injection parts with outer behind
      subst outer behind
      have isBody : node.bodyAttributes (declaration.outer :: declaration.inner ::
          [visible, mode, declaration.signature, declaration.body]) =
            declaration.inner.elements := by
        rw [Kind.bodyAttributes, isCallable]
        rfl
      have behind : [declaration.inner, visible, mode, declaration.signature, declaration.body] =
          declaration.inner :: [visible, mode, declaration.signature] ++ [declaration.body] := rfl
      refine exists_ownEntries_of_body own keyInside ?_ behind
        (restInSource_of_callable isCallable _ _ _ _ _) isBody inOrder
      -- Markers inside the body and the entry of a function that cannot be tagged are not in order.
      intro malformed
      refine if_neg fun listed => inOrder (.constFn declares malformed ?_ ?_)
      · exact (Bool.and_eq_true_iff.mp listed).1
      · cases isConst : declaration.isConst with
        | true => rfl
        | false => simp [Declaration.isTagged, Declaration.acceptsMarker, isConst] at listed

/-- Where two parts of a node hold attributes, the second one is moved in front of the body. -/
theorem exists_body_of_attributeParts (several : 2 ≤ node.attributeParts)
    (complete : (Site.mk none node (first :: rest)).isComplete = true) :
    node.attributeParts = 2 ∧ ∃ attributes middle body front,
      rest = attributes :: middle ++ [body] ∧
        node.restInSource rest = front ++ [attributes, body] := by
  cases node <;> try exact absurd several (by decide)
  all_goals
    rcases rest with _ | ⟨_, _ | ⟨_, _ | ⟨_, _ | ⟨_, _ | ⟨_, _ | ⟨_, _ | ⟨_, _ | ⟨_, _ | ⟨_,
      _ | ⟨_, _ | ⟨_, _ | ⟨_, _⟩⟩⟩⟩⟩⟩⟩⟩⟩⟩⟩⟩ <;> try cases complete
  case foreignModule => exact ⟨rfl, _, [_, _], _, [_, _], rfl, rfl⟩
  case moduleItem => exact ⟨rfl, _, [_, _, _, _], _, [_, _, _, _], rfl, rfl⟩
  case implItem => exact ⟨rfl, _, [_, _, _, _, _, _, _], _, [_, _, _, _, _, _], rfl, rfl⟩
  case traitItem =>
    exact ⟨rfl, _, [_, _, _, _, _, _, _, _, _], _, [_, _, _, _, _, _, _, _], rfl, rfl⟩

theorem exists_ownEntries_of_bystander
    (none : Declaration.ofParts? node (first :: rest) = none)
    (inOrder : ¬ Displaces kind listing node (first :: rest)) :
    Nonempty (OwnEntries listing kind node first rest) := by
  let site : Site := ⟨Option.none, node, first :: rest⟩
  cases listing with
  | tagged =>
      refine ⟨⟨[], [], [], ?_, List.nil_sublist _, List.nil_sublist _, .inl rfl⟩⟩
      rw [ownLines, Scan.ofNode, none]
      cases Scan.bystander? node (first :: rest) with
      | none => rfl
      | some bystander => exact Scan.filterMap_ignoredAs kind _ _ _ _ fun _ => rfl
  | ignored =>
      have own : ignored.ownLines kind node (first :: rest) =
          attributeLines kind (fun _ => true) site.attributes := by
        rw [← site.bystander?_eq, ownLines, Scan.ofNode, none, attributeLines, List.filter_true]
        dsimp only [site]
        cases Scan.bystander? node (first :: rest) with
        | none => rfl
        | some bystander => exact filterMap_ignoredAs kind _ _ _
      have front (within : site.attributes = [] ∨ site.attributes = first.elements) :
          Nonempty (OwnEntries ignored kind node first rest) := by
        refine ⟨⟨_, [], [], by rw [own, List.append_nil, List.append_nil], ?_, List.nil_sublist _,
          .inl rfl⟩⟩
        rcases within with same | same <;> rw [same]
        · exact List.nil_sublist _
        · exact kind.sublist_attributeLines _ first
      rw [Site.attributes] at own front
      cases complete : site.isComplete with
      | false => exact front (.inl (if_neg (complete ▸ Bool.false_ne_true)))
      | true =>
          rw [complete, if_pos rfl] at own front
          rcases several : node.attributeParts with _ | _ | more
          · exact front (.inl (by rw [several]; rfl))
          · exact front (.inr (by rw [several]; exact List.append_nil _))
          · rcases exists_body_of_attributeParts (several ▸ Nat.le_add_left 2 more) complete with
              ⟨two, attributes, middle, body, front, rfl, inSource⟩
            have both : (site.parts.take site.kind.attributeParts).flatMap Tree.elements =
                first.elements ++ attributes.elements := by
              dsimp only [site]
              rw [two]
              exact congrArg (first.elements ++ ·) (List.append_nil _)
            rw [both, ← List.append_nil (attributeLines _ _ _)] at own
            refine exists_ownEntries_of_body own (List.nil_sublist _) (fun _ => rfl) rfl inSource
              ?_ inOrder
            rw [Kind.bodyAttributes, two]
            exact if_pos (Bool.or_true _)

theorem exists_ownEntries (inOrder : ¬ Displaces kind listing node (first :: rest)) :
    Nonempty (OwnEntries listing kind node first rest) := by
  cases declares : Declaration.ofParts? node (first :: rest) with
  | none => exact exists_ownEntries_of_bystander declares inOrder
  | some declaration => exact exists_ownEntries_of_declaration declares inOrder

/-- Without displaced entries the lines of a list are among those of the landmarks of a tree, in
the order of the source. -/
theorem sublist_linesIn {owner : Owner} {tree : Tree Token}
    (inOrder : ∀ site ∈ sites owner tree, ¬ Displaces kind listing site.kind site.parts) :
    (listing.linesIn kind tree).Sublist (tree.landmarks.map Tree.line) := by
  induction tree using Tree.induction generalizing owner with
  | leaf token => exact List.Sublist.refl _
  | node node parts inductionHypothesis =>
      rw [sites, collect_node, List.singleton_append, List.forall_mem_cons] at inOrder
      have behind (part : Tree Token) (member : part ∈ parts) :
          (listing.linesIn kind part).Sublist (part.landmarks.map Tree.line) :=
        inductionHypothesis part member fun site inside =>
          inOrder.2 site (List.mem_flatMap.mpr ⟨part, member, inside⟩)
      cases parts with
      | nil =>
          rw [linesIn_node, ownLines_nil]
          exact List.nil_sublist _
      | cons first rest =>
          rcases exists_ownEntries inOrder.1 with ⟨own⟩
          exact sublist_of_ownEntries own inOrder.1 behind

end Listing

/-- The lines of the entries in a list of a scan never decrease, unless an entry is displaced in one
of the four ways at some node of the file. -/
theorem SourceFile.pairwise_lines_scan {text : String} {file : SourceFile}
    (parsed : SourceFile.parse text = .ok file) (kind : MarkerKind) (listing : Listing)
    (inOrder : ∀ site ∈ sites none file.tree, ¬ Displaces kind listing site.kind site.parts) :
    (listing.lines (kind.scan file.tree)).Pairwise (· ≤ ·) := by
  rw [listing.lines_scan]
  exact (lines_landmarks parsed).sublist (Listing.sublist_linesIn inOrder)

/-- A marker on a `struct`, and two on a function that is evaluated while the program is compiled,
the first of which has arguments. -/
theorem SourceFile.pairwise_lines_scan_constFn :
    let text := "#[method_logger]\nstruct S;\n" ++
      "#[method_logger(x)]\n#[method_logger]\nconst fn f() \x7b\x7d\n"
    ∃ file, SourceFile.parse text = .ok file ∧
      (∀ site ∈ sites none file.tree,
        ¬ Displaces .methodLogger .ignored site.kind site.parts) ∧
      Listing.ignored.lines (MarkerKind.methodLogger.scan file.tree) = [1, 3, 5] ∧
      (Listing.ignored.lines (MarkerKind.methodLogger.scan file.tree)).Pairwise (· ≤ ·) := by
  intro text
  have inPlace : (SourceFile.parse text).toOption.any (fun file : SourceFile =>
      decide (∀ site ∈ sites none file.tree,
        ¬ Displaces .methodLogger .ignored site.kind site.parts) &&
      decide (Listing.ignored.lines (MarkerKind.methodLogger.scan file.tree) = [1, 3, 5])) =
        true := by
    decide +kernel
  obtain ⟨file, parsed, inPlace⟩ := exists_ok_of_any inPlace
  obtain ⟨inPlace, listed⟩ := Bool.and_eq_true_iff.mp inPlace
  have inPlace := of_decide_eq_true inPlace
  exact ⟨file, parsed, inPlace, of_decide_eq_true listed,
    pairwise_lines_scan parsed .methodLogger .ignored inPlace⟩

/-- A marker inside the body of a function that is evaluated while the program is compiled is listed
in front of the function, and a function in a `where` clause in front of one in a parameter. -/
theorem SourceFile.not_pairwise_lines_scan :
    let constFn := "#[method_logger]\nconst fn f() \x7b\n    #![method_logger]\n\x7d\n"
    let constrained := "fn f(_: [u8; \x7b\n#[method_logger]\nfn g() \x7b\x7d 0 \x7d])\n" ++
      "where [u8; \x7b\n#[method_logger]\nfn h() \x7b\x7d 0 \x7d]: Sized \x7b\x7d\n"
    (∃ file, SourceFile.parse constFn = .ok file ∧
      Listing.ignored.lines (MarkerKind.methodLogger.scan file.tree) = [3, 2] ∧
        ¬ (Listing.ignored.lines (MarkerKind.methodLogger.scan file.tree)).Pairwise (· ≤ ·)) ∧
    ∃ file, SourceFile.parse constrained = .ok file ∧
      Listing.tagged.lines (MarkerKind.methodLogger.scan file.tree) = [6, 3] ∧
        ¬ (Listing.tagged.lines (MarkerKind.methodLogger.scan file.tree)).Pairwise (· ≤ ·) := by
  intro constFn constrained
  have early : (SourceFile.parse constFn).toOption.any (fun file =>
      decide (Listing.ignored.lines (MarkerKind.methodLogger.scan file.tree) = [3, 2])) = true := by
    decide +kernel
  have apart : (SourceFile.parse constrained).toOption.any (fun file =>
      decide (Listing.tagged.lines (MarkerKind.methodLogger.scan file.tree) = [6, 3])) = true := by
    decide +kernel
  obtain ⟨file, parsed, early⟩ := exists_ok_of_any early
  obtain ⟨file', parsed', apart⟩ := exists_ok_of_any apart
  have early := of_decide_eq_true early
  have apart := of_decide_eq_true apart
  refine ⟨⟨file, parsed, early, ?_⟩, file', parsed', apart, ?_⟩
  · rw [early]
    decide
  · rw [apart]
    decide

end Instrument
