import Instrument.Proofs.Traversal
import Mathlib.Data.List.Perm.Basic
import Mathlib.Data.List.Perm.Lattice

/-!
# What a scan reports, attachment by attachment

A scan walks a tree once and puts down what it finds in the order in which it meets it.  Here its
two lists are counted the other way round, one sort of attachment at a time: the functions that are
tagged, the functions that cannot be, the markers on functions that are spelled wrongly, and the
markers on everything else.  Each of these is a plain selection from the nodes of the tree, so the
scan leaves no node out, visits none twice and gives no attachment two reasons.

Which nodes can carry a marker without being a function is set down here by a table of kinds: how
many parts such a node has, and which of them hold its attributes.  A construct that is kept as
verbatim tokens has no attributes in the tree, hence no row.
-/

namespace Instrument

/-- A node of a tree, together with the owner it stands in. -/
structure Site where
  owner : Owner
  kind : Kind
  parts : List (Tree Token)

/-- Every node of a tree once, in visiting order. -/
def sites (owner : Owner) (tree : Tree Token) : List Site :=
  collect (fun owner kind parts => [⟨owner, kind, parts⟩]) owner tree

/-- A report is made node by node. -/
theorem collect_eq_flatMap_sites {β : Type} (report : NodeReport β) (owner : Owner)
    (tree : Tree Token) :
    collect report owner tree =
      (sites owner tree).flatMap fun site => report site.owner site.kind site.parts := by
  induction tree using Tree.induction generalizing owner with
  | leaf token => rfl
  | node kind parts inductionHypothesis =>
      rw [sites, collect_node, collect_node, List.flatMap_append, List.flatMap_singleton,
        List.flatMap_assoc]
      congr 1
      exact List.flatMap_congr fun part member => inductionHypothesis part member _

/-! ## The table of bystanders -/

namespace Kind

/-- How many of the first parts of a node hold the attributes of something that is not a function:
two where inner attributes are allowed as well, and none for what carries no attributes or is a
function. -/
def attributeParts : Kind → Nat
  -- items
  | .foreignModule | .implItem | .moduleItem | .traitItem => 2
  | .constItem | .enumItem | .externCrateItem | .macroItem | .staticItem | .structItem
  | .tupleStructItem | .traitAliasItem | .typeItem | .unionItem | .useItem => 1
  -- members of `impl`, `trait` and `extern` blocks
  | .implConst | .implTypeMember | .traitConst | .traitTypeMember | .foreignStatic | .foreignType
  | .macroMember => 1
  -- bindings, closures, fields and variants
  | .letStatement | .closure | .field | .variant => 1
  | _ => 0

/-- The number of parts of the nodes that a report calls by a name, which is one of the parts. -/
def partCount? : Kind → Option Nat
  | .foreignModule | .field | .variant => some 5
  | .moduleItem | .unionItem | .foreignType => some 7
  | .externCrateItem | .structItem | .tupleStructItem | .traitConst | .foreignStatic => some 8
  | .constItem | .enumItem | .traitAliasItem | .typeItem => some 9
  | .implItem | .staticItem | .implConst | .implTypeMember | .traitTypeMember => some 10
  | .traitItem => some 12
  | _ => none

/-- The table has no row for functions. -/
theorem attributeParts_of_callable {kind : Kind} {callable : Callable}
    (isCallable : Callable.ofKind? kind = some callable) : kind.attributeParts = 0 := by
  cases kind <;> first | rfl | cases isCallable

end Kind

namespace Site

variable (site : Site)

/-- The node has the parts that the comment of its kind lists. -/
def isComplete : Bool :=
  site.kind.partCount?.all fun count => site.parts.length == count

/-- The attributes, outer and inner, of a node that is not a function. -/
def attributes : List (Tree Token) :=
  if site.isComplete then
    (site.parts.take site.kind.attributeParts).flatMap Tree.elements
  else []

/-- What reports call a node that is not a function. -/
def label : String :=
  ((Scan.bystander? site.kind site.parts).map Scan.Bystander.label).getD ""

/-- The table has exactly what a scan looks at, attribute for attribute. -/
theorem bystander?_eq :
    ((Scan.bystander? site.kind site.parts).map Scan.Bystander.attributes).getD [] =
      site.attributes := by
  obtain ⟨owner, kind, parts⟩ := site
  -- A kind without a row is settled by itself; for the others the number of parts decides.  What
  -- is left are the attributes in one sequence, or in two, with nothing behind them.
  cases kind <;> try rfl
  all_goals
    rcases parts with _ | ⟨_, _ | ⟨_, _ | ⟨_, _ | ⟨_, _ | ⟨_, _ | ⟨_, _ | ⟨_, _ | ⟨_, _ | ⟨_,
      _ | ⟨_, _ | ⟨_, _ | ⟨_, _ | ⟨_, _⟩⟩⟩⟩⟩⟩⟩⟩⟩⟩⟩⟩⟩ <;>
    first
    | rfl
    | exact (List.append_nil _).symm
    | exact congrArg (Tree.elements _ ++ ·) (List.append_nil _).symm

/-- A function is not a bystander. -/
theorem attributes_of_declaration {declaration : Declaration}
    (declares : Declaration.ofParts? site.kind site.parts = some declaration) :
    site.attributes = [] := by
  rcases declaration.exists_of_ofParts? declares with ⟨_, _, isCallable, -⟩
  rw [attributes, Kind.attributeParts_of_callable isCallable]
  simp

end Site

/-! ## The entries of each sort -/

/-- A function that a tree declares, together with the owner it is reported with. -/
abbrev Found := Owner × Declaration

namespace Scan

variable (kind : MarkerKind)

/-- How a tagged function is listed. -/
def taggedEntry (found : Found) : TaggedDeclaration :=
  ⟨found.1.qualify found.2, found.2.line, found.2.hasBody⟩

/-- How a function is listed whose markers have no effect. -/
def constEntry (found : Found) : IgnoredMarker :=
  ⟨found.1.qualify found.2, found.2.line, .constFn⟩

/-- The entries of the attributes of a function that are spelled like the marker and have arguments
or stand inside the body. -/
def malformedEntries (found : Found) : List IgnoredMarker :=
  (found.2.attributes.filter fun candidate =>
      kind.isNamedBy candidate && !MarkerKind.isBare candidate).map fun candidate =>
    ⟨found.1.qualify found.2, attributeLine candidate, .malformed⟩

/-- The entries of the attributes of a bystander that are spelled like the marker. -/
def misplacedEntries (site : Site) : List IgnoredMarker :=
  (site.attributes.filter kind.isNamedBy).map fun candidate =>
    ⟨site.label, attributeLine candidate, .misplaced⟩

/-- The ignored marker that is found, if one is. -/
def ignored? : Finding → Option IgnoredMarker
  | .tagged _ => none
  | .ignored marker => some marker

theorem filterMap_ignored?_ignoredAs (item : String) (reason : IgnoreReason)
    (attributes : List (Tree Token)) :
    (ignoredAs kind item reason attributes).filterMap ignored? =
      (attributes.filter kind.isNamedBy).map fun candidate =>
        ⟨item, attributeLine candidate, reason⟩ := by
  rw [ignoredAs, List.filterMap_map, ← List.filterMap_eq_map]
  rfl

/-- What a function reports as ignored: its malformed markers, and itself if it is marked and cannot
be instrumented. -/
theorem filterMap_ignored?_ofDeclaration (owner : Owner) (declaration : Declaration) :
    (ofDeclaration kind owner declaration).filterMap ignored? =
      malformedEntries kind (owner, declaration) ++
        if declaration.isConst && declaration.isMarked kind then [constEntry (owner, declaration)]
        else [] := by
  have sameMalformed :
      ((declaration.attributes.filter fun candidate => !kind.isMarker candidate).filter
          kind.isNamedBy) =
        declaration.attributes.filter fun candidate =>
          kind.isNamedBy candidate && !MarkerKind.isBare candidate := by
    rw [List.filter_filter]
    refine List.filter_congr fun candidate _ => ?_
    rw [MarkerKind.isMarker]
    cases kind.isNamedBy candidate <;> simp
  dsimp only [ofDeclaration]
  rw [List.filterMap_append, filterMap_ignored?_ignoredAs, sameMalformed, malformedEntries]
  congr 1
  cases marked : declaration.isMarked kind <;> cases const : declaration.isConst <;>
    simp [Declaration.isTagged, Declaration.acceptsMarker, marked, const, ignored?, constEntry]

/-- What a node reports as ignored, sort by sort. -/
theorem filterMap_ignored?_ofNode (site : Site) :
    ((ofNode kind site.owner site.kind site.parts).filterMap ignored?).Perm
      (((declarationReport site.owner site.kind site.parts).filter fun found =>
          found.2.isConst && found.2.isMarked kind).map constEntry ++
        (declarationReport site.owner site.kind site.parts).flatMap (malformedEntries kind) ++
        misplacedEntries kind site) := by
  rw [ofNode, declarationReport]
  cases declares : Declaration.ofParts? site.kind site.parts with
  | some declaration =>
      have noBystander : misplacedEntries kind site = [] := by
        rw [misplacedEntries, site.attributes_of_declaration declares]
        rfl
      dsimp only
      rw [filterMap_ignored?_ofDeclaration, noBystander, List.append_nil]
      refine List.perm_append_comm.trans (List.Perm.of_eq ?_)
      cases marked : declaration.isConst && declaration.isMarked kind <;> simp [marked]
  | none =>
      have sameAttributes := site.bystander?_eq
      rw [misplacedEntries, ← sameAttributes, Site.label]
      cases bystander? site.kind site.parts with
      | none => rfl
      | some bystander =>
          dsimp only
          rw [filterMap_ignored?_ignoredAs]
          rfl

end Scan

/-- Every attachment of a marker is reported once and with its reason.  The tagged functions are
those that are not evaluated at compile time and carry a marker, however many.  What is ignored are
the functions that are evaluated at compile time and carry a marker, the malformed markers on
functions, and the markers of any form on everything else; nothing is reported besides. -/
theorem MarkerKind.scan_attachments (kind : MarkerKind) (tree : Tree Token) :
    (kind.scan tree).tagged =
        ((declared none tree).filter fun found =>
          !found.2.isConst && found.2.isMarked kind).map Scan.taggedEntry ∧
      (kind.scan tree).ignored.Perm
        (((declared none tree).filter fun found =>
            found.2.isConst && found.2.isMarked kind).map Scan.constEntry ++
          (declared none tree).flatMap (Scan.malformedEntries kind) ++
          (sites none tree).flatMap (Scan.misplacedEntries kind)) := by
  constructor
  · rw [Scan.tagged_eq_filterMap_declared, ← List.filterMap_eq_filter, List.map_filterMap]
    refine List.filterMap_congr fun found _ => ?_
    rw [Scan.taggedDeclaration?, Declaration.isTagged, Declaration.acceptsMarker]
    cases marked : !found.2.isConst && found.2.isMarked kind <;>
      simp [Option.guard, marked, Scan.taggedEntry]
  · have asSites : (kind.scan tree).ignored =
        (sites none tree).flatMap fun site =>
          (Scan.ofNode kind site.owner site.kind site.parts).filterMap Scan.ignored? := by
      change (Scan.findings kind none tree).filterMap Scan.ignored? = _
      rw [Scan.findings_eq_collect, filterMap_collect, collect_eq_flatMap_sites]
    rw [asSites, declared, collect_eq_flatMap_sites, List.filter_flatMap, List.map_flatMap,
      List.flatMap_assoc]
    refine (List.Perm.flatMap_left _ fun site _ =>
      Scan.filterMap_ignored?_ofNode kind site).trans ?_
    refine (List.flatMap_append_perm _ _ _).symm.trans ?_
    exact (List.flatMap_append_perm _ _ _).symm.append_right _

end Instrument
