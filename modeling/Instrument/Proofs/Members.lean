import Instrument.Proofs.Attachments
import Instrument.Proofs.Unmentioned

/-!
# Items and members with a marker in front of them

Whatever is written where items and members stand, a scan should have an entry for each marker in
front of it: the function is tagged or cannot be, the marker is malformed, or it is in the wrong
place.  This is so for everything that the parser gives a structure.  Of some forms it only keeps
the tokens, the attributes among them, and of these a scan reports nothing: a function that says
`safe` in an `extern` block is such a form, and so is a function without a body in an `impl` block.

Items and members are found here by where they stand and not by what they are, so that no form is
left out because it is not thought of.  What is not one of them is a statement that declares
nothing, or an arm of a `match`.
-/

namespace Instrument

namespace Grammar

open Instrument.Parser

/-- The attributes in front of something of which only the tokens are looked at. -/
def attributesAhead [Rules] : Parser Node := do
  let attributes ← outerAttributes
  let _ ← keepRest
  return .sequence attributes

end Grammar

namespace Site

/-- The node itself. -/
def tree (site : Site) : Tree Token :=
  .node site.kind site.parts

/-- The items and members among the occupants of a node. -/
def members (site : Site) : List Site :=
  (Tree.occupants site.kind site.parts).filterMap fun
    | .leaf _ => none
    | .node kind parts => if kind.isStatementOrArm then none else some ⟨site.owner, kind, parts⟩

/-- The outer attributes of an item or a member.  Where only the tokens are kept, they are read
again. -/
def outerAttributes (site : Site) : List (Tree Token) :=
  match site.kind, site.parts with
  | .verbatim, tokens =>
    match Grammar.parseTokens Grammar.attributesAhead (tokens.filterMap Tree.value?) with
    | .ok attributes => attributes.elements
    | .error _ => []
  | _, outer :: _ => outer.elements
  | _, [] => []

/-- What is listed because of an attribute of a node that is spelled like the marker. -/
def entry (site : Site) (candidate : Tree Token) : Finding :=
  match Declaration.ofParts? site.kind site.parts with
  | some declaration =>
    if !MarkerKind.isBare candidate then
      .ignored ⟨site.owner.qualify declaration, Scan.attributeLine candidate, .malformed⟩
    else if declaration.isConst then .ignored (Scan.constEntry (site.owner, declaration))
    else .tagged (Scan.taggedEntry (site.owner, declaration))
  | none => .ignored ⟨site.label, Scan.attributeLine candidate, .misplaced⟩

end Site

/-- The items of a tree and the members of its `impl`, trait and `extern` blocks, at any depth.
Tokens that are kept count as one item or member, whatever they spell. -/
def members (tree : Tree Token) : List Site :=
  (sites none tree).flatMap Site.members

/-- A finding is listed by a scan. -/
def Scan.Lists (scan : Scan) : Finding → Prop
  | .tagged declaration => declaration ∈ scan.tagged
  | .ignored marker => marker ∈ scan.ignored

/-! ## Where members stand -/

section Sites

variable {owner : Owner} {tree : Tree Token}

theorem sites_node (kind : Kind) (parts : List (Tree Token)) :
    sites owner (.node kind parts) =
      ⟨owner, kind, parts⟩ :: parts.flatMap (sites (owner.inside kind parts)) := by
  rw [sites, collect_node, List.singleton_append]
  rfl

theorem isSubtree_of_mem_sites {site : Site} (found : site ∈ sites owner tree) :
    site.tree.IsSubtree tree := by
  rcases exists_of_mem_collect found with ⟨owner, kind, parts, within, reported⟩
  rw [List.mem_singleton.mp reported]
  exact within

/-- The nodes of a part of a node are nodes of the tree. -/
theorem mem_sites_of_mem_part {site inner : Site} {part : Tree Token}
    (found : site ∈ sites owner tree) (member : part ∈ site.parts)
    (within : inner ∈ sites (site.owner.inside site.kind site.parts) part) :
    inner ∈ sites owner tree := by
  induction tree using Tree.induction generalizing owner with
  | leaf token => cases found
  | node kind parts inductionHypothesis =>
      rw [sites_node] at found ⊢
      rcases List.mem_cons.mp found with rfl | found
      · exact .tail _ (List.mem_flatMap.mpr ⟨part, member, within⟩)
      · rcases List.mem_flatMap.mp found with ⟨other, beside, found⟩
        have inside := inductionHypothesis other beside found
        exact .tail _ (List.mem_flatMap.mpr ⟨other, beside, inside⟩)

/-- A member is one of the occupants of a node, and not a statement that declares nothing. -/
theorem exists_of_mem_members {member : Site} (inside : member ∈ members tree) :
    ∃ site ∈ sites none tree, member.tree ∈ Tree.occupants site.kind site.parts ∧
      member.kind.isStatementOrArm = false ∧ member.owner = site.owner := by
  rcases List.mem_flatMap.mp inside with ⟨site, found, inside⟩
  rcases List.mem_filterMap.mp inside with ⟨occupant, stands, same⟩
  refine ⟨site, found, ?_⟩
  cases occupant with
  | leaf token => cases same
  | node kind parts =>
      dsimp only at same
      split at same
      next => cases same
      next declares =>
          cases same
          exact ⟨stands, Bool.eq_false_iff.mpr declares, rfl⟩

/-- Occupants are the elements of a sequence among the parts of a node. -/
theorem exists_of_mem_occupants {kind : Kind} {parts : List (Tree Token)} {occupant : Tree Token}
    (member : occupant ∈ Tree.occupants kind parts) :
    kind.holdsOccupants = true ∧
      ∃ inside, Tree.node .sequence inside ∈ parts ∧ occupant ∈ inside := by
  unfold Tree.occupants at member
  split at member
  next holds =>
      refine ⟨holds, ?_⟩
      rw [List.getD_eq_getElem?_getD] at member
      cases second : parts[1]? with
      | none =>
          rw [second] at member
          cases member
      | some part =>
          rw [second, Option.getD_some] at member
          unfold Tree.elements at member
          split at member
          next inside => exact ⟨inside, List.mem_of_getElem? second, List.mem_of_mem_filter member⟩
          next => cases member
  next => cases member

/-- A member has the owner of the node it stands in, so it is a node of the tree as it is. -/
theorem mem_sites_of_mem_members {member : Site} (inside : member ∈ members tree) :
    member ∈ sites none tree := by
  rcases exists_of_mem_members inside with ⟨site, found, stands, -, sameOwner⟩
  rcases exists_of_mem_occupants stands with ⟨holds, occupants, isPart, stands⟩
  have keepsOwner : site.owner.inside site.kind site.parts = site.owner := by
    cases kind : site.kind <;> first | rfl | (rw [kind] at holds; cases holds)
  refine mem_sites_of_mem_part found isPart ?_
  rw [keepsOwner, ← sameOwner, sites_node]
  refine .tail _ (List.mem_flatMap.mpr ⟨member.tree, stands, ?_⟩)
  rw [Site.tree, sites_node]
  exact .head _

end Sites

/-! ## Structured members have entries -/

/-- What is structured is a function or a bystander, and its outer attributes are looked at. -/
theorem examined_of_isStructured (kind : Kind) (outer : Tree Token) (behind : List (Tree Token))
    (structured : kind.isStructured behind = true) :
    (∃ declaration, Declaration.ofParts? kind (outer :: behind) = some declaration ∧
        ∀ candidate ∈ outer.elements, candidate ∈ declaration.attributes) ∨
      Declaration.ofParts? kind (outer :: behind) = none ∧
        ∃ bystander, Scan.bystander? kind (outer :: behind) = some bystander ∧
          ∀ candidate ∈ outer.elements, candidate ∈ bystander.attributes := by
  unfold Kind.isStructured at structured
  split at structured
  all_goals first
    | exact .inl ⟨_, rfl, fun _ member => List.mem_append_left _ member⟩
    | exact .inr ⟨rfl, _, rfl, fun _ member => member⟩
    | exact .inr ⟨rfl, _, rfl, fun _ member => List.mem_append_left _ member⟩
    | cases structured

namespace Scan

variable {kind : MarkerKind}

theorem mem_ignoredAs {item : String} {reason : IgnoreReason} {attributes : List (Tree Token)}
    {candidate : Tree Token} (member : candidate ∈ attributes)
    (named : kind.isNamedBy candidate = true) :
    .ignored ⟨item, attributeLine candidate, reason⟩ ∈ ignoredAs kind item reason attributes :=
  List.mem_map.mpr ⟨candidate, List.mem_filter.mpr ⟨member, named⟩, rfl⟩

/-- Every outer attribute of a structured node that is spelled like the marker has an entry. -/
theorem entry_mem_ofNode {site : Site} {outer : Tree Token} {behind : List (Tree Token)}
    (first : site.parts = outer :: behind) (structured : site.kind.isStructured behind = true)
    {candidate : Tree Token} (member : candidate ∈ outer.elements)
    (named : kind.isNamedBy candidate = true) :
    site.entry candidate ∈ ofNode kind site.owner site.kind site.parts := by
  unfold Site.entry ofNode
  rcases examined_of_isStructured site.kind outer behind structured with
    ⟨declaration, declares, examined⟩ | ⟨notDeclared, bystander, carries, examined⟩
  · rw [first, declares]
    dsimp only [ofDeclaration]
    have inside := examined candidate member
    cases bare : MarkerKind.isBare candidate with
    | false =>
        have malformed : kind.isMarker candidate = false := by
          rw [MarkerKind.isMarker, bare, Bool.false_and]
        have listed : candidate ∈ declaration.attributes.filter fun other =>
            !kind.isMarker other := List.mem_filter.mpr ⟨inside, by rw [malformed]; rfl⟩
        exact List.mem_append_left _ (mem_ignoredAs listed named)
    | true =>
        have marked : declaration.isMarked kind = true :=
          List.any_eq_true.mpr ⟨candidate, inside, by rw [MarkerKind.isMarker, bare, named]; rfl⟩
        refine List.mem_append_right _ ?_
        rw [Declaration.isTagged, Declaration.acceptsMarker, marked]
        cases declaration.isConst <;> exact .head _
  · rw [first, notDeclared, carries]
    dsimp only
    rw [Site.label, first, carries]
    exact mem_ignoredAs (examined candidate member) named

/-- What a node of a tree reports is listed. -/
theorem lists_of_mem_ofNode {tree : Tree Token} {site : Site} (found : site ∈ sites none tree)
    {finding : Finding} (member : finding ∈ ofNode kind site.owner site.kind site.parts) :
    (kind.scan tree).Lists finding := by
  have inside : finding ∈ findings kind none tree := by
    rw [findings_eq_collect, collect_eq_flatMap_sites]
    exact List.mem_flatMap.mpr ⟨site, found, member⟩
  cases finding with
  | tagged declaration => exact List.mem_filterMap.mpr ⟨_, inside, rfl⟩
  | ignored marker => exact List.mem_filterMap.mpr ⟨_, inside, rfl⟩

/-- Of what is kept as tokens nothing is reported. -/
theorem findings_of_isKept (owner : Owner) {tree : Tree Token} (kept : tree.isKept = true) :
    findings kind owner tree = [] := by
  unfold Tree.isKept at kept
  split at kept
  next parts =>
      rw [findings_eq_collect, collect_node]
      refine List.append_eq_nil_iff.mpr ⟨rfl, List.flatMap_eq_nil_iff.mpr fun part member => ?_⟩
      have isLeaf := List.all_eq_true.mp kept part member
      cases part with
      | leaf token => rfl
      | node kind parts => cases isLeaf
  next => cases kept

end Scan

/-! ## Members of parsed files -/

theorem Kind.isStructured_map {α β : Type} (change : α → β) (kind : Kind) (behind : List α)
    (structured : kind.isStructured behind = true) :
    kind.isStructured (behind.map change) = true := by
  unfold Kind.isStructured at structured
  split at structured
  all_goals first | rfl | cases structured

/-- What fits does so whatever its tokens are. -/
theorem Fits.map {change : Citation → Token} {tree : Node} (fits : Fits tree) :
    Fits (tree.map change) := by
  cases tree with
  | leaf citation =>
      rcases fits with structured | kept | ⟨kind, same, aside⟩
      · cases structured
      · cases kept
      · cases same
  | node kind parts =>
      rw [Tree.map_node]
      rcases fits with structured | kept | ⟨kind', same, aside⟩
      · cases parts with
        | nil => cases structured
        | cons outer behind => exact .structured (kind.isStructured_map _ behind structured)
      · cases kind <;> try cases kept
        refine .kept (List.all_eq_true.mpr fun part member => ?_)
        rcases List.mem_map.mp member with ⟨original, inside, rfl⟩
        have isLeaf := List.all_eq_true.mp kept original inside
        cases original with
        | leaf citation => rfl
        | node kind parts => cases isLeaf
      · cases same
        exact .aside kind rfl aside

theorem Tree.occupants_map {α β : Type} (change : α → β) (kind : Kind) (parts : List (Tree α)) :
    Tree.occupants kind (parts.map (Tree.map change)) =
      (Tree.occupants kind parts).map (Tree.map change) := by
  have second := List.getD_map (l := parts) (n := 1) (d := .absent) (Tree.map change)
  have nothing : (Tree.absent : Tree α).map change = .absent := rfl
  unfold Tree.occupants
  split
  · rw [← nothing, second, Tree.elements_map]
  · rfl

/-- The members of a parsed file have a structure, or nothing but tokens. -/
theorem isStructured_or_isKept_of_parse {text : String} {file : SourceFile}
    (parsed : SourceFile.parse text = .ok file) {member : Site}
    (inside : member ∈ members file.tree) :
    member.tree.isStructured = true ∨ member.tree.isKept = true := by
  rcases exists_of_mem_members inside with ⟨site, found, stands, declares, -⟩
  rcases SourceFile.exists_cite_of_parse parsed with ⟨tokens, tree, -, cited, same⟩
  have within := isSubtree_of_mem_sites found
  rw [same] at within
  rcases within.of_map with ⟨original, insideOriginal, isSite⟩
  rcases Tree.map_eq_node isSite with ⟨parts, rfl, mapped⟩
  have proper := (genuineTree_of_cite cited).proper _ _ insideOriginal
  rw [← mapped, Tree.occupants_map] at stands
  rcases List.mem_map.mp stands with ⟨occupant, fitting, isMember⟩
  have fits : Fits member.tree := isMember ▸ (proper.fitsInside occupant fitting).map
  rcases fits with structured | kept | ⟨kind, same, aside⟩
  · exact .inl structured
  · exact .inr kept
  · cases same
    exact absurd (aside.symm.trans declares) (by decide)

/-- Each marker in front of an item or a member of a parsed file, wherever it stands, has an entry
in the scan: the function is tagged or cannot be, or the marker is malformed or misplaced.  The only
exceptions are items and members of which nothing but the tokens are kept.  Of these nothing is
reported, whatever is in front of them. -/
theorem MarkerKind.scan_members (kind : MarkerKind) {text : String} {file : SourceFile}
    (parsed : SourceFile.parse text = .ok file) :
    ∀ member ∈ members file.tree,
      (member.kind = .verbatim → Scan.findings kind member.owner member.tree = []) ∧
      (member.kind ≠ .verbatim →
        ∀ candidate ∈ member.outerAttributes, kind.isNamedBy candidate = true →
          (kind.scan file.tree).Lists (member.entry candidate)) := by
  intro member inside
  have found := mem_sites_of_mem_members inside
  rcases isStructured_or_isKept_of_parse parsed inside with structured | kept
  · rcases member with ⟨owner, node, _ | ⟨outer, behind⟩⟩
    · cases structured
    have structured : node.isStructured behind = true := structured
    constructor
    · rintro rfl
      cases structured
    · intro notKept candidate written named
      have ahead : candidate ∈ outer.elements := by
        cases node <;> first | exact written | exact absurd rfl notKept
      exact Scan.lists_of_mem_ofNode found (Scan.entry_mem_ofNode rfl structured ahead named)
  · refine ⟨fun _ => Scan.findings_of_isKept member.owner kept, fun notKept => ?_⟩
    have isVerbatim : member.kind = .verbatim := by
      rcases member with ⟨owner, node, parts⟩
      cases node <;> first | rfl | cases kept
    exact absurd isVerbatim notKept

/-- A file with a constant in an `impl` block that has a marker in front of it. -/
theorem MarkerKind.scan_members_constant :
    let text := "impl Clock \x7b\n    #[method_logger]\n    const RATE: u32 = 1;\n\x7d\n"
    ∃ file, SourceFile.parse text = .ok file ∧
      ∃ member ∈ members file.tree, member.kind = .implConst ∧
        ∃ candidate ∈ member.outerAttributes, methodLogger.isNamedBy candidate = true ∧
          (methodLogger.scan file.tree).Lists (member.entry candidate) := by
  intro text
  have marked : (SourceFile.parse text).toOption.any (fun file =>
      (members file.tree).any fun member => member.kind == .implConst &&
        member.outerAttributes.any methodLogger.isNamedBy) = true := by decide +kernel
  obtain ⟨file, parsed, marked⟩ := exists_ok_of_any marked
  obtain ⟨member, inside, marked⟩ := List.any_eq_true.mp marked
  obtain ⟨isConst, marked⟩ := Bool.and_eq_true_iff.mp marked
  obtain ⟨candidate, ahead, named⟩ := List.any_eq_true.mp marked
  have isConst : member.kind = .implConst := eq_of_beq isConst
  refine ⟨file, parsed, member, inside, isConst, candidate, ahead, named, ?_⟩
  refine (methodLogger.scan_members parsed member inside).2 ?_ candidate ahead named
  rw [isConst]
  decide

/-- A function that says `safe` has a marker in front of it, and the scan has no entries. -/
theorem MarkerKind.not_scan_members_safe :
    let text := "unsafe extern \"C\" \x7b\n    #[method_logger]\n    safe fn tick();\n\x7d\n"
    ∃ file, SourceFile.parse text = .ok file ∧
      ∃ member ∈ members file.tree, ∃ candidate ∈ member.outerAttributes,
        methodLogger.isNamedBy candidate = true ∧
          methodLogger.scan file.tree = ⟨[], []⟩ := by
  intro text
  have marked : (SourceFile.parse text).toOption.any (fun file =>
      ((members file.tree).any fun member => member.outerAttributes.any methodLogger.isNamedBy) &&
        decide (methodLogger.scan file.tree = ⟨[], []⟩)) = true := by decide +kernel
  obtain ⟨file, parsed, marked⟩ := exists_ok_of_any marked
  obtain ⟨marked, silent⟩ := Bool.and_eq_true_iff.mp marked
  obtain ⟨member, inside, marked⟩ := List.any_eq_true.mp marked
  obtain ⟨candidate, ahead, named⟩ := List.any_eq_true.mp marked
  exact ⟨file, parsed, member, inside, candidate, ahead, named, of_decide_eq_true silent⟩

end Instrument
