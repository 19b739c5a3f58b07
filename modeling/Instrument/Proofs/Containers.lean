import Instrument.Proofs.Attachments
import Instrument.Proofs.Genuine.Items
import Instrument.Proofs.Visitor
import Instrument.Proofs.Words

/-!
# What a function is reported by

A report calls a function by its name, and a member of an `impl` block or of a trait by the name of
the block as well.  Both visitors, the one that scans and the one that instruments, find the block
in a field that they set when they enter a block and have to put back when they leave it; a method
does not touch the field, and neither does a module.  A field can be stale.

Here a function is looked at together with everything that it stands in, and its name is read off
the block that it stands in directly, however that block is nested in others.  The two visitors
report these names.  The reason is that the field always holds what the innermost node says that
sets it, and that each visitor comes back from a node with the field as it was.
-/

namespace Instrument

/-! ## Standing in a tree -/

/-- A node with all the nodes that it stands in, the innermost one first. -/
structure Standing where
  around : List (Kind × List (Tree Token))
  kind : Kind
  parts : List (Tree Token)

mutual

/-- Every node of a tree once, in visiting order. -/
def standings (around : List (Kind × List (Tree Token))) : Tree Token → List Standing
  | .leaf _ => []
  | .node kind parts =>
    ⟨around, kind, parts⟩ :: standingsOfParts ((kind, parts) :: around) parts

/-- Every node of the parts of a node. -/
def standingsOfParts (around : List (Kind × List (Tree Token))) :
    List (Tree Token) → List Standing
  | [] => []
  | part :: rest => standings around part ++ standingsOfParts around rest

end

/-- The owner that the nodes around a place give it: what the innermost of them says that says
anything. -/
def ownerAround : List (Kind × List (Tree Token)) → Owner
  | [] => none
  | (kind, parts) :: around => Owner.inside (ownerAround around) kind parts

namespace Standing

/-- The node between whose braces a node stands as a member. -/
def block? (standing : Standing) : Option (Kind × List (Tree Token)) :=
  match standing.around with
  | (.sequence, _) :: (.members, _) :: block :: _ => some block
  | _ => none

/-- The node as a visitor meets it. -/
def site (standing : Standing) : Site :=
  ⟨ownerAround standing.around, standing.kind, standing.parts⟩

end Standing

theorem standingsOfParts_eq_flatMap (around : List (Kind × List (Tree Token)))
    (parts : List (Tree Token)) :
    standingsOfParts around parts = parts.flatMap (standings around) := by
  induction parts with
  | nil => rfl
  | cons part rest inductionHypothesis =>
      rw [standingsOfParts, inductionHypothesis, List.flatMap_cons]

/-- A visitor meets every node with the owner that the nodes around it give it. -/
theorem sites_eq_map_standings (around : List (Kind × List (Tree Token))) (tree : Tree Token) :
    sites (ownerAround around) tree = (standings around tree).map Standing.site := by
  induction tree using Tree.induction generalizing around with
  | leaf token => rfl
  | node kind parts inductionHypothesis =>
      rw [sites, collect_node, standings, standingsOfParts_eq_flatMap, List.map_cons,
        List.singleton_append, List.map_flatMap]
      congr 1
      exact List.flatMap_congr fun part member =>
        inductionHypothesis part member ((kind, parts) :: around)

/-! ## Names by what is directly around -/

/-- A function and where it stands. -/
structure PlacedFunction where
  standing : Standing
  declaration : Declaration

/-- The functions of a tree in visiting order. -/
def functions (tree : Tree Token) : List PlacedFunction :=
  (standings [] tree).filterMap fun standing =>
    (Declaration.ofParts? standing.kind standing.parts).map (⟨standing, ·⟩)

/-- What reports call a type: the last name of its path, or a placeholder if it is no path. -/
def lastName? : Tree Token → Option String
  | .node .pathType [path] =>
    match (Owner.segments path).getLast? with
    | some (.node .segment (name :: _)) => some name.text
    | _ => none
  | _ => some "_"

namespace PlacedFunction

/-- What a function is to be called: a free or foreign one by its name alone, a member of an `impl`
block together with the type of the block that it stands in directly, and a member of a trait
together with the trait that it stands in directly. -/
def calledName? (function : PlacedFunction) : Option String :=
  let bare := function.declaration.name
  match function.declaration.callable, function.standing.block? with
  | .free, _ | .foreign, _ => some bare
  | .method, some (.implItem, parts) => (lastName? (parts.getD 8 .absent)).map (· ++ "::" ++ bare)
  | .traitMethod, some (.traitItem, parts) => some ((parts.getD 6 .absent).text ++ "::" ++ bare)
  | _, _ => none

/-- The name that a visitor reports. -/
def name (function : PlacedFunction) : String :=
  (ownerAround function.standing.around).qualify function.declaration

/-- How many entries a scan has of markers without effect on the function: one for each that is
malformed, and one more if the function is marked and cannot be instrumented. -/
def ignoredCount (kind : MarkerKind) (function : PlacedFunction) : Nat :=
  (Scan.malformedEntries kind (none, function.declaration)).length +
    if function.declaration.isConst && function.declaration.isMarked kind then 1 else 0

end PlacedFunction

theorem typeName_eq {type : Tree Token} {name : String} (isName : lastName? type = some name) :
    Owner.typeName type = name := by
  unfold lastName? at isName
  split at isName
  next path =>
      split at isName
      next last =>
          cases isName
          rw [Owner.typeName, last]
          rfl
      next => cases isName
  next noPath =>
      cases isName
      unfold Owner.typeName
      split
      next path => exact absurd rfl (noPath path)
      next => rfl

/-- The owner around a member of a block is that of the block. -/
theorem ownerAround_of_block {standing : Standing} {kind : Kind} {parts : List (Tree Token)}
    (block : standing.block? = some (kind, parts)) :
    ∃ outer, ownerAround standing.around = Owner.inside outer kind parts := by
  unfold Standing.block? at block
  split at block
  next others inner block' around same =>
      cases block
      rw [same]
      exact ⟨ownerAround around, rfl⟩
  next => cases block

/-- What stands around the block makes no difference to what a function is called. -/
theorem PlacedFunction.name_eq {function : PlacedFunction} {name : String}
    (isCalled : function.calledName? = some name) : function.name = name := by
  unfold PlacedFunction.calledName? at isCalled
  split at isCalled
  next isFree =>
      cases isCalled
      simp only [PlacedFunction.name, Owner.qualify, isFree, Callable.isOwned]
  next isForeign =>
      cases isCalled
      simp only [PlacedFunction.name, Owner.qualify, isForeign, Callable.isOwned]
  next parts isMethod block =>
      obtain ⟨type, named, rfl⟩ := Option.map_eq_some_iff.mp isCalled
      obtain ⟨outer, owner⟩ := ownerAround_of_block block
      simp only [PlacedFunction.name, Owner.qualify, owner, isMethod, Owner.inside,
        typeName_eq named, Callable.isOwned]
  next parts isMethod block =>
      cases isCalled
      obtain ⟨outer, owner⟩ := ownerAround_of_block block
      simp only [PlacedFunction.name, Owner.qualify, owner, isMethod, Owner.inside,
        Callable.isOwned]
  next => cases isCalled

/-! ## Parsed functions -/

section Parsed

variable {around : List (Kind × List (Tree Token))} {tree : Tree Token}

/-- A method of a housed tree stands in a block of its kind. -/
theorem Housed.exists_block (housed : Housed (around.map Prod.fst) tree) {standing : Standing}
    (stands : standing ∈ standings around tree) {home : Kind}
    (found : standing.kind.home? = some home) :
    ∃ parts, standing.block? = some (home, parts) := by
  induction tree using Tree.induction generalizing around with
  | leaf token => cases stands
  | node kind parts inductionHypothesis =>
      rw [standings, standingsOfParts_eq_flatMap] at stands
      rcases List.mem_cons.mp stands with rfl | stands
      · rcases housed.member found with ⟨outer, same⟩
        match around, same with
        | (_, _) :: (_, _) :: (_, block) :: _, same =>
            cases same
            exact ⟨block, rfl⟩
      · rcases List.mem_flatMap.mp stands with ⟨part, member, stands⟩
        have inside : Housed (((kind, parts) :: around).map Prod.fst) part := housed.part member
        exact inductionHypothesis part member inside stands

theorem mem_around_of_block {standing : Standing} {block : Kind × List (Tree Token)}
    (found : standing.block? = some block) : block ∈ standing.around := by
  unfold Standing.block? at found
  split at found
  next same =>
      cases found
      rw [same]
      exact .tail _ (.tail _ (.head _))
  next => cases found

/-- A part that is there is in the tree. -/
theorem isSubtree_of_getD {kind inner : Kind} {parts inside : List (Tree Token)} {place : Nat}
    (isPart : parts.getD place .absent = .node inner inside) (present : inner ≠ .absent) :
    (Tree.node inner inside).IsSubtree (.node kind parts) := by
  rw [List.getD_eq_getElem?_getD] at isPart
  cases found : parts[place]? with
  | none =>
      rw [found] at isPart
      cases isPart
      exact absurd rfl present
  | some part =>
      rw [found] at isPart
      cases isPart
      exact .inside (List.mem_of_getElem? found) (.refl _)

/-- What a node stands in is in the same tree. -/
theorem isSubtree_of_mem_around {standing : Standing} (stands : standing ∈ standings around tree)
    {outer : Kind × List (Tree Token)} (member : outer ∈ standing.around) :
    outer ∈ around ∨ (Tree.node outer.1 outer.2).IsSubtree tree := by
  induction tree using Tree.induction generalizing around with
  | leaf token => cases stands
  | node kind parts inductionHypothesis =>
      rw [standings, standingsOfParts_eq_flatMap] at stands
      rcases List.mem_cons.mp stands with rfl | stands
      · exact .inl member
      · rcases List.mem_flatMap.mp stands with ⟨part, inParts, stands⟩
        rcases inductionHypothesis part inParts stands with inAround | inside
        · rcases List.mem_cons.mp inAround with rfl | inAround
          · exact .inr (.refl _)
          · exact .inl inAround
        · exact .inr (.inside inParts inside)

theorem Tree.IsNamedPath.exists_segment {path : Tree Token} (isNamed : path.IsNamedPath) :
    ∃ name rest, (Owner.segments path).getLast? = some (.node .segment (name :: rest)) := by
  cases isNamed with
  | path found isSegment =>
      rcases isSegment with ⟨name, rest, rfl⟩
      exact ⟨name, rest, found⟩
  | qualified found isSegment =>
      rcases isSegment with ⟨name, rest, rfl⟩
      exact ⟨name, rest, found⟩

/-- A type has a name in reports, if it has one as a path. -/
theorem isSome_lastName? {type : Tree Token}
    (named : ∀ parts, type = .node .pathType parts → Tree.NamesType .pathType parts) :
    (lastName? type).isSome = true := by
  unfold lastName?
  split
  next path =>
      rcases named _ rfl rfl with ⟨_, ⟨⟩, isNamed⟩
      rcases isNamed.exists_segment with ⟨name, rest, last⟩
      rw [last]
      rfl
  next => rfl

end Parsed

theorem home?_of_method {kind : Kind} (isMethod : Callable.ofKind? kind = some .method) :
    kind.home? = some .implItem := by
  unfold Callable.ofKind? at isMethod
  split at isMethod <;> cases isMethod
  rfl

theorem home?_of_traitMethod {kind : Kind}
    (isMethod : Callable.ofKind? kind = some .traitMethod) : kind.home? = some .traitItem := by
  unfold Callable.ofKind? at isMethod
  split at isMethod <;> cases isMethod
  rfl

/-- In a parsed file every function has a name that it is to be called by, and is called by it. -/
theorem calledName?_of_parse {text : String} {file : SourceFile}
    (parsed : SourceFile.parse text = .ok file) :
    ∀ function ∈ functions file.tree, function.calledName? = some function.name := by
  rcases SourceFile.exists_cite_of_parse parsed with ⟨tokens, tree, -, cited, same⟩
  have genuine := genuineTree_of_cite cited
  have housed : Housed [] file.tree := same ▸ genuine.housed.map _
  have named (parts : List (Tree Token)) (within : (Tree.node .pathType parts).IsSubtree file.tree) :
      Tree.NamesType .pathType parts := by
    rw [same] at within
    rcases within.of_map with ⟨original, inside, isType⟩
    rcases Tree.map_eq_node isType with ⟨originals, rfl, mapped⟩
    rcases (genuine.proper _ _ inside).namesType rfl with ⟨path, rfl, isNamed⟩
    intro _
    exact ⟨_, mapped.symm, isNamed.map _⟩
  intro function member
  suffices called : function.calledName?.isSome = true by
    rcases Option.isSome_iff_exists.mp called with ⟨name, isCalled⟩
    rw [isCalled, PlacedFunction.name_eq isCalled]
  rcases List.mem_filterMap.mp member with ⟨standing, stands, found⟩
  rcases Option.map_eq_some_iff.mp found with ⟨declaration, declares, rfl⟩
  rcases Declaration.exists_of_ofParts? declares with ⟨_, _, isCallable, -⟩
  have standsIn {home : Kind} (found : standing.kind.home? = some home) :
      ∃ parts, standing.block? = some (home, parts) :=
    @Housed.exists_block [] file.tree housed standing stands home found
  unfold PlacedFunction.calledName?
  dsimp only
  cases callable : declaration.callable with
  | free => rfl
  | «foreign» => rfl
  | method =>
      rw [callable] at isCallable
      rcases standsIn (home?_of_method isCallable) with ⟨parts, block⟩
      rw [block, Option.isSome_map]
      refine isSome_lastName? fun path isType => named path ?_
      rcases isSubtree_of_mem_around stands (mem_around_of_block block) with impossible | within
      · cases impossible
      · exact (isSubtree_of_getD isType nofun).trans within
  | traitMethod =>
      rw [callable] at isCallable
      rcases standsIn (home?_of_traitMethod isCallable) with ⟨parts, block⟩
      rw [block]
      rfl

/-! ## What the reports say -/

/-- The functions of a tree with their owners, as the visitors meet them. -/
theorem declared_eq_map_functions (tree : Tree Token) :
    declared none tree =
      (functions tree).map fun function =>
        (ownerAround function.standing.around, function.declaration) := by
  have met := sites_eq_map_standings [] tree
  rw [declared, collect_eq_flatMap_sites]
  change List.flatMap _ (sites (ownerAround []) tree) = _
  rw [met, List.flatMap_map, functions, List.map_filterMap, List.filterMap_eq_flatMap_toList]
  refine List.flatMap_congr fun standing _ => ?_
  rw [declarationReport, Standing.site]
  cases Declaration.ofParts? standing.kind standing.parts <;> rfl

/-- What is reported of some of the functions of a tree are their names. -/
theorem filterMap_qualify (select : Declaration → Bool) (tree : Tree Token) :
    ((declared none tree).filterMap fun found =>
        if select found.2 then some (found.1.qualify found.2) else none) =
      ((functions tree).filter fun function => select function.declaration).map
        PlacedFunction.name := by
  rw [declared_eq_map_functions, List.filterMap_map, ← List.filterMap_eq_filter,
    List.map_filterMap]
  refine List.filterMap_congr fun function _ => ?_
  by_cases selected : select function.declaration = true
  · simp [selected, Option.guard, PlacedFunction.name]
  · simp [selected, Option.guard]

namespace Scan

variable (kind : MarkerKind)

theorem map_name_tagged (tree : Tree Token) :
    (kind.scan tree).tagged.map TaggedDeclaration.name =
      ((functions tree).filter fun function => function.declaration.isTagged kind).map
        PlacedFunction.name := by
  rw [← filterMap_qualify, tagged_eq_filterMap_declared, List.map_filterMap]
  refine List.filterMap_congr fun found _ => ?_
  rw [taggedDeclaration?]
  split <;> rfl

/-- The names in the entries that are not about something else than a function. -/
def ignoredNames (entries : List IgnoredMarker) : List String :=
  (entries.filter fun entry => entry.reason != .misplaced).map IgnoredMarker.item

theorem ignoredNames_misplaced (item : String) (attributes : List (Tree Token)) :
    ignoredNames ((ignoredAs kind item .misplaced attributes).filterMap ignored?) = [] := by
  rw [filterMap_ignored?_ignoredAs, ignoredNames, List.filter_map]
  simp [Function.comp_def]

/-- All entries of one function have its name. -/
theorem ignoredNames_ofDeclaration (owner : Owner) (function : PlacedFunction) :
    ignoredNames ((ofDeclaration kind owner function.declaration).filterMap ignored?) =
      List.replicate (function.ignoredCount kind) (owner.qualify function.declaration) := by
  rw [filterMap_ignored?_ofDeclaration, ignoredNames, List.filter_append, List.map_append,
    PlacedFunction.ignoredCount, List.replicate_add]
  congr 1
  · rw [malformedEntries, malformedEntries, List.filter_map, List.length_map, List.map_map]
    have differ : (IgnoreReason.malformed != .misplaced) = true := rfl
    simp [Function.comp_def, List.map_const', differ]
  · by_cases refused : (function.declaration.isConst && function.declaration.isMarked kind) = true
    · simp [refused, constEntry]
    · simp [refused]

/-- A function is listed under its name as often as it has markers without effect. -/
theorem ignoredNames_scan (tree : Tree Token) :
    ignoredNames (kind.scan tree).ignored =
      (functions tree).flatMap fun function =>
        List.replicate (function.ignoredCount kind) function.name := by
  have entries : (kind.scan tree).ignored =
      (standings [] tree).flatMap fun standing =>
        (ofNode kind standing.site.owner standing.kind standing.parts).filterMap ignored? := by
    change (findings kind (ownerAround []) tree).filterMap ignored? = _
    rw [findings_eq_collect, filterMap_collect, collect_eq_flatMap_sites, sites_eq_map_standings,
      List.flatMap_map]
    rfl
  rw [entries, ignoredNames, List.filter_flatMap, List.map_flatMap, functions,
    List.filterMap_eq_flatMap_toList, List.flatMap_assoc]
  refine List.flatMap_congr fun standing _ => ?_
  change ignoredNames _ = _
  rw [ofNode]
  cases declares : Declaration.ofParts? standing.kind standing.parts with
  | some declaration =>
      simp only [Option.map_some, Option.toList_some, List.flatMap_singleton]
      exact ignoredNames_ofDeclaration kind standing.site.owner ⟨standing, declaration⟩
  | none =>
      simp only [Option.map_none, Option.toList_none, List.flatMap_nil]
      cases bystander? standing.kind standing.parts with
      | none => rfl
      | some bystander => exact ignoredNames_misplaced kind _ _

end Scan

/-! ## Walking with the owner in hand -/

/-- What a scanner carries along: the owner of what it meets, and what it has found. -/
structure Scanner where
  owner : Owner
  found : List Finding

namespace Scanner

variable (kind : MarkerKind)

mutual

/-- Scan a tree and come back.  Only a node that has set the owner puts it back. -/
def visit (scanner : Scanner) : Tree Token → Scanner
  | .leaf _ => scanner
  | .node node parts =>
    let inside := visitAll
      { owner := scanner.owner.inside node parts
        found := scanner.found ++ Scan.ofNode kind scanner.owner node parts } parts
    if Instrumentation.setsOwner node then { inside with owner := scanner.owner } else inside

/-- Scan several trees, one after the other. -/
def visitAll (scanner : Scanner) : List (Tree Token) → Scanner
  | [] => scanner
  | tree :: rest => visitAll (visit scanner tree) rest

end

theorem visitAll_eq {trees : List (Tree Token)}
    (each : ∀ tree ∈ trees, ∀ scanner, visit kind scanner tree =
      { scanner with found := scanner.found ++ Scan.findings kind scanner.owner tree })
    (scanner : Scanner) :
    visitAll kind scanner trees =
      { scanner with
        found := scanner.found ++ trees.flatMap (Scan.findings kind scanner.owner) } := by
  induction trees generalizing scanner with
  | nil => simp [visitAll]
  | cons tree rest inductionHypothesis =>
      rw [visitAll, each tree List.mem_cons_self,
        inductionHypothesis fun other member => each other (List.mem_cons_of_mem _ member)]
      simp

/-- A scanner comes back from a tree with the owner that it came with. -/
theorem visit_eq (scanner : Scanner) (tree : Tree Token) :
    visit kind scanner tree =
      { scanner with found := scanner.found ++ Scan.findings kind scanner.owner tree } := by
  induction tree using Tree.induction generalizing scanner with
  | leaf token => simp [visit, Scan.findings]
  | node node parts inductionHypothesis =>
      rw [visit, visitAll_eq kind inductionHypothesis, Scan.findings,
        Scan.findingsOfParts_eq_flatMap]
      by_cases sets : Instrumentation.setsOwner node = true
      · simp [sets]
      · have keeps := Instrumentation.inside_of_not_setsOwner scanner.owner node parts
          (by simpa using sets)
        simp [sets, keeps]

end Scanner

/-! ## The names in the reports -/

/-- A function is reported, by a scan as well as by an instrumented file, under the name that the
block it stands in directly gives it, whatever is nested around the block or has been left before;
and both visitors come back from every tree with the owner that they came with. -/
theorem reported_names (kind : MarkerKind) (policy : MarkerPolicy) (file : SourceFile) :
    (∀ function ∈ functions file.tree, ∀ name ∈ function.calledName?, function.name = name) ∧
      ((kind.scan file.tree).tagged.map TaggedDeclaration.name =
          ((functions file.tree).filter fun function =>
            function.declaration.isTagged kind).map PlacedFunction.name ∧
        Scan.ignoredNames (kind.scan file.tree).ignored =
          (functions file.tree).flatMap fun function =>
            List.replicate (function.ignoredCount kind) function.name) ∧
      ((file.instrument kind policy).instrumented =
          ((functions file.tree).filter fun function =>
            function.declaration.isTagged kind && function.declaration.hasBody).map
              PlacedFunction.name ∧
        (file.instrument kind policy).skipped =
          ((functions file.tree).filter fun function =>
            function.declaration.isTagged kind && !function.declaration.hasBody).map
              PlacedFunction.name) ∧
      ((∀ scanner tree, (Scanner.visit kind scanner tree).owner = scanner.owner) ∧
        kind.scan file.tree =
          Scan.ofFindings (Scanner.visit kind ⟨none, []⟩ file.tree).found) ∧
      ((∀ visitor trees last visited,
          Instrumentation.Visits kind policy visitor trees last visited →
            last.owner = visitor.owner) ∧
        Instrumentation.Visits kind policy .start [file.tree]
          ⟨none, (file.instrument kind policy).instrumented,
            (file.instrument kind policy).skipped, (file.instrument kind policy).stripped⟩
          [(file.instrument kind policy).file.tree]) := by
  refine ⟨?named, ⟨?tagged, ?ignored⟩, ⟨?instrumented, ?skipped⟩, ⟨?scanner, ?scan⟩,
    ⟨?visitor, ?visits⟩⟩
  case named => exact fun function _ name isCalled => PlacedFunction.name_eq isCalled
  case tagged => exact Scan.map_name_tagged kind file.tree
  case ignored => exact Scan.ignoredNames_scan kind file.tree
  case instrumented =>
    have listed := filterMap_qualify
      (fun declaration => declaration.isTagged kind && declaration.hasBody) file.tree
    rw [← listed]
    refine (Instrumentation.instrumentedNames_outcomes kind policy none file.tree).trans ?_
    refine List.filterMap_congr fun found _ => ?_
    rw [Instrumentation.taggedName?, beq_true]
  case skipped =>
    have listed := filterMap_qualify
      (fun declaration => declaration.isTagged kind && !declaration.hasBody) file.tree
    rw [← listed]
    refine (Instrumentation.skippedNames_outcomes kind policy none file.tree).trans ?_
    refine List.filterMap_congr fun found _ => ?_
    rw [Instrumentation.taggedName?, beq_false]
  case scanner =>
    intro scanner tree
    rw [Scanner.visit_eq]
  case scan =>
    rw [Scanner.visit_eq]
    simp [MarkerKind.scan]
  case visitor =>
    intro visitor trees last visited visits
    rw [visits.eq.1]
    rfl
  case visits => exact (Instrumentation.visits_file_iff file _ _).mpr ⟨rfl, rfl⟩

/-- A file in which blocks are nested in methods and left again, with a free function at the end. -/
def nestedText : String :=
  "impl Outer \x7b\n    fn first() \x7b\n" ++
    "        trait Inner \x7b\n            fn second();\n        \x7d\n" ++
    "        impl Inner for <u8 as Of>::Deep \x7b\n            fn second() \x7b\x7d\n        \x7d\n" ++
    "    \x7d\n    fn third(_: [u8; \x7b fn fourth() \x7b\x7d 1 \x7d]) \x7b\x7d\n\x7d\n" ++
    "fn fifth() \x7b\x7d\n"

theorem reported_names_nested :
    ∃ file, SourceFile.parse nestedText = .ok file ∧
      (functions file.tree).map PlacedFunction.name =
        ["Outer::first", "Inner::second", "Deep::second", "Outer::third", "fourth", "fifth"] := by
  let names : List String :=
    ["Outer::first", "Inner::second", "Deep::second", "Outer::third", "fourth", "fifth"]
  have called : (SourceFile.parse nestedText).toOption.any (fun file =>
      (functions file.tree).map PlacedFunction.calledName? == names.map some) = true := by
    decide +kernel
  obtain ⟨file, parsed, called⟩ := exists_ok_of_any called
  have called := eq_of_beq called
  have named := (reported_names .methodLogger .strip file).1
  have same : (functions file.tree).map PlacedFunction.calledName? =
      ((functions file.tree).map PlacedFunction.name).map some := by
    rw [List.map_map]
    refine List.map_congr_left fun function member => ?_
    have among : function.calledName? ∈ (functions file.tree).map PlacedFunction.calledName? :=
      List.mem_map.mpr ⟨function, member, rfl⟩
    rw [called] at among
    obtain ⟨name, _, isCalled⟩ := List.mem_map.mp among
    rw [← isCalled, Function.comp_apply, named function member name isCalled.symm]
  refine ⟨file, parsed, ?_⟩
  exact List.map_inj_right (fun _ _ => Option.some.inj) |>.mp (same.symm.trans called)

end Instrument
