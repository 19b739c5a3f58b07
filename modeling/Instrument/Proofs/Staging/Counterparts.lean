import Instrument.Proofs.Staging.Placement
import Instrument.Proofs.Staging.Rules
import Mathlib.Data.List.Nodup

/-!
# What staging leads to

The staged project is described without the walk and without the order in which files are written:
every file and directory of the project that is not left out has exactly one counterpart, files that
mention the marker are instrumented and all others are copied, and the report accounts for each of
them once.  This holds if the output is a directory without entries once it has been made.  A path
that goes up again behind a directory that was missing may instead lead to one that holds something;
staging does not notice that, and leaves what is there among the counterparts.
-/

namespace Instrument
namespace Project

open Files (Entry FileTree Location Shape IsName)
open Walk (Visit Ordered Covers)

variable {kind : MarkerKind} {policy : MarkerPolicy}

/-! ## What there is afterwards -/

/-- Whether an entry of a project, given by its names, is to be staged: the rules exclude neither
the entry nor a directory above it, and it is neither the build output nor the output, nor below. -/
structure IsPart (made : FileTree) (root out : Location) (path : List String) : Prop where
  allowed : ∀ above, above <+: path → above ≠ [] →
    Ignore.verdict (Ignore.layersAbove made (root ++ above)) (root ++ above)
      ((made.at? (root ++ above)).any Entry.isDirectory) ≠ some .excluded
  notBuild : ¬ ["target"] <+: path
  notOutput : ¬ out <+: root ++ path

/-- Whether a path stands before another one in the order of names. -/
def Precedes (first second : List String) : Prop :=
  Files.inOrder second first = false

/-- What staging a project leads to, given the tree in which the output has been made. -/
structure IsStaged (kind : MarkerKind) (policy : MarkerPolicy) (made : FileTree)
    (root out : Location) (final : FileTree) (report : Report) : Prop where
  directory_iff : ∀ path, path ≠ [] → (final.shape? (out ++ path) = some .directory ↔
    made.shape? (root ++ path) = some .directory ∧ IsPart made root out path)
  /-- Files have files as counterparts, which are copied or instrumented. -/
  file_iff : ∀ path content, path ≠ [] → (final.shape? (out ++ path) = some (.file content) ↔
    ∃ original staged, made.shape? (root ++ path) = some (.file original) ∧
      IsPart made root out path ∧ Treats kind policy path original staged ∧
      staged.content = content)
  noLinks : ∀ path target, path ≠ [] → final.shape? (out ++ path) ≠ some (.link target)
  /-- No name stands for two counterparts. -/
  sound : final.IsSound
  elsewhere : ∀ location, (∀ path, path ≠ [] → location ≠ out ++ path) →
    final.shape? location = made.shape? location
  reported_iff : ∀ fileReport, fileReport ∈ report.files ↔ ∃ path original staged, path ≠ [] ∧
    made.shape? (root ++ path) = some (.file original) ∧ IsPart made root out path ∧
    Treats kind policy path original staged ∧ staged.report = some fileReport
  increasing : report.files.Pairwise fun first second => Precedes first.path second.path
  /-- All other files are counted. -/
  copied : ∃ others : List (List String), others.Nodup ∧ others.length = report.copied ∧
    ∀ path, path ∈ others ↔ path ≠ [] ∧
      (∃ content, final.shape? (out ++ path) = some (.file content)) ∧
      ∀ fileReport ∈ report.files, fileReport.path ≠ path

/-- Whatever there is below the output has an original at the same place of the project. -/
theorem IsStaged.exists_original {made final : FileTree} {root out : Location} {report : Report}
    (staged : IsStaged kind policy made root out final report) {path : List String}
    (inside : path ≠ []) (there : (final.shape? (out ++ path)).isSome = true) :
    (made.shape? (root ++ path)).isSome = true := by
  rcases Option.isSome_iff_exists.mp there with ⟨shape, there⟩
  cases shape with
  | directory => rw [((staged.directory_iff path inside).mp there).1]; rfl
  | file content =>
      rcases (staged.file_iff path content inside).mp there with ⟨original, _, found, -⟩
      rw [found]
      rfl
  | link target => exact absurd there (staged.noLinks path target inside)

section Result

variable {made final : FileTree} {root out : Location} {visits : List Visit}
  {placements : List Placement} {log : List LogEvent} {report : Report}

/-- The output is empty, so what holds something is not in it. -/
theorem not_prefix_of_below (empty : made.at? out = some (.directory [])) {path : List String}
    (inside : path ≠ []) {shape : Shape} (found : made.shape? (root ++ path) = some shape) :
    ¬ out <+: root := by
  rintro ⟨rest, rfl⟩
  rw [List.append_assoc, FileTree.shape?_of_empty empty
    (List.append_ne_nil_of_right_ne_nil _ inside)] at found
  cases found

/-- A walk that leaves out the output and what is built includes what is to be staged. -/
theorem includes_iff_isPart (empty : made.at? out = some (.directory [])) {path : List String}
    (inside : path ≠ []) {shape : Shape} (found : made.shape? (root ++ path) = some shape) :
    (stagingWalk root out).Includes made root path ↔ IsPart made root out path := by
  constructor
  · intro includes
    refine ⟨fun above within inside => (includes above within inside).1, fun build => ?_, ?_⟩
    · have admits := (includes _ build (List.cons_ne_nil _ _)).2
      simp [stagingWalk, isBuildOutput] at admits
    · exact not_prefix_of_admits (not_prefix_of_below empty inside found)
        fun above within inside => (includes above within inside).2
  · intro part above within inside
    refine ⟨part.allowed above within inside, ?_⟩
    have notBuild : above ≠ ["target"] := by
      rintro rfl
      exact part.notBuild within
    have notOutput : root ++ above ≠ out := by
      rintro rfl
      exact part.notOutput ((List.prefix_append_right_inj root).mpr within)
    simp [stagingWalk, isBuildOutput, notBuild, notOutput]

theorem mem_map_counterpart {path : List String} {shape : Shape} :
    (path, shape) ∈ placements.map Placement.counterpart ↔
      ∃ report, ⟨path, shape, report⟩ ∈ placements := by
  rw [List.mem_map]
  constructor
  · rintro ⟨⟨path, shape, report⟩, among, same⟩
    cases same
    exact ⟨report, among⟩
  · rintro ⟨report, among⟩
    exact ⟨_, among, rfl⟩

/-- A visit leads to one counterpart only. -/
theorem Places.unique {visit : Visit} {first second : Placement}
    (places : Places kind policy visit first) (places' : Places kind policy visit second) :
    first = second := by
  cases places with
  | directory path => cases places'; rfl
  | file treats =>
      cases places' with
      | file treats' => rw [treats.unique treats']

theorem mem_placements_iff (places : List.Forall₂ (Places kind policy) visits placements)
    {placement : Placement} :
    placement ∈ placements ↔ ∃ visit ∈ visits, Places kind policy visit placement := by
  induction places with
  | nil => simp
  | cons first _ inductionHypothesis =>
      rw [List.mem_cons, inductionHypothesis, List.exists_mem_cons_iff]
      refine or_congr_left ⟨?_, fun places' => places'.unique first⟩
      rintro rfl
      exact first

theorem map_path_placements (places : List.Forall₂ (Places kind policy) visits placements) :
    placements.map Placement.path = visits.map Visit.path := by
  induction places with
  | nil => rfl
  | cons first _ inductionHypothesis =>
      rw [List.map_cons, List.map_cons, first.path_eq, inductionHypothesis]

/-- The counterparts are those of what is to be staged. -/
theorem mem_placements_iff_of_covers (empty : made.at? out = some (.directory []))
    (covers : Covers (stagingWalk root out) made root visits)
    (places : List.Forall₂ (Places kind policy) visits placements) (placement : Placement) :
    placement ∈ placements ↔ ∃ path shape, path ≠ [] ∧ made.shape? (root ++ path) = some shape ∧
      IsPart made root out path ∧ Places kind policy (.ofShape path shape) placement := by
  rw [mem_placements_iff places]
  constructor
  · rintro ⟨visit, member, placed⟩
    rcases (covers.mem_iff visit).mp member with ⟨path, shape, inside, found, rfl, includes⟩
    exact ⟨path, shape, inside, found, (includes_iff_isPart empty inside found).mp includes, placed⟩
  · rintro ⟨path, shape, inside, found, part, placed⟩
    refine ⟨_, (covers.mem_iff _).mpr ⟨path, shape, inside, found, rfl, ?_⟩, placed⟩
    exact (includes_iff_isPart empty inside found).mpr part

theorem Places.path_of_report {visit : Visit} {placement : Placement}
    (places : Places kind policy visit placement) {report : FileReport}
    (reported : placement.report = some report) : report.path = placement.path := by
  cases places with
  | directory path => cases reported
  | file treats => exact treats.path_of_report reported

/-- Reports are about the counterparts they come with. -/
theorem path_of_report_of_mem (places : List.Forall₂ (Places kind policy) visits placements)
    {placement : Placement} (among : placement ∈ placements) {fileReport : FileReport}
    (same : placement.report = some fileReport) : fileReport.path = placement.path := by
  rcases (mem_placements_iff places).mp among with ⟨visit, -, placed⟩
  exact placed.path_of_report same

/-- Reports stand in the order of the files they are about. -/
theorem map_path_reports (places : List.Forall₂ (Places kind policy) visits placements) :
    ((placements.filterMap Placement.report).map FileReport.path).Sublist
      (placements.map Placement.path) := by
  induction places with
  | nil => exact .slnil
  | @cons _ placement _ rest first _ inductionHypothesis =>
      rw [List.filterMap_cons]
      cases reported : placement.report with
      | none => exact inductionHypothesis.cons _
      | some report =>
          rw [List.map_cons, List.map_cons, first.path_of_report reported]
          exact inductionHypothesis.cons_cons _

theorem precedes_of_inOrder {first second : List String}
    (inOrder : Files.inOrder first second = true) (different : first ≠ second) :
    Precedes first second := by
  simp only [Precedes, Files.inOrder, Bool.not_eq_true', decide_eq_false_iff_not,
    Bool.not_eq_false', decide_eq_true_eq] at inOrder ⊢
  by_contra later
  exact different (List.le_antisymm (List.not_lt.mp inOrder) (List.not_lt.mp later))

/-- Things with different paths, put in the order of these, precede one another. -/
theorem pairwise_precedes_mergeSort {α : Type} {path : α → List String} {things : List α}
    (distinct : (things.map path).Nodup) :
    (things.mergeSort fun first second => Files.inOrder (path first) (path second)).Pairwise
      fun first second => Precedes (path first) (path second) := by
  have ordered : (things.mergeSort fun first second =>
      Files.inOrder (path first) (path second)).Pairwise fun first second =>
        Files.inOrder (path first) (path second) = true := by
    refine List.pairwise_mergeSort (fun first second third before behind => ?_)
      (fun first second => ?_) _
    · simp only [Files.inOrder, Bool.not_eq_true', decide_eq_false_iff_not, List.not_lt]
        at before behind ⊢
      exact List.le_trans before behind
    · simp only [Files.inOrder, Bool.or_eq_true, Bool.not_eq_true', decide_eq_false_iff_not,
        List.not_lt]
      exact List.le_total _ _
  have different : (things.mergeSort fun first second =>
      Files.inOrder (path first) (path second)).Pairwise fun first second =>
        path first ≠ path second := by
    rw [← List.pairwise_map]
    exact ((List.mergeSort_perm things _).map path).nodup_iff.mpr distinct
  exact (ordered.and different).imp fun both => precedes_of_inOrder both.1 both.2

/-- Of two paths, not each stands before the other. -/
theorem Precedes.asymm {first second : List String} (precedes : Precedes first second) :
    ¬ Precedes second first := by
  simp only [Precedes, Files.inOrder, Bool.not_eq_false', decide_eq_true_eq] at precedes ⊢
  exact List.lt_asymm precedes

/-- The copied files are those that are not reported. -/
theorem isCopy_iff {placement : Placement} : placement.isCopy = true ↔
    (∃ content, placement.shape = .file content) ∧ placement.report = none := by
  rcases placement with ⟨path, shape, report⟩
  cases shape <;> cases report <;> simp [Placement.isCopy]

/-- The copied files are the files that come without a report. -/
theorem mem_copied_iff {path : List String} :
    path ∈ (placements.filter Placement.isCopy).map Placement.path ↔
      ∃ content, ⟨path, .file content, none⟩ ∈ placements := by
  rw [List.mem_map]
  constructor
  · rintro ⟨⟨path, shape, report⟩, copy, rfl⟩
    rcases List.mem_filter.mp copy with ⟨among, isCopy⟩
    rcases isCopy_iff.mp isCopy with ⟨⟨content, rfl⟩, rfl⟩
    exact ⟨content, among⟩
  · rintro ⟨content, among⟩
    exact ⟨_, List.mem_filter.mpr ⟨among, rfl⟩, rfl⟩

/-- Of different counterparts, the copied ones are the files that no report is about. -/
theorem file_none_mem_iff (places : List.Forall₂ (Places kind policy) visits placements)
    (distinct : (placements.map Placement.path).Nodup) {path : List String} {content : ByteArray} :
    ⟨path, .file content, none⟩ ∈ placements ↔
      (path, Shape.file content) ∈ placements.map Placement.counterpart ∧
        ∀ fileReport ∈ placements.filterMap Placement.report, fileReport.path ≠ path := by
  rw [mem_map_counterpart]
  constructor
  · intro among
    refine ⟨⟨none, among⟩, fun fileReport listed same => ?_⟩
    rcases List.mem_filterMap.mp listed with ⟨other, among', reported⟩
    rw [path_of_report_of_mem places among' reported] at same
    cases List.inj_on_of_nodup_map distinct among' among same
    cases reported
  · rintro ⟨⟨report, among⟩, unreported⟩
    cases report with
    | none => exact among
    | some fileReport =>
        have about := path_of_report_of_mem places among rfl
        have listed : fileReport ∈ placements.filterMap Placement.report :=
          List.mem_filterMap.mpr ⟨_, among, rfl⟩
        exact absurd about (unreported fileReport listed)

section Made

variable (empty : made.at? out = some (.directory []))
  (covers : Covers (stagingWalk root out) made root visits)
  (places : List.Forall₂ (Places kind policy) visits placements)

include empty covers places

theorem directory_mem_iff {path : List String} {fileReport : Option FileReport} :
    ⟨path, .directory, fileReport⟩ ∈ placements ↔ path ≠ [] ∧
      made.shape? (root ++ path) = some .directory ∧ IsPart made root out path ∧
      fileReport = none := by
  rw [mem_placements_iff_of_covers empty covers places]
  constructor
  · rintro ⟨path', shape, inside, found, part, placed⟩
    cases shape <;> cases placed
    exact ⟨inside, found, part, rfl⟩
  · rintro ⟨inside, found, part, rfl⟩
    exact ⟨path, _, inside, found, part, .directory path⟩

theorem file_mem_iff {path : List String} {content : ByteArray}
    {fileReport : Option FileReport} :
    ⟨path, .file content, fileReport⟩ ∈ placements ↔ ∃ original, path ≠ [] ∧
      made.shape? (root ++ path) = some (.file original) ∧ IsPart made root out path ∧
      Treats kind policy path original ⟨content, fileReport⟩ := by
  rw [mem_placements_iff_of_covers empty covers places]
  constructor
  · rintro ⟨path', shape, inside, found, part, placed⟩
    cases shape with
    | directory => cases placed
    | link target => cases placed
    | file original =>
        cases placed with
        | file treats => exact ⟨original, inside, found, part, treats⟩
  · rintro ⟨original, inside, found, part, treats⟩
    exact ⟨path, _, inside, found, part, .file treats⟩

theorem link_not_mem {path : List String} {target : String} {fileReport : Option FileReport} :
    ⟨path, .link target, fileReport⟩ ∉ placements := by
  rw [mem_placements_iff_of_covers empty covers places]
  rintro ⟨path', shape, -, -, -, placed⟩
  cases shape <;> cases placed

/-- What is reported are the files that mention the marker. -/
theorem mem_reports_iff {fileReport : FileReport} :
    fileReport ∈ placements.filterMap Placement.report ↔ ∃ path original staged, path ≠ [] ∧
      made.shape? (root ++ path) = some (.file original) ∧ IsPart made root out path ∧
      Treats kind policy path original staged ∧ staged.report = some fileReport := by
  rw [List.mem_filterMap]
  constructor
  · rintro ⟨⟨path, shape, _⟩, among, rfl⟩
    cases shape with
    | directory => cases ((directory_mem_iff empty covers places).mp among).2.2.2
    | link target => exact absurd among (link_not_mem empty covers places)
    | file content =>
        rcases (file_mem_iff empty covers places).mp among with
          ⟨original, inside, found, part, treats⟩
        exact ⟨path, original, _, inside, found, part, treats, rfl⟩
  · rintro ⟨path, original, ⟨content, _⟩, inside, found, part, treats, rfl⟩
    exact ⟨_, (file_mem_iff empty covers places).mpr ⟨original, inside, found, part, treats⟩, rfl⟩

end Made

section Accounted

variable {last : Progress} (accounts : Accounts made out placements last)

include accounts

/-- What there is below the output are the counterparts. -/
theorem Accounts.shape?_eq_some_iff {path : List String} (inside : path ≠ []) (shape : Shape) :
    last.tree.shape? (out ++ path) = some shape ↔ ∃ report, ⟨path, shape, report⟩ ∈ placements := by
  rw [accounts.mirrors.below path inside, mem_map_counterpart]

theorem Accounts.mem_files_iff {fileReport : FileReport} :
    fileReport ∈ last.reports.mergeSort (fun first second => Files.inOrder first.path second.path) ↔
      fileReport ∈ placements.filterMap Placement.report := by
  rw [List.mem_mergeSort, accounts.reports, List.mem_reverse]

/-- The files without a report are counted. -/
theorem Accounts.exists_copied (places : List.Forall₂ (Places kind policy) visits placements)
    (distinct : (placements.map Placement.path).Nodup) :
    ∃ others : List (List String), others.Nodup ∧ others.length = last.copied ∧
      ∀ path, path ∈ others ↔ path ≠ [] ∧
        (∃ content, last.tree.shape? (out ++ path) = some (.file content)) ∧
        ∀ fileReport ∈ placements.filterMap Placement.report, fileReport.path ≠ path := by
  refine ⟨(placements.filter Placement.isCopy).map Placement.path, ?_, ?_, fun path => ?_⟩
  · exact (List.filter_sublist.map Placement.path).nodup distinct
  · rw [List.length_map, accounts.copied, List.countP_eq_length_filter]
  · simp only [mem_copied_iff, file_none_mem_iff places distinct, exists_and_right]
    constructor
    · rintro ⟨⟨content, among⟩, unreported⟩
      have inside : path ≠ [] := accounts.mirrors.inside path (List.mem_map.mpr ⟨_, among, rfl⟩)
      have there := (accounts.mirrors.below path inside _).mpr among
      exact ⟨inside, ⟨content, there⟩, unreported⟩
    · rintro ⟨inside, ⟨content, there⟩, unreported⟩
      exact ⟨⟨content, (accounts.mirrors.below path inside _).mp there⟩, unreported⟩

/-- What has been made for a walk, and the account of it, are as they should be. -/
theorem isStaged_of_accounts (empty : made.at? out = some (.directory []))
    (covers : Covers (stagingWalk root out) made root visits)
    (places : List.Forall₂ (Places kind policy) visits placements)
    (finished : last.finish = ⟨final, log, .ok report⟩) :
    IsStaged kind policy made root out final report := by
  have distinct : (placements.map Placement.path).Nodup := by
    rw [map_path_placements places]
    exact covers.distinct
  cases finished
  refine ⟨fun path inside => ?_, fun path content inside => ?_, fun path target inside => ?_,
    accounts.mirrors.sound, accounts.mirrors.elsewhere, fun fileReport => ?_, ?_, ?_⟩
  -- What there is below the output, shape by shape.
  · simp only [accounts.shape?_eq_some_iff inside, directory_mem_iff empty covers places]
    simp [inside]
  · simp only [accounts.shape?_eq_some_iff inside, file_mem_iff empty covers places]
    constructor
    · rintro ⟨fileReport, original, -, found, part, treats⟩
      exact ⟨original, _, found, part, treats, rfl⟩
    · rintro ⟨original, staged, found, part, treats, rfl⟩
      exact ⟨staged.report, original, inside, found, part, treats⟩
  · rw [Ne, accounts.shape?_eq_some_iff inside]
    rintro ⟨fileReport, among⟩
    exact link_not_mem empty covers places among
  -- What the report tells: each marked file once, in order, and the number of all others.
  · rw [accounts.mem_files_iff, mem_reports_iff empty covers places]
  · refine pairwise_precedes_mergeSort ?_
    rw [accounts.reports, List.map_reverse]
    exact (List.reverse_perm _).nodup_iff.mpr ((map_path_reports places).nodup distinct)
  · simp only [accounts.mem_files_iff]
    exact accounts.exists_copied places distinct

end Accounted

end Result

/-! ## From the start -/

section Start

variable {tree made final : FileTree} {root out : String} {location : Location}
  {log : List LogEvent} {report : Report}

/-- The tree is sound, and a path leads to a directory below which there are no links. -/
structure IsProject (tree : FileTree) (root : String) (location : Location) : Prop where
  sound : tree.IsSound
  reached : tree.resolve root = .ok location
  holds : tree.shape? location = some .directory
  noLinks : ∀ path target, tree.shape? (location ++ path) ≠ some (.link target)

/-- Making directories makes no links. -/
theorem IsProject.grow (project : IsProject tree root location) (grows : tree.GrowsTo made) :
    IsProject made root location where
  sound := grows.sound project.sound
  reached := grows.resolve project.reached
  holds := grows.keeps _ _ project.holds
  noLinks := fun path target found => by
    rcases grows.adds _ _ found with found | same
    · exact project.noLinks path target found
    · cases same

/-- Without links, the rules in a project are apart from the output, unless that is part of the data of
a repository. -/
theorem IsProject.rulesApart (project : IsProject made root location) {outLocation : Location}
    (noPointer : ∀ path content,
      made.shape? (location ++ path ++ [".git"]) ≠ some (.file content))
    (notData : location <+: outLocation →
      ¬ [".git"] <:+ outLocation ∧ ¬ [".git", "info"] <:+ outLocation) :
    RulesApart made location outLocation := by
  refine rulesApart_of_isDirectAt (fun path => ⟨fun below _ target => ?_, noPointer path⟩) notData
  rw [List.append_assoc]
  exact project.noLinks _ target

theorem IsProject.rulesApart_of_all (project : IsProject made root location)
    {outLocation : Location}
    (passes : made.root.all (fun entry => (entry.child? ".git").isNone) = true)
    (notData : location <+: outLocation →
      ¬ [".git"] <:+ outLocation ∧ ¬ [".git", "info"] <:+ outLocation) :
    RulesApart made location outLocation := by
  refine project.rulesApart (fun path content found => ?_) notData
  rw [FileTree.shape?_of_all_child? passes] at found
  cases found

/-- A file of a project is not its root. -/
theorem IsProject.ne_nil (project : IsProject tree root location) {path : List String}
    {content : ByteArray} (found : tree.shape? (location ++ path) = some (.file content)) :
    path ≠ [] := by
  rintro rfl
  rw [List.append_nil, project.holds] at found
  cases found

/-- Either staging is given up before the walk, with nothing made but perhaps the output, or it has
passed every check, has made the output, and goes on to the walk. -/
theorem stage_cases :
    ((stage tree root out kind policy).result.isOk = false ∧
      ((stage tree root out kind policy).tree = tree ∨
        (stage tree root out kind policy).tree = (tree.makeDirectories out).2)) ∨
    ∃ made location outLocation, tree.isDirectory root = true ∧ outputError? tree out = none ∧
      tree.makeDirectories out = (.ok (), made) ∧ made.resolve root = .ok location ∧
      made.resolve out = .ok outLocation ∧
      stage tree root out kind policy = stageFrom made location outLocation kind policy := by
  rw [stage]
  split
  next => exact .inl ⟨rfl, .inl rfl⟩
  next isDirectory =>
    rw [Bool.not_eq_true, Bool.not_eq_false'] at isDirectory
    split
    next => exact .inl ⟨rfl, .inl rfl⟩
    next passed =>
      split
      next makes => exact .inl ⟨rfl, .inr (congrArg Prod.snd makes).symm⟩
      next made makes =>
        have onlyOutput : made = (tree.makeDirectories out).2 := (congrArg Prod.snd makes).symm
        split
        next => exact .inl ⟨rfl, .inr onlyOutput⟩
        next location reached =>
          split
          next => exact .inl ⟨rfl, .inr onlyOutput⟩
          next outLocation reached' =>
            exact .inr ⟨made, location, outLocation, isDirectory, passed, makes, reached, reached',
              rfl⟩

/-- Staging that is not given up has passed every check, and has made the output. -/
theorem exists_of_stage (staged : stage tree root out kind policy = ⟨final, log, .ok report⟩) :
    outputError? tree out = none ∧ ∃ made location outLocation,
      tree.makeDirectories out = (.ok (), made) ∧ made.resolve root = .ok location ∧
      made.resolve out = .ok outLocation ∧
      stageFrom made location outLocation kind policy = ⟨final, log, .ok report⟩ := by
  rcases @stage_cases kind policy tree root out with ⟨fails, -⟩ |
    ⟨made, location, outLocation, -, passed, makes, reached, reached', same⟩
  · rw [staged] at fails
    cases fails
  · exact ⟨passed, made, location, outLocation, makes, reached, reached', same.symm.trans staged⟩

/-- An output that passes the check and is there is empty. -/
theorem at?_of_outputError? (sound : tree.IsSound) (passed : outputError? tree out = none)
    {outLocation : Location} (reached : tree.resolve out = .ok outLocation) :
    tree.at? outLocation = some (.directory []) := by
  rcases FileTree.leads_of_follow (FileTree.follow_of_resolve reached) with ⟨used, -, leads⟩
  rcases leads.exists_shape? (FileTree.shape?_startOf sound out) with ⟨shape, found⟩
  rw [FileTree.shape?, Option.map_eq_some_iff] at found
  rcases found with ⟨entry, found, -⟩
  have leadsTo := FileTree.entry_eq_ok_iff.mpr ⟨outLocation, reached, found⟩
  rw [outputError?, FileTree.isPresent, FileTree.list, leadsTo] at passed
  cases entry with
  | file content => cases passed
  | link target => cases passed
  | directory entries =>
      cases entries with
      | nil => exact found
      | cons first rest => cases passed

/-- A walk through a project is fit to be staged. -/
theorem IsProject.isItinerary (project : IsProject tree root location) {walk : Walk}
    {visits : List Visit} (covers : Covers walk tree location visits) : IsItinerary [] visits where
  known := covers.ordered.mono fun _ none => .inl none
  named := fun visit member => by
    rcases (covers.mem_iff visit).mp member with ⟨path, shape, inside, found, rfl, -⟩
    rcases List.eq_nil_or_concat path with rfl | ⟨above, name, rfl⟩
    · exact absurd rfl inside
    · rw [List.concat_eq_append] at found ⊢
      rw [← List.append_assoc] at found
      exact ⟨above, name, Visit.path_ofShape _ _, FileTree.isName_of_shape? project.sound found⟩
  distinct := by simpa using covers.distinct
  noLinks := fun path member => by
    rcases (covers.mem_iff _).mp member with ⟨path', shape, -, found, same, -⟩
    cases shape with
    | file content => cases same
    | directory => cases same
    | link target => exact project.noLinks path' target found

/-- The counterpart of the project itself is the output, which is there. -/
theorem stageVisit_directory_nil {out : Location} {progress : Progress}
    (holds : progress.tree.shape? out = some .directory) :
    stageVisit kind policy out progress (.directory []) = .ok progress := by
  rcases FileTree.shape?_eq_directory_iff.mp holds with ⟨entries, found⟩
  have reached : progress.tree.follow FileTree.linkLimit out [] = .ok out :=
    FileTree.follow_of_leads (.done _) (Nat.zero_le _)
  have there (obstacle : Files.Obstacle) :
      progress.tree.unlessDirectory out [] obstacle = .ok () := by
    rw [FileTree.unlessDirectory, reached]
    dsimp only
    rw [found]
  have taken : progress.tree.makeDirectory out [] = .error .alreadyExists := rfl
  rw [stageVisit, Progress.addDirectory, taken]
  dsimp only
  rw [there]

/-- The tree has come about by staging.  If the project is in the output, there is nothing to
stage. -/
structure IsFilled (made : FileTree) (location out : Location) (progress : Progress) : Prop where
  exists_traces : ∃ steps, Traces (stagingWalk location out) made location out progress.tree steps
  eq_made : out <+: location → progress.tree = made

/-- While the output is filled, the walk finds the project as it was at first. -/
theorem IsFilled.sees {out : Location} {progress : Progress}
    (filled : IsFilled made location out progress) (project : IsProject made root location)
    (empty : made.at? out = some (.directory [])) (apart : RulesApart made location out) :
    (stagingWalk location out).Sees made progress.tree location := by
  by_cases within : out <+: location
  · rw [filled.eq_made within]
    exact .refl project.sound location
  · rcases filled.exists_traces with ⟨steps, traces⟩
    have same := traces.sameOutside (FileTree.isLinkFree_of_empty empty)
    have outside (path : List String)
        (includes : (stagingWalk location out).Includes made location path) :
        ¬ out <+: location ++ path :=
      not_prefix_of_admits within fun above within inside => (includes above within inside).2
    refine ⟨traces.sound project.sound, fun path includes name => ?_, fun path includes => ?_⟩
    · rw [← List.append_assoc]
      refine same.shape?_eq (outside path includes) fun above within proper here => ?_
      cases above with
      | nil =>
          rw [List.append_nil] at here
          exact outside path includes (here ▸ List.prefix_rfl)
      | cons first rest =>
          rcases List.cons_prefix_cons.mp within with ⟨rfl, further⟩
          rw [List.prefix_nil.mp further] at proper
          exact proper rfl
    · exact apart _ same _ (List.prefix_append _ _) (outside path includes)

theorem keeps_staging (project : IsProject made root location) {out : Location}
    (empty : made.at? out = some (.directory [])) (apart : RulesApart made location out) :
    (staging kind policy out).Keeps (stagingWalk location out) made location
      (IsFilled made location out) where
  sees := fun _ filled => filled.sees project empty apart
  visit := fun progress path shape next filled found includes done => by
    rcases filled.exists_traces with ⟨steps, traces⟩
    have comes : (stagingWalk location out).ComesTo made location path (location ++ path) :=
      .of_includes project.sound found (fun target same => project.noLinks _ target (same ▸ found))
        includes
    rw [← Visit.path_ofShape path shape] at comes
    refine ⟨?_, fun within => ?_⟩
    · rcases stageVisit_cases kind policy out progress comes.isNames with
        ⟨next', done', changes⟩ | ⟨changed, failed, -⟩
      · cases done.symm.trans done'
        exact ⟨_, traces.step (comes.mono traces.keeps) changes⟩
      · cases done.symm.trans failed
    -- Nothing stands below a project that is in the output.
    · have same := filled.eq_made within
      cases path with
      | cons name rest =>
          exact absurd within (not_prefix_of_below empty (List.cons_ne_nil name rest) found)
      | nil =>
          rw [List.append_nil, project.holds] at found
          cases found
          have again : stageVisit kind policy out progress (.directory []) = .ok progress :=
            stageVisit_directory_nil (same ▸ FileTree.shape?_of_at? empty)
          cases done.symm.trans again
          exact same

/-- What staging into an empty directory does, as visits that are known beforehand. -/
theorem exists_covers_stageFrom (project : IsProject made root location) {outLocation : Location}
    (empty : made.at? outLocation = some (.directory []))
    (apart : RulesApart made location outLocation) :
    ∃ visits, Covers (stagingWalk location outLocation) made location visits ∧
      stageFrom made location outLocation kind policy =
        match (Ignore.layersAbove made location).reverse.flatMap Ignore.Layer.reports with
        | [] =>
          match (staging kind policy outLocation).visitAll ⟨made, [], [], 0⟩ visits with
          | .ok last => last.finish
          | .error changed => changed
        | reports => (Progress.mk made [] [] 0).giveUp (.walkFailed (.faultyRules reports)) := by
  have start : IsFilled made location outLocation ⟨made, [], [], 0⟩ := ⟨⟨[], .start⟩, fun _ => rfl⟩
  rcases @Walk.exists_covers _ _ (stagingWalk location outLocation)
    (staging kind policy outLocation) location _ ⟨made, [], [], 0⟩
    (keeps_staging project empty apart) start project.sound project.holds project.noLinks with
    ⟨visits, covers, same⟩
  refine ⟨visits, covers, ?_⟩
  have first : (staging kind policy outLocation).visit ⟨made, [], [], 0⟩ (.directory []) =
      .ok ⟨made, [], [], 0⟩ :=
    @stageVisit_directory_nil kind policy _ ⟨made, [], [], 0⟩ (FileTree.shape?_of_at? empty)
  have sameTree : (staging kind policy outLocation).tree ⟨made, [], [], 0⟩ = made := rfl
  rw [stageFrom, same, sameTree]
  cases (Ignore.layersAbove made location).reverse.flatMap Ignore.Layer.reports with
  | cons report reports => rfl
  | nil =>
      have rest := Walk.Errand.visitAll_of_ok first visits
      cases done : (staging kind policy outLocation).visitAll ⟨made, [], [], 0⟩ visits <;>
        simp only [rest, done]

/-- Into an empty directory, staging leads to exactly what is to be staged. -/
theorem isStaged_of_stageFrom (project : IsProject made root location) {outLocation : Location}
    (empty : made.at? outLocation = some (.directory []))
    (apart : RulesApart made location outLocation)
    (staged : stageFrom made location outLocation kind policy = ⟨final, log, .ok report⟩) :
    IsStaged kind policy made location outLocation final report := by
  rcases @exists_covers_stageFrom kind policy _ _ _ project _ empty apart with
    ⟨visits, covers, same⟩
  rw [same] at staged
  split at staged
  next =>
    have accounts := Accounts.start project.sound empty
    rcases @visitAll_staging_cases kind policy _ _ (FileTree.shape?_of_at? empty) _ _ _ accounts
      (project.isItinerary covers) with
      ⟨placements, last, done, places, accounts⟩ | ⟨_, _, error, changed, -, -, failed, fails⟩
    · rw [done] at staged
      exact isStaged_of_accounts accounts empty covers places staged
    · rw [failed] at staged
      dsimp only at staged
      rw [staged] at fails
      cases fails
  next => cases staged

/-- Staging into an output that is there or new starts with an empty directory. -/
theorem exists_empty_of_stage (project : IsProject tree root location) (fresh : tree.IsFresh out)
    (staged : stage tree root out kind policy = ⟨final, log, .ok report⟩) :
    ∃ made outLocation, tree.makeDirectories out = (.ok (), made) ∧
      made.resolve root = .ok location ∧ made.resolve out = .ok outLocation ∧
      made.at? outLocation = some (.directory []) ∧
      stageFrom made location outLocation kind policy = ⟨final, log, .ok report⟩ := by
  rcases exists_of_stage staged with ⟨passed, made, location', outLocation, makes, reached,
    reached', staged⟩
  have project' := project.grow (FileTree.growsTo_of_makeDirectories makes)
  cases project'.reached.symm.trans reached
  have empty := FileTree.at?_of_makeDirectories fresh
    (fun _ found => at?_of_outputError? project.sound passed found) makes reached'
  exact ⟨made, outLocation, makes, reached, reached', empty, staged⟩

/-- Staging leads to exactly what is to be staged, if the path of the output does not go up again
behind what is missing, and the rules in the project do not depend on what is in the output. -/
theorem isStaged_of_stage (project : IsProject tree root location) (fresh : tree.IsFresh out)
    (staged : stage tree root out kind policy = ⟨final, log, .ok report⟩) :
    ∃ made outLocation, tree.makeDirectories out = (.ok (), made) ∧
      made.resolve root = .ok location ∧ made.resolve out = .ok outLocation ∧
      (RulesApart made location outLocation →
        IsStaged kind policy made location outLocation final report) := by
  rcases exists_empty_of_stage project fresh staged with
    ⟨made, outLocation, makes, reached, reached', empty, staged⟩
  have project' := project.grow (FileTree.growsTo_of_makeDirectories makes)
  exact ⟨made, outLocation, makes, reached, reached',
    fun apart => isStaged_of_stageFrom project' empty apart staged⟩

/-- A project that holds its own output, program text with and without the marker, other files, and
rules. -/
theorem isStaged_nested :
    let source := "#[method_logger]\nfn main() \x7b\x7d\n"
    let project := Entry.directory [
      ("src", .directory [
        ("main.rs", .file source.toUTF8), ("lib.rs", .file "fn f() \x7b\x7d".toUTF8)]),
      (".ignore", .file "*.log\n".toUTF8), ("a.log", .file source.toUTF8),
      ("target", .directory [])]
    let tree : FileTree := ⟨.directory [("project", project)], []⟩
    ∃ final log report made,
      stage tree "project" "project/made/out" .methodLogger .strip = ⟨final, log, .ok report⟩ ∧
        IsStaged .methodLogger .strip made ["project"] ["project", "made", "out"] final report := by
  intro source project tree
  have sound : tree.IsSound := ⟨Entry.isSound_of_all (by decide +kernel), rfl⟩
  have noLinks : project.all (fun entry => !entry.isLink) = true := by decide +kernel
  have isProject : IsProject tree "project" ["project"] :=
    ⟨sound, by decide +kernel, rfl, Entry.shape_ne_link_of_all noLinks⟩
  have fresh : tree.IsFresh "project/made/out" := FileTree.isFresh_of_not_mem (by decide +kernel)
  have succeeds :
      (stage tree "project" "project/made/out" .methodLogger .strip).result.isOk = true := by
    decide +kernel
  have reached : (tree.makeDirectories "project/made/out").2.resolve "project/made/out" =
      .ok ["project", "made", "out"] := by decide +kernel
  have noPointer : (tree.makeDirectories "project/made/out").2.root.all
      (fun entry => (entry.child? ".git").isNone) = true := by decide +kernel
  cases staged : stage tree "project" "project/made/out" .methodLogger .strip with
  | mk final log result =>
      rw [staged] at succeeds
      cases result with
      | error error => cases succeeds
      | ok report =>
          rcases isStaged_of_stage isProject fresh staged with
            ⟨made, outLocation, makes, -, reached', isStaged⟩
          rw [makes] at noPointer
          rw [makes, reached'] at reached
          cases reached
          have isProject' := isProject.grow (FileTree.growsTo_of_makeDirectories makes)
          have apart : RulesApart made ["project"] ["project", "made", "out"] :=
            isProject'.rulesApart_of_all noPointer (by decide)
          exact ⟨final, log, report, made, rfl, isStaged apart⟩

/-- The path of the output leads nowhere, since it goes through a directory that is missing; once
that is made, it leads to a directory that holds something. -/
theorem not_isStaged_upward :
    let tree : FileTree := ⟨.directory [("proj", .directory [("a.txt", .file "b".toUTF8)]),
      ("other", .directory [("c", .file "d".toUTF8)])], []⟩
    let changed := stage tree "proj" "new/../other" .methodLogger .strip
    tree.isPresent "new/../other" = false ∧ changed.result.isOk = true ∧
      ¬ ∃ made location outLocation report, tree.makeDirectories "new/../other" = (.ok (), made) ∧
        made.resolve "proj" = .ok location ∧ made.resolve "new/../other" = .ok outLocation ∧
        IsStaged .methodLogger .strip made location outLocation changed.tree report := by
  intro tree changed
  refine ⟨by decide +kernel, by decide +kernel, ?_⟩
  rintro ⟨made, location, outLocation, report, makes, reached, reached', staged⟩
  have project : (tree.makeDirectories "new/../other").2.resolve "proj" = .ok ["proj"] := by
    decide +kernel
  have output : (tree.makeDirectories "new/../other").2.resolve "new/../other" = .ok ["other"] := by
    decide +kernel
  have missing : ((tree.makeDirectories "new/../other").2.shape? ["proj", "c"]).isSome = false := by
    decide +kernel
  have there : (changed.tree.shape? ["other", "c"]).isSome = true := by decide +kernel
  rw [makes] at project output missing
  cases reached.symm.trans project
  cases reached'.symm.trans output
  have original := staged.exists_original (List.cons_ne_nil "c" []) there
  cases original.symm.trans missing

/-- The output is in the place of the data of a repository.  What has been staged by the time the walk
comes to the directory around it are rules there, and leave out a part of the project. -/
theorem not_isStaged_repository :
    let tree : FileTree := ⟨.directory [("proj", .directory [
      ("info", .directory [("exclude", .file "secret".toUTF8)]),
      ("sub", .directory [("secret", .directory [])])])], []⟩
    let changed := stage tree "proj" "proj/sub/.git" .methodLogger .strip
    changed.result.isOk = true ∧
      ¬ ∃ made location outLocation report, tree.makeDirectories "proj/sub/.git" = (.ok (), made) ∧
        made.resolve "proj" = .ok location ∧ made.resolve "proj/sub/.git" = .ok outLocation ∧
        IsStaged .methodLogger .strip made location outLocation changed.tree report := by
  intro tree changed
  refine ⟨by decide +kernel, ?_⟩
  rintro ⟨made, location, outLocation, report, makes, reached, reached', staged⟩
  have project : (tree.makeDirectories "proj/sub/.git").2.resolve "proj" = .ok ["proj"] := by
    decide +kernel
  have output : (tree.makeDirectories "proj/sub/.git").2.resolve "proj/sub/.git" =
      .ok ["proj", "sub", ".git"] := by decide +kernel
  have original : ((tree.makeDirectories "proj/sub/.git").2.at? ["proj", "sub", "secret"]).any
      Entry.isDirectory = true := by decide +kernel
  have allowed : ∀ above ∈ ["sub", "secret"].inits, above ≠ [] →
      Ignore.verdict
        (Ignore.layersAbove (tree.makeDirectories "proj/sub/.git").2 (["proj"] ++ above))
        (["proj"] ++ above)
        (((tree.makeDirectories "proj/sub/.git").2.at? (["proj"] ++ above)).any
          Entry.isDirectory) ≠ some .excluded := by decide +kernel
  have missing : (changed.tree.shape? ["proj", "sub", ".git", "sub", "secret"]).isSome = false := by
    decide +kernel
  rw [makes] at project output original allowed
  cases reached.symm.trans project
  cases reached'.symm.trans output
  rcases (Option.any_eq_true _ _).mp original with ⟨entry, found, isDirectory⟩
  have there : made.shape? ["proj", "sub", "secret"] = some .directory := by
    rw [FileTree.shape?_of_at? found, Entry.isDirectory_iff.mp isDirectory]
  have part : IsPart made ["proj"] ["proj", "sub", ".git"] ["sub", "secret"] :=
    ⟨fun above within => allowed above ((List.mem_inits _ _).mpr within), by decide, by decide⟩
  have counterpart := (staged.directory_iff ["sub", "secret"] (by decide)).mpr ⟨there, part⟩
  rw [List.cons_append, List.cons_append, List.cons_append, List.nil_append] at counterpart
  rw [counterpart] at missing
  cases missing

end Start

end Project
end Instrument
