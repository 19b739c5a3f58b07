import Instrument.Proofs.Staging.Rules
import Instrument.Proofs.Staging.Success
import Instrument.Proofs.Traversal
import Mathlib.Data.List.Sort

/-!
# What a listing tells beforehand

Before a project is staged, the files that staging will instrument can be listed: the files with
program text that mention the marker, in the order of the later report.  A listing walks through the
project before the output is made, and does not leave the output out; staging walks through it
afterwards.  The two agree as long as making and filling the output brings no rules into force and
puts none out of force.  Making it could do so if it makes a directory that marks a repository, or one
that a link to a file with rules leads through.

One root is different for another reason.  A single dash is the name of a directory when a project is
staged, and stands for the standard input when its files are listed.
-/

namespace Instrument
namespace Project

open Files (Entry FileTree Location Shape)
open Walk (Visit Covers)

variable {kind : MarkerKind} {policy : MarkerPolicy}

/-! ## The files that are listed -/

/-- Below the root of a walk, a file is a source if its name says so. -/
theorem sourceIn?_ofShape {root : String} {path : List String} (inside : path ≠ []) (shape : Shape)
    (source : SourceEntry) : sourceIn? root (.ofShape path shape) = some source ↔
      source.path = path ∧ shape = .file source.content ∧ Files.isSourcePath path = true := by
  rcases source with ⟨path', content'⟩
  cases path with
  | nil => exact absurd rfl inside
  | cons name rest =>
      cases shape with
      | directory => simp [Visit.ofShape, sourceIn?]
      | link target => simp [Visit.ofShape, sourceIn?]
      | file content =>
          dsimp only [Visit.ofShape, sourceIn?]
          split
          next isSource =>
            rw [Option.some.injEq, SourceEntry.mk.injEq, Shape.file.injEq]
            simp only [isSource, and_true, eq_comm]
          next noSource => simp [noSource]

/-- A source stands where the walk has found it. -/
theorem path_of_sourceIn? {root : String} {visit : Visit} {source : SourceEntry}
    (isSource : sourceIn? root visit = some source) : source.path = visit.path := by
  unfold sourceIn? at isSource
  split at isSource
  next =>
    split at isSource
    next => cases isSource; rfl
    next => cases isSource
  next =>
    split at isSource
    next => cases isSource; rfl
    next => cases isSource
  next => cases isSource

section Listing

variable {tree : FileTree} {root : String} {location : Location}

/-- The sources of a project: every file with program text that is not left out, in the order of
their paths. -/
structure AreSources (tree : FileTree) (location : Location) (sources : List SourceEntry) : Prop where
  mem_iff : ∀ source, source ∈ sources ↔
    tree.shape? (location ++ source.path) = some (.file source.content) ∧
    Files.isSourcePath source.path = true ∧
    sourceWalk.Includes tree location source.path
  increasing : sources.Pairwise fun first second => Precedes first.path second.path

/-- A project of which the rules above are not faulty can be listed. -/
theorem exists_findSources (project : IsProject tree root location) (named : root ≠ "-")
    (clean : (Ignore.layersAbove tree location).reverse.flatMap Ignore.Layer.reports = []) :
    ∃ sources, findSources tree root = .ok sources ∧ AreSources tree location sources := by
  rcases @Walk.exists_visited sourceWalk _ project.sound _ named _ project.reached project.holds
    project.noLinks with ⟨visits, covers, same⟩
  rw [clean] at same
  -- The root itself is no file, so it does not matter what its own path says.
  have found : (Visit.directory [] :: visits).filterMap (sourceIn? root) =
      visits.filterMap (sourceIn? root) := rfl
  refine ⟨_, by rw [findSources, same], ?_, ?_⟩
  · intro source
    rw [found, List.mem_mergeSort, List.mem_filterMap]
    constructor
    · rintro ⟨visit, member, isSource⟩
      rcases (covers.mem_iff visit).mp member with ⟨path, shape, inside, there, rfl, includes⟩
      rcases (sourceIn?_ofShape inside shape source).mp isSource with ⟨rfl, rfl, named⟩
      exact ⟨there, named, includes⟩
    · rintro ⟨there, isSource, includes⟩
      have inside := project.ne_nil there
      exact ⟨_, (covers.mem_iff _).mpr ⟨source.path, _, inside, there, rfl, includes⟩,
        (sourceIn?_ofShape inside _ source).mpr ⟨rfl, rfl, isSource⟩⟩
  · refine pairwise_precedes_mergeSort ?_
    rw [found, List.Nodup, List.pairwise_map]
    refine List.Pairwise.filterMap _ (fun first second different source isSource other isOther => ?_)
      (List.pairwise_map.mp covers.distinct)
    rw [path_of_sourceIn? isSource, path_of_sourceIn? isOther]
    exact different

end Listing

/-! ## What is listed and what is staged -/

section Parts

variable {tree made : FileTree} {location outLocation : Location} {path : List String}

/-- Whether a directory stands somewhere is told by what stands there. -/
theorem any_isDirectory_iff {tree : FileTree} :
    (tree.at? location).any Entry.isDirectory = true ↔ tree.shape? location = some .directory := by
  refine ⟨FileTree.shape?_of_isDirectory, fun holds => ?_⟩
  rcases FileTree.shape?_eq_directory_iff.mp holds with ⟨entries, found⟩
  rw [found]
  rfl

/-- A listing includes a file exactly if the file is to be staged. -/
theorem includes_sourceWalk_iff (keeps : KeepsRules tree made location)
    (grows : tree.GrowsTo made) (empty : made.at? outLocation = some (.directory []))
    {content : ByteArray} (found : tree.shape? (location ++ path) = some (.file content)) :
    sourceWalk.Includes tree location path ↔ IsPart made location outLocation path := by
  -- Everything on the way to the file was there before the output was made.
  have sameVerdict (above : List String) (within : above <+: path) :
      Ignore.verdict (Ignore.layersAbove made (location ++ above)) (location ++ above)
          ((made.at? (location ++ above)).any Entry.isDirectory) =
        Ignore.verdict (Ignore.layersAbove tree (location ++ above)) (location ++ above)
          ((tree.at? (location ++ above)).any Entry.isDirectory) := by
    have there : ∃ shape, tree.shape? (location ++ above) = some shape := by
      rcases within with ⟨rest, rfl⟩
      cases rest with
      | nil => exact ⟨_, List.append_nil above ▸ found⟩
      | cons name rest =>
          rw [← List.append_assoc] at found
          exact ⟨_, FileTree.shape?_append_cons found⟩
    rcases there with ⟨shape, there⟩
    have sameTest : (made.at? (location ++ above)).any Entry.isDirectory =
        (tree.at? (location ++ above)).any Entry.isDirectory := by
      rw [Bool.eq_iff_iff, any_isDirectory_iff, any_isDirectory_iff, there,
        grows.keeps _ _ there]
    rw [keeps.layersAbove_eq, sameTest]
  have notOutput : ¬ outLocation <+: location ++ path := by
    rintro ⟨rest, same⟩
    have found' := grows.keeps _ _ found
    rw [← same] at found'
    cases rest with
    | nil =>
        rw [List.append_nil, FileTree.shape?_of_at? empty] at found'
        cases found'
    | cons name rest =>
        rw [FileTree.shape?_of_empty empty (List.cons_ne_nil _ _)] at found'
        cases found'
  constructor
  · intro includes
    refine ⟨fun above within inside => ?_, fun build => ?_, notOutput⟩
    · rw [sameVerdict above within]
      exact (includes above within inside).1
    · have admits := (includes _ build (List.cons_ne_nil _ _)).2
      simp [sourceWalk, isBuildOutput] at admits
  · intro part above within inside
    have allowed := part.allowed above within inside
    rw [sameVerdict above within] at allowed
    have notBuild : above ≠ ["target"] := by
      rintro rfl
      exact part.notBuild within
    exact ⟨allowed, by simp [sourceWalk, isBuildOutput, notBuild]⟩

end Parts

/-! ## Listing before staging -/

/-- The content of a source is text that mentions a kind of marker. -/
def SourceEntry.isMarked (kind : MarkerKind) (source : SourceEntry) : Bool :=
  match FileTree.decode source.content with
  | .ok text => mentions kind text
  | .error _ => false

/-- A source tells beforehand what is reported about it: under the same path, the tagged functions
with a body as instrumented, those without one as skipped, and the same ignored markers. -/
structure Foretells (kind : MarkerKind) (source : SourceEntry) (report : FileReport) : Prop where
  path : source.path = report.path
  scan : ∃ text file, FileTree.decode source.content = .ok text ∧ SourceFile.parse text = .ok file ∧
    report.instrumented = ((kind.scan file.tree).tagged.filter fun declaration =>
      declaration.hasBody == true).map (fun declaration => declaration.name) ∧
    report.skipped = ((kind.scan file.tree).tagged.filter fun declaration =>
      declaration.hasBody == false).map (fun declaration => declaration.name) ∧
    report.ignored = (kind.scan file.tree).ignored

theorem isMarked_of_mentions {source : SourceEntry} {text : String}
    (decoded : FileTree.decode source.content = .ok text) (mentioned : mentions kind text = true) :
    source.isMarked kind = true := by
  rw [SourceEntry.isMarked, decoded]
  exact mentioned

theorem foretells_of_treats {source : SourceEntry} {staged : StagedFile} {report : FileReport}
    (treats : Treats kind policy source.path source.content staged)
    (reported : staged.report = some report) :
    source.isMarked kind = true ∧ Foretells kind source report := by
  have samePath := treats.path_of_report reported
  cases treats with
  | copies unmarked => cases reported
  | @instruments text source' file isSource decoded mentioned parsed rendered =>
      cases reported
      refine ⟨isMarked_of_mentions decoded mentioned, samePath.symm, text, file, decoded, parsed,
        ?_, ?_, rfl⟩
      · rw [Scan.map_name_filter_tagged]
        exact Instrumentation.instrumentedNames_outcomes kind policy none file.tree
      · rw [Scan.map_name_filter_tagged]
        exact Instrumentation.skippedNames_outcomes kind policy none file.tree

/-- A marked source that can be staged is reported. -/
theorem exists_report_of_isMarked {source : SourceEntry}
    (isSource : Files.isSourcePath source.path = true)
    (isMarked : source.isMarked kind = true)
    (stageable : IsStageable kind policy source.content) :
    ∃ staged report, Treats kind policy source.path source.content staged ∧
      staged.report = some report := by
  rcases stageable with ⟨text, decoded, further⟩
  rw [SourceEntry.isMarked, decoded] at isMarked
  rcases further isMarked with ⟨file, text', parsed, rendered⟩
  exact ⟨_, _, .instruments isSource decoded isMarked parsed rendered, rfl⟩

/-- Lists in strict order that have the same paths have them in the same order. -/
theorem map_path_eq_of_mem_iff {α β : Type} {path : α → List String} {path' : β → List String}
    {first : List α} {second : List β}
    (increasing : first.Pairwise fun one other => Precedes (path one) (path other))
    (increasing' : second.Pairwise fun one other => Precedes (path' one) (path' other))
    (same : ∀ names, names ∈ first.map path ↔ names ∈ second.map path') :
    first.map path = second.map path' := by
  have distinct {γ : Type} {path : γ → List String} {things : List γ}
      (increasing : things.Pairwise fun one other => Precedes (path one) (path other)) :
      (things.map path).Nodup := by
    rw [List.Nodup, List.pairwise_map]
    refine increasing.imp fun precedes equal => ?_
    rw [equal] at precedes
    exact precedes.asymm precedes
  exact List.Perm.eq_of_pairwise
    (fun _ _ _ _ precedes precedes' => absurd precedes' precedes.asymm)
    (List.pairwise_map.mpr increasing) (List.pairwise_map.mpr increasing')
    ((List.perm_ext_iff_of_nodup (distinct increasing) (distinct increasing')).mpr same)

/-- Lists with the same paths are related one by one, if what has the same path is. -/
theorem forall₂_of_map_path_eq {α β : Type} {path : α → List String} {path' : β → List String}
    {related : α → β → Prop} {first : List α} {second : List β}
    (same : first.map path = second.map path')
    (relates : ∀ one ∈ first, ∀ other ∈ second, path one = path' other → related one other) :
    List.Forall₂ related first second := by
  have paired : List.Forall₂ (fun one other => path one = path' other) first second := by
    rw [← List.forall₂_map_right_iff, ← List.forall₂_map_left_iff, List.forall₂_eq_eq_eq]
    exact same
  refine List.forall₂_iff_zip.mpr ⟨paired.length_eq, fun among => ?_⟩
  rcases List.of_mem_zip among with ⟨member, member'⟩
  exact relates _ member _ member' (List.forall₂_zip paired among)

section Reports

variable {tree made final : FileTree} {location outLocation : Location} {report : Report}
  {sources : List SourceEntry}
  (listed : AreSources tree location sources) (grows : tree.GrowsTo made)
  (isStaged : IsStaged kind policy made location outLocation final report)

include listed grows isStaged

/-- A source and a report under the same path are about the same file. -/
theorem foretells_of_path_eq {source : SourceEntry} (member : source ∈ sources)
    {fileReport : FileReport} (reported : fileReport ∈ report.files)
    (same : source.path = fileReport.path) :
    source.isMarked kind = true ∧ Foretells kind source fileReport := by
  rcases (isStaged.reported_iff fileReport).mp reported with
    ⟨path, original, staged, inside, found, -, treats, some⟩
  have samePath := treats.path_of_report some
  rw [← same] at samePath
  subst samePath
  have found' := grows.keeps _ _ ((listed.mem_iff source).mp member).1
  cases found.symm.trans found'
  exact foretells_of_treats treats some

/-- The sources that mention the marker are the files that are reported. -/
theorem map_path_filter_isMarked (keeps : KeepsRules tree made location)
    (empty : made.at? outLocation = some (.directory []))
    (stageable : ∀ path original, made.shape? (location ++ path) = some (.file original) →
      IsPart made location outLocation path → Files.isSourcePath path = true →
      IsStageable kind policy original) :
    (sources.filter (SourceEntry.isMarked kind)).map SourceEntry.path =
      report.files.map FileReport.path := by
  refine map_path_eq_of_mem_iff (listed.increasing.filter _) isStaged.increasing fun path => ?_
  constructor
  · intro member
    rcases List.mem_map.mp member with ⟨source, among, rfl⟩
    rcases List.mem_filter.mp among with ⟨member, isMarked⟩
    rcases (listed.mem_iff source).mp member with ⟨found, isSource, includes⟩
    have part := (includes_sourceWalk_iff keeps grows empty found).mp includes
    have found' := grows.keeps _ _ found
    have inside : source.path ≠ [] := by
      intro none
      rw [none] at isSource
      cases isSource
    rcases exists_report_of_isMarked isSource isMarked
      (stageable source.path source.content found' part isSource) with
      ⟨staged, fileReport, treats, some⟩
    have reported := (isStaged.reported_iff fileReport).mpr
      ⟨source.path, source.content, staged, inside, found', part, treats, some⟩
    exact List.mem_map.mpr ⟨fileReport, reported, treats.path_of_report some⟩
  · intro member
    rcases List.mem_map.mp member with ⟨fileReport, reported, rfl⟩
    rcases (isStaged.reported_iff fileReport).mp reported with
      ⟨path, original, staged, inside, found, part, treats, some⟩
    have samePath := treats.path_of_report some
    -- Making the output makes no files, so the file was there before.
    rcases grows.adds _ _ found with found | same
    · have isSource : Files.isSourcePath path = true := by
        cases treats with
        | copies => cases some
        | instruments isSource => exact isSource
      have includes := (includes_sourceWalk_iff keeps grows empty found).mpr part
      have member : (⟨path, original⟩ : SourceEntry) ∈ sources :=
        (listed.mem_iff ⟨path, original⟩).mpr ⟨found, isSource, includes⟩
      have isMarked := (foretells_of_path_eq listed grows isStaged member reported
        samePath.symm).1
      exact List.mem_map.mpr ⟨_, List.mem_filter.mpr ⟨member, isMarked⟩, samePath.symm⟩
    · cases same

end Reports

end Project
end Instrument
