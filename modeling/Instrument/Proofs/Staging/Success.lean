import Instrument.Proofs.Files.Silence
import Instrument.Proofs.Staging.Counterparts

/-!
# When staging succeeds

Where no rules apply, staging into a new directory outside the project succeeds exactly if every
file with program text is text, and those that mention the marker parse and can be printed.  Files
that do not mention the marker are copied without being parsed, but not without being read as text:
a single one whose bytes are not text makes staging fail.  If staging succeeds, exactly the files at
and below the build output are left behind, and the build output is left behind even if it is a
file.
-/

namespace Instrument
namespace Project

open Files (Entry FileTree Location Shape)
open Walk (Visit Covers)

variable {kind : MarkerKind} {policy : MarkerPolicy}

/-! ## Single files -/

/-- Whether staging can deal with program text: it is text, and if it mentions the marker, it parses
and can be printed. -/
def IsStageable (kind : MarkerKind) (policy : MarkerPolicy) (original : ByteArray) : Prop :=
  ∃ text, FileTree.decode original = .ok text ∧ (mentions kind text = true →
    ∃ file source, SourceFile.parse text = .ok file ∧
      (file.instrument kind policy).render? text = some source)

theorem exists_treats_iff {path : List String} {original : ByteArray} :
    (∃ staged, Treats kind policy path original staged) ↔
      (Files.isSourcePath path = true → IsStageable kind policy original) := by
  constructor
  · rintro ⟨staged, treats⟩ isSource
    cases treats with
    | copies unmarked =>
        rcases unmarked isSource with ⟨text, decoded, unmentioned⟩
        refine ⟨text, decoded, fun mentioned => ?_⟩
        cases unmentioned.symm.trans mentioned
    | instruments _ decoded mentioned parsed rendered =>
        exact ⟨_, decoded, fun _ => ⟨_, _, parsed, rendered⟩⟩
  · intro stageable
    cases isSource : Files.isSourcePath path with
    | false => exact ⟨_, .copies fun same => by cases isSource.symm.trans same⟩
    | true =>
        rcases stageable isSource with ⟨text, decoded, further⟩
        cases mentioned : mentions kind text with
        | false => exact ⟨_, .copies fun _ => ⟨text, decoded, mentioned⟩⟩
        | true =>
            rcases further mentioned with ⟨file, source, parsed, rendered⟩
            exact ⟨_, .instruments isSource decoded mentioned parsed rendered⟩

theorem isOk_stageFile_iff {path : List String} {original : ByteArray} :
    (stageFile kind policy path original).result.isOk = true ↔
      (Files.isSourcePath path = true → IsStageable kind policy original) := by
  rw [← exists_treats_iff]
  cases result : (stageFile kind policy path original).result with
  | error error =>
      refine ⟨fun ok => (by cases ok), ?_⟩
      rintro ⟨staged, treats⟩
      cases result.symm.trans (stageFile_result_eq_ok_iff.mpr treats)
  | ok staged => exact ⟨fun _ => ⟨staged, stageFile_result_eq_ok_iff.mp result⟩, fun _ => rfl⟩

/-- What has been placed is for visits that staging can deal with. -/
theorem exists_places {visits : List Visit} {placements : List Placement}
    (places : List.Forall₂ (Places kind policy) visits placements) {visit : Visit}
    (member : visit ∈ visits) : ∃ placement, Places kind policy visit placement := by
  induction places with
  | nil => cases member
  | cons first _ inductionHypothesis =>
      rcases List.mem_cons.mp member with rfl | member
      · exact ⟨_, first⟩
      · exact inductionHypothesis member

/-! ## Whole projects -/

section Whole

variable {tree : FileTree} {root out : String} {location outLocation : Location}

/-- Into an empty directory, staging goes on to the end exactly if the rules above the project are
in order and it can deal with all program text that is to be staged. -/
theorem isOk_stageFrom_iff {made : FileTree} (project : IsProject made root location)
    (empty : made.at? outLocation = some (.directory []))
    (apart : RulesApart made location outLocation) :
    (stageFrom made location outLocation kind policy).result.isOk = true ↔
      (Ignore.layersAbove made location).reverse.flatMap Ignore.Layer.reports = [] ∧
        ∀ path original, made.shape? (location ++ path) = some (.file original) →
          IsPart made location outLocation path → Files.isSourcePath path = true →
            IsStageable kind policy original := by
  rcases @exists_covers_stageFrom kind policy _ _ _ project _ empty apart with
    ⟨visits, covers, same⟩
  rw [same]
  split
  next clean =>
    rcases @visitAll_staging_cases kind policy _ _ (FileTree.shape?_of_at? empty) visits _ _
      (Accounts.start project.sound empty) (project.isItinerary covers) with
      ⟨placements, last, done, places, -⟩ | ⟨path, original, error, changed, member, unstaged,
        failed, fails⟩
    · rw [done]
      refine ⟨fun _ => ⟨clean, fun path original found part => ?_⟩, fun _ => rfl⟩
      have inside := project.ne_nil found
      have includes := (includes_iff_isPart empty inside found).mpr part
      rcases exists_places places (covers.file_mem_iff.mpr ⟨inside, found, includes⟩) with
        ⟨_, placed⟩
      cases placed with
      | file treats => exact exists_treats_iff.mp ⟨_, treats⟩
    · rw [failed]
      dsimp only
      rw [fails]
      refine ⟨fun ok => (by cases ok), fun stageable => ?_⟩
      rcases covers.file_mem_iff.mp member with ⟨inside, found, includes⟩
      have part := (includes_iff_isPart empty inside found).mp includes
      have staged := (@isOk_stageFile_iff kind policy path original).mpr
        (stageable.2 path original found part)
      rw [unstaged] at staged
      cases staged
  next faulty => exact ⟨fun ok => (by cases ok), fun clean => absurd clean.1 faulty⟩

/-- Every check is passed, and the output is made. -/
theorem stage_of_isNew (project : IsProject tree root location)
    (new : tree.IsNew out outLocation) :
    stage tree root out kind policy =
      stageFrom (tree.put outLocation (.directory [])) location outLocation kind policy := by
  have isDirectory : tree.isDirectory root = true :=
    FileTree.isDirectory_iff.mpr ⟨location, project.reached, project.holds⟩
  have passed : outputError? tree out = none := by
    have absent : tree.isPresent out = false := by
      rw [FileTree.isPresent]
      cases found : tree.entry out with
      | error obstacle => rfl
      | ok entry =>
          rcases FileTree.entry_eq_ok_iff.mp found with ⟨other, reached, -⟩
          exact absurd reached (new.resolve_ne_ok other)
    rw [outputError?, absent, if_neg (by simp)]
  rw [stage, isDirectory, passed, if_neg (by simp), new.makeDirectories_eq]
  dsimp only
  rw [new.growsTo.resolve project.reached, new.resolve_put]

/-- Outside the output nothing changes when it is made. -/
theorem shape?_put_of_outside (new : tree.IsNew out outLocation)
    (outside : ¬ location <+: outLocation) (path : List String) :
    (tree.put outLocation (.directory [])).shape? (location ++ path) =
      tree.shape? (location ++ path) := by
  rw [new.shape?_put, if_neg]
  intro same
  exact outside ⟨path, same⟩

/-- No rules apply to the project: all directories above it and in it are silent. -/
def IsSilent (tree : FileTree) (location : Location) : Prop :=
  ∀ directory, directory <+: location ∨ location <+: directory →
    (Ignore.Layer.ofDirectory tree directory directory).IsSilent

theorem IsSilent.layersAbove (silent : IsSilent tree location) (path : List String) :
    ∀ layer ∈ Ignore.layersAbove tree (location ++ path), layer.IsSilent := by
  intro layer member
  rcases Ignore.mem_layersAbove_iff.mp member with ⟨above, within, -, rfl⟩
  exact silent above (List.prefix_or_prefix_of_prefix within (List.prefix_append location path))

/-- Outside the output and without rules, only the build output is left out. -/
theorem isPart_iff (silent : IsSilent tree location) (outside : ¬ location <+: outLocation)
    {path : List String} (there : ¬ outLocation <+: location) :
    IsPart tree location outLocation path ↔ ¬ ["target"] <+: path := by
  refine ⟨IsPart.notBuild,
    fun notBuild => ⟨fun above within inside => ?_, notBuild, fun output => ?_⟩⟩
  · rw [Ignore.verdict_of_isSilent (silent.layersAbove above)]
    simp
  · rcases List.prefix_or_prefix_of_prefix output (List.prefix_append location path) with
      within | within
    · exact there within
    · exact outside within

/-- Whether a file is program text that mentions the marker. -/
def IsMarked (kind : MarkerKind) (path : List String) (original : ByteArray) : Prop :=
  Files.isSourcePath path = true ∧
    ∃ text, FileTree.decode original = .ok text ∧ mentions kind text = true

theorem content_eq_or_isMarked {path : List String} {original : ByteArray} {staged : StagedFile}
    (treats : Treats kind policy path original staged) :
    staged.content = original ∨ IsMarked kind path original := by
  cases treats with
  | copies unmarked => exact .inl rfl
  | instruments isSource decoded mentioned _ _ => exact .inr ⟨isSource, _, decoded, mentioned⟩

/-- What is there stands outside of what is new. -/
theorem not_prefix_of_isNew (new : tree.IsNew out outLocation)
    (holds : tree.shape? location = some .directory) : ¬ outLocation <+: location := by
  rintro ⟨rest, rfl⟩
  cases rest with
  | nil =>
      rw [List.append_nil, new.free] at holds
      cases holds
  | cons name rest => cases new.free.symm.trans (FileTree.shape?_append_cons holds)

variable (project : IsProject tree root location) (new : tree.IsNew out outLocation)
  (outside : ¬ location <+: outLocation)
  (silent : IsSilent (tree.put outLocation (.directory [])) location)

include project new outside silent

/-- What is to be staged is everything but the build output. -/
theorem isPart_iff_of_isNew (path : List String) :
    IsPart (tree.put outLocation (.directory [])) location outLocation path ↔
      ¬ ["target"] <+: path :=
  isPart_iff silent outside (not_prefix_of_isNew new project.holds)

variable (apart : RulesApart (tree.put outLocation (.directory [])) location outLocation)

include apart

/-- Staging succeeds exactly if it can deal with all program text. -/
theorem isOk_stage_iff : (stage tree root out kind policy).result.isOk = true ↔
    ∀ path original, tree.shape? (location ++ path) = some (.file original) →
      ¬ ["target"] <+: path → Files.isSourcePath path = true →
        IsStageable kind policy original := by
  have quiet : (Ignore.layersAbove (tree.put outLocation (.directory [])) location).reverse.flatMap
      Ignore.Layer.reports = [] := by
    rw [List.flatMap_eq_nil_iff]
    intro layer member
    rw [List.mem_reverse, ← List.append_nil location] at member
    exact (silent.layersAbove [] layer member).reports
  rw [stage_of_isNew project new, isOk_stageFrom_iff (project.grow new.growsTo) new.at?_put apart,
    and_iff_right quiet]
  refine forall_congr' fun path => forall_congr' fun original => ?_
  rw [shape?_put_of_outside new outside, isPart_iff_of_isNew project new outside silent]

/-- If staging succeeds, exactly the files that are not the build output or below it have
counterparts, and only files that mention the marker are changed. -/
theorem counterparts_of_stage {final : FileTree} {log : List LogEvent} {report : Report}
    (staged : stage tree root out kind policy = ⟨final, log, .ok report⟩) {path : List String}
    {original : ByteArray} (found : tree.shape? (location ++ path) = some (.file original)) :
    ((∃ content, final.shape? (outLocation ++ path) = some (.file content)) ↔
      ¬ ["target"] <+: path) ∧
    ∀ content, final.shape? (outLocation ++ path) = some (.file content) →
      content = original ∨ IsMarked kind path original := by
  have ok : (stage tree root out kind policy).result.isOk = true := by
    rw [staged]
    rfl
  have stageable := (isOk_stage_iff project new outside silent apart).mp ok path original found
  have inside := project.ne_nil found
  have part := isPart_iff_of_isNew project new outside silent path
  rw [stage_of_isNew project new] at staged
  have isStaged := isStaged_of_stageFrom (project.grow new.growsTo) new.at?_put apart staged
  rw [← shape?_put_of_outside new outside] at found
  refine ⟨⟨?_, fun notBuild => ?_⟩, ?_⟩
  · rintro ⟨content, there⟩
    rcases (isStaged.file_iff path content inside).mp there with ⟨_, _, -, part, -⟩
    exact part.notBuild
  · rcases exists_treats_iff.mpr (stageable notBuild) with ⟨staged, treats⟩
    exact ⟨staged.content, (isStaged.file_iff path _ inside).mpr
      ⟨original, staged, found, part.mpr notBuild, treats, rfl⟩⟩
  · intro content there
    rcases (isStaged.file_iff path content inside).mp there with
      ⟨other, staged, found', -, treats, rfl⟩
    cases found.symm.trans found'
    exact content_eq_or_isMarked treats

/-- Staging a project without rules, where none are added by what is staged, into a new directory
outside of it succeeds exactly if all program text can be dealt with, and then loses nothing but the
build output. -/
theorem succeeds_iff_of_silent :
    ((stage tree root out kind policy).result.isOk = true ↔
      ∀ path original, tree.shape? (location ++ path) = some (.file original) →
        ¬ ["target"] <+: path → Files.isSourcePath path = true →
          IsStageable kind policy original) ∧
    ((stage tree root out kind policy).result.isOk = true →
      ∀ path original, tree.shape? (location ++ path) = some (.file original) →
        ((∃ content, (stage tree root out kind policy).tree.shape? (outLocation ++ path) =
            some (.file content)) ↔ ¬ ["target"] <+: path) ∧
        ∀ content, (stage tree root out kind policy).tree.shape? (outLocation ++ path) =
          some (.file content) → content = original ∨ IsMarked kind path original) := by
  refine ⟨isOk_stage_iff project new outside silent apart, fun ok path original found => ?_⟩
  cases staged : stage tree root out kind policy with
  | mk final log result =>
      rw [staged] at ok
      cases result with
      | error error => cases ok
      | ok report => exact counterparts_of_stage project new outside silent apart staged found

end Whole

/-- A project with bytes that are not text outside of program text, and with a build output. -/
theorem succeeds_notText :
    let source := "#[method_logger]\nfn main() \x7b\x7d\n"
    let project := Entry.directory [("main.rs", .file source.toUTF8),
      ("picture", .file ⟨#[0xff, 0x00]⟩), ("target", .directory [("debug", .file ⟨#[0xff]⟩)])]
    let tree : FileTree := ⟨.directory [("project", project)], []⟩
    let changed := stage tree "project" "out" .methodLogger .strip
    changed.result.isOk = true ∧
      ((∃ content, changed.tree.shape? ["out", "picture"] = some (.file content)) ↔
        ¬ ["target"] <+: ["picture"]) := by
  intro source project tree changed
  have sound : tree.IsSound := ⟨Entry.isSound_of_all (by decide +kernel), rfl⟩
  have noLinks : project.all (fun entry => !entry.isLink) = true := by decide +kernel
  have isProject : IsProject tree "project" ["project"] :=
    ⟨sound, by decide +kernel, rfl, Entry.shape_ne_link_of_all noLinks⟩
  have new : tree.IsNew "out" ["out"] :=
    ⟨⟨[], "out", [], by decide +kernel, by decide +kernel, rfl, by decide +kernel, rfl⟩, rfl⟩
  have noRules : Ignore.HasNoRules (tree.put ["out"] (.directory [])) :=
    Ignore.hasNoRules_of_all (by decide +kernel)
  have silent : IsSilent (tree.put ["out"] (.directory [])) ["project"] :=
    fun directory _ => noRules.isSilent directory directory
  have noPointer : (tree.put ["out"] (.directory [])).root.all
      (fun entry => (entry.child? ".git").isNone) = true := by decide +kernel
  have apart : RulesApart (tree.put ["out"] (.directory [])) ["project"] ["out"] :=
    (isProject.grow new.growsTo).rulesApart_of_all noPointer (by decide)
  have result := @succeeds_iff_of_silent .methodLogger .strip tree _ _ _ _ isProject new
    (by decide) silent apart
  have ok : changed.result.isOk = true := by decide +kernel
  exact ⟨ok, (result.2 ok ["picture"] _ rfl).1⟩

/-- An entry that holds no other bytes than the given ones, or too few for a word. -/
def isShortUnless (text word : String) : Entry → Bool
  | .file content => content.data == text.toUTF8.data || content.size < word.toUTF8.size
  | _ => true

/-- A file of program text whose bytes are not text makes staging fail, although the marker does not
occur in it and all files in which the marker occurs can be dealt with. -/
theorem not_isOk_stage_notText :
    let source := "#[method_logger]\nfn main() \x7b\x7d\n"
    let project := Entry.directory [("src", .directory [("main.rs", .file source.toUTF8)]),
      ("notes.rs", .file ⟨#[0xff, 0x00]⟩)]
    let tree : FileTree := ⟨.directory [("proj", project)], []⟩
    (∀ path original, tree.shape? (["proj"] ++ path) = some (.file original) →
      Files.isSourcePath path = true →
      MarkerKind.methodLogger.name.toUTF8.data.toList <:+: original.data.toList →
        IsStageable .methodLogger .strip original) ∧
      (stage tree "proj" "out" .methodLogger .strip).result.isOk = false := by
  intro source project tree
  refine ⟨fun path original found isSource occurs => ?_, by decide +kernel⟩
  have dealtWith : IsStageable .methodLogger .strip source.toUTF8 := by
    have staged :
        (stageFile .methodLogger .strip ["main.rs"] source.toUTF8).result.isOk = true := by
      decide +kernel
    exact isOk_stageFile_iff.mp staged (by decide +kernel)
  -- A file with the marker in it is longer than the one that is not text.
  have fits : tree.root.all (isShortUnless source MarkerKind.methodLogger.name) = true := by
    decide +kernel
  rcases Option.map_eq_some_iff.mp found with ⟨entry, there, same⟩
  cases entry with
  | directory entries => cases same
  | link target => cases same
  | file content =>
      cases same
      rcases Bool.or_eq_true_iff.mp (Entry.test_of_all fits there) with same | short
      · rw [ByteArray.ext (eq_of_beq same)]
        exact dealtWith
      · have long := occurs.length_le
        rw [Array.length_toList, Array.length_toList] at long
        exact absurd (of_decide_eq_true short) (Nat.not_lt.mpr long)

end Project
end Instrument
