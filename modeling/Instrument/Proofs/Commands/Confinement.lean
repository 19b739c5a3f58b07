import Instrument.Proofs.Commands.Outputs
import Instrument.Proofs.Staging.Counterparts

/-!
# What a command may change

A command changes only the files that are its business, whether it succeeds or not.  Listing and
showing change nothing.  A written text changes the place its path leads to, and one that is put in
the place of a file changes the entry that the path of the file names.  Staging changes what is below
the output, and makes the output with the directories above it that are missing; what it is refused
for is found out before.

There is one way out.  The check that the output is empty looks at what its path leads to before it is
made; a path that leads nowhere until a directory in it is made may end in one that holds something,
and if that is a link, staging writes to where it leads.
-/

namespace Instrument

open Files (FileTree Location names pieces startOf)

namespace Files.FileTree

/-- Two trees differ only at certain places. -/
def DiffersOnly (tree left : FileTree) (allowed : Location → Prop) : Prop :=
  ∀ location, left.shape? location ≠ tree.shape? location → allowed location

namespace DiffersOnly

variable {tree middle left : FileTree} {allowed : Location → Prop}

theorem refl (tree : FileTree) (allowed : Location → Prop) : tree.DiffersOnly tree allowed :=
  fun _ changed => absurd rfl changed

theorem trans (first : tree.DiffersOnly middle allowed)
    (second : middle.DiffersOnly left allowed) : tree.DiffersOnly left allowed := by
  intro location changed
  by_cases before : middle.shape? location = tree.shape? location
  · exact second location (before ▸ changed)
  · exact first location before

end DiffersOnly

theorem Overwrites.differsOnly {tree left : FileTree} {location : Location} {content : ByteArray}
    (overwrites : tree.Overwrites left location content) :
    tree.DiffersOnly left (· = location) := by
  intro other changed
  by_contra different
  exact changed (overwrites.elsewhere other different)

end Files.FileTree

/-! ## Staging -/

namespace Project

variable {kind : MarkerKind} {policy : MarkerPolicy} {tree : FileTree} {root out : String}

/-- The tree in which an output has been made, as far as that is possible. -/
def withOutput (tree : FileTree) (out : String) : FileTree :=
  (tree.makeDirectories out).2

/-- A place that staging into an output may change, given the tree that it leaves. -/
inductive MayChange (tree left : FileTree) (out : String) (location : Location) : Prop
  /-- The output, or a directory above it that was missing. -/
  | made {front : List String} (free : tree.shape? location = none)
      (directory : (withOutput tree out).shape? location = some .directory)
      (within : front <+: names out)
      (reached : (withOutput tree out).follow FileTree.linkLimit (startOf tree.current out) front =
        .ok location)
  /-- A place to which names lead from the output.  It is below the output, if that was empty or is
  new; only in one that was not seen before it was made there may be links on the way. -/
  | below {outLocation : Location} {path : List String} {links : Nat}
      (reached : (withOutput tree out).resolve out = .ok outLocation)
      (inside : path ≠ []) (isNames : ∀ name ∈ path, Files.isEntryName name = true)
      (leads : left.Leads links outLocation path location)
      (straight : tree.IsFresh out → location = outLocation ++ path)

theorem differsOnly_withOutput (tree left : FileTree) (out : String) :
    tree.DiffersOnly (withOutput tree out) (MayChange tree left out) := by
  intro location changed
  have grows : tree.GrowsTo (withOutput tree out) := FileTree.growsTo_makeDirectories tree out
  rcases FileTree.isOnWay_of_makeAll (FileTree.isPlain_names out) rfl changed with
    ⟨above, last, holder, within, -, reached⟩
  cases before : tree.shape? location with
  | some shape => exact absurd ((grows.keeps _ _ before).trans before.symm) changed
  | none =>
      cases after : (withOutput tree out).shape? location with
      | none => exact absurd (after.trans before.symm) changed
      | some shape =>
          rcases grows.adds _ _ after with found | rfl
          · cases before.symm.trans found
          · exact .made before after within reached

/-- Whether staging succeeds or is given up, it changes only what it may. -/
theorem differsOnly_stage (sound : tree.IsSound) :
    tree.DiffersOnly (stage tree root out kind policy).tree
      (MayChange tree (stage tree root out kind policy).tree out) := by
  rcases @stage_cases kind policy tree root out with ⟨-, same | same⟩ |
    ⟨made, location, outLocation, isDirectory, passed, makes, reached, reached', same⟩
  · rw [same]
    exact .refl _ _
  · rw [same]
    exact differsOnly_withOutput tree _ out
  · rw [same]
    have output : withOutput tree out = made := congrArg Prod.snd makes
    refine FileTree.DiffersOnly.trans (output ▸ differsOnly_withOutput tree _ out) ?_
    have grows := FileTree.growsTo_of_makeDirectories makes
    rcases FileTree.isDirectory_iff.mp isDirectory with ⟨location', found, holds⟩
    cases (grows.resolve found).symm.trans reached
    have traces := @traces_stageFrom kind policy outLocation _ _ (grows.sound sound)
      (grows.keeps _ _ holds)
    intro changedLocation changed
    rcases traces.exists_step changed with ⟨step, -, inside, isNames, links, leads⟩
    have isEntryNames : ∀ name ∈ step.visit.path, Files.isEntryName name = true :=
      fun name member => (isNames name member).1
    refine .below (output ▸ reached') inside isEntryNames leads fun fresh => ?_
    have empty := FileTree.at?_of_makeDirectories fresh
      (fun _ found => at?_of_outputError? sound passed found) makes reached'
    have free := (FileTree.isLinkFree_of_empty empty).of_keepsPlaces traces.keeps
    exact leads.eq_append (fun above _ => free.noLinks above) isEntryNames

end Project

/-! ## Commands -/

namespace CommandLine

/-- What delivering an instrumented text changes. -/
inductive Delivers (tree : FileTree) (file text source : String) :
    Option String → Bool → FileTree → Prop
  | shown : Delivers tree file text source none false tree
  | written {out : String} {left : FileTree} {location : Location}
      (leads : ∃ links, left.Leads links (startOf tree.current out) (pieces out) location)
      (now : left.shape? location = some (.file source.toUTF8))
      (only : tree.DiffersOnly left (· = location)) :
      Delivers tree file text source (some out) false left
  | kept {output : Option String} (same : source = text)
      (holds : tree.readBytes file = .ok source.toUTF8) :
      Delivers tree file text source output true tree
  | replaced {output : Option String} {left : FileTree} {holder : Location} {last : String}
      (different : source ≠ text) (names : tree.NamesEntry file holder last)
      (only : tree.DiffersOnly left (· = holder ++ [last]))
      (holds : left.readBytes file = .ok source.toUTF8) :
      Delivers tree file text source output true left

/-- Why nothing is staged at all. -/
inductive Refuses (tree : FileTree) (project out : String) : Prop
  | missing (noDirectory : tree.isDirectory project = false)
  | misconfigured (fails : (Config.load tree project).result.isOk = false)
  | occupied (present : tree.isPresent out = true) (notEmpty : tree.list out ≠ .ok [])

/-- What a run of the tool may change, given what its arguments ask for. -/
def Confines (tree : FileTree) (response : Response) : Request → Prop
  | .inform _ | .refuse _ | .run (.list _ _) => response.tree = tree
  | .run (.file file output inPlace keepMarker) =>
    (response.exitCode ≠ 0 → response.tree = tree) ∧
    (response.exitCode = 0 → ∃ text result, Instruments tree file keepMarker text result ∧
      Delivers tree file text result.source output inPlace response.tree)
  | .run (.project project out _) =>
    (Refuses tree project out → response.exitCode ≠ 0 ∧ response.tree = tree) ∧
    tree.DiffersOnly response.tree (Project.MayChange tree response.tree out)

section Commands

variable {tree : FileTree} {file project out : String} {output : Option String}
  {inPlace keepMarker : Bool}

theorem delivers_of_delivered {text : String} {result : InstrumentedSource} {left : FileTree}
    (instruments : Instruments tree file keepMarker text result)
    (delivers : delivered tree file output inPlace text result = .ok left) :
    Delivers tree file text result.source output inPlace left := by
  cases inPlace with
  | true =>
      rcases exists_delivered_inPlace instruments with ⟨left', delivers', holds⟩
      have same : left' = left := Except.ok.inj (delivers'.symm.trans delivers)
      subst same
      unfold delivered at delivers
      rw [if_pos rfl] at delivers
      split at delivers
      next same =>
        cases delivers
        exact .kept same holds
      next different =>
        rcases FileTree.exists_namesEntry_of_isFile instruments.isFile with
          ⟨holder, last, names, -, leaf⟩
        rw [names.replace_eq] at delivers
        cases delivers
        exact .replaced different names (FileTree.overwrites_put names.holds leaf).differsOnly holds
  | false =>
      cases output with
      | none =>
          cases delivers
          exact .shown
      | some out =>
          have writes : tree.write out result.source.toUTF8 = .ok left := delivers
          rw [FileTree.write] at writes
          split at writes
          next => cases writes
          next =>
            rcases FileTree.exists_of_writeFrom writes with ⟨location, -, overwrites, leads⟩
            exact .written leads overwrites.now overwrites.differsOnly

theorem executeList_tree_eq (tree : FileTree) (path : String) (json : Bool) :
    (executeList tree path json).tree = tree := by
  rw [executeList]
  split <;> rfl

/-- A directory that is not empty, or no directory, is no output. -/
theorem outputError?_ne_none_of_occupied (present : tree.isPresent out = true)
    (notEmpty : tree.list out ≠ .ok []) : Project.outputError? tree out ≠ none := by
  rw [Project.outputError?, present, if_pos rfl]
  split
  next => exact fun same => by cases same
  next listed => exact absurd listed notEmpty
  next => exact fun same => by cases same

/-- What is refused leaves everything as it was. -/
theorem executeProject_of_refuses (refuses : Refuses tree project out) (keepMarker : Bool) :
    (executeProject tree project out keepMarker).result.isOk = false ∧
      (executeProject tree project out keepMarker).tree = tree := by
  rw [executeProject]
  split
  next => exact ⟨rfl, rfl⟩
  next isDirectory =>
    rw [Bool.not_eq_true, Bool.not_eq_false'] at isDirectory
    dsimp only
    cases loaded : (Config.load tree project).result with
    | error error => exact ⟨rfl, rfl⟩
    | ok config =>
        dsimp only
        cases refuses with
        | missing noDirectory => cases isDirectory.symm.trans noDirectory
        | misconfigured fails => rw [loaded] at fails; cases fails
        | occupied present notEmpty =>
            cases passed : Project.outputError? tree out with
            | none => exact absurd passed (outputError?_ne_none_of_occupied present notEmpty)
            | some error =>
                rw [Project.stage, isDirectory, passed]
                exact ⟨rfl, rfl⟩

theorem differsOnly_executeProject (sound : tree.IsSound) (project out : String)
    (keepMarker : Bool) :
    tree.DiffersOnly (executeProject tree project out keepMarker).tree
      (Project.MayChange tree (executeProject tree project out keepMarker).tree out) := by
  rw [executeProject]
  split
  next => exact .refl _ _
  next =>
    dsimp only
    split
    next => exact .refl _ _
    next => exact Project.differsOnly_stage sound

end Commands

/-- Every run of the tool changes only what it may, whatever its arguments. -/
theorem confines_run {tree : FileTree} (sound : tree.IsSound) (setting : Option String)
    (arguments : List String) :
    Confines tree (run tree setting arguments) (Request.ofArguments arguments) := by
  cases asks : Request.ofArguments arguments with
  | inform text => rw [Confines, run, asks]
  | refuse text => rw [Confines, run, asks]
  | run invocation =>
      have left : (run tree setting arguments).tree = (execute tree invocation).tree :=
        run_tree_eq asks
      have succeeds : (run tree setting arguments).exitCode = 0 ↔
          (execute tree invocation).result.isOk = true := run_exitCode_eq_zero_iff asks
      cases invocation with
      | list path json =>
          rw [Confines, left]
          exact executeList_tree_eq tree path json
      | file file output inPlace keepMarker =>
          rw [Confines, ne_eq, succeeds, left, Bool.not_eq_true]
          refine ⟨executeFile_tree_eq_of_not_isOk, fun ok => ?_⟩
          rcases isOk_executeFile_iff.mp ok with ⟨text, result, delivery, instruments, delivers⟩
          refine ⟨text, result, instruments, ?_⟩
          have same : (execute tree (.file file output inPlace keepMarker)).tree = delivery :=
            (executeFile_of_delivered instruments delivers).1
          rw [same]
          exact delivers_of_delivered instruments delivers
      | project project out keepMarker =>
          rw [Confines, ne_eq, succeeds, left, Bool.not_eq_true]
          exact ⟨fun refuses => executeProject_of_refuses refuses keepMarker,
            differsOnly_executeProject sound project out keepMarker⟩

/-- A project with a link in it is staged into an output that has to be made. -/
theorem confines_run_linked :
    let tree : FileTree := ⟨.directory [
      ("proj", .directory [
        ("main.rs", .file "#[method_logger]\nfn main() \x7b\x7d\n".toUTF8),
        ("shared", .link "../lib")]),
      ("lib", .directory [("a.txt", .file "a".toUTF8)])], []⟩
    let arguments := ["project", "--project", "proj", "--out", "made/out"]
    let response := run tree none arguments
    response.exitCode = 0 ∧
      response.tree.readBytes "made/out/shared/a.txt" = .ok "a".toUTF8 ∧
      Confines tree response (Request.ofArguments arguments) := by
  intro tree arguments response
  have sound : tree.IsSound := ⟨Files.Entry.isSound_of_all (by decide +kernel), rfl⟩
  exact ⟨by decide +kernel, by decide +kernel, confines_run sound none arguments⟩

/-- The output is a directory that holds a link, but its path leads nowhere at first.  Staging is not
refused, and overwrites a file where the link leads to, outside the output. -/
theorem not_confines_upward :
    let tree : FileTree := ⟨.directory [
      ("proj", .directory [("src", .directory [("a.txt", .file "new".toUTF8)])]),
      ("other", .directory [("src", .link "../elsewhere")]),
      ("elsewhere", .directory [("a.txt", .file "old".toUTF8)])], []⟩
    let response := run tree none ["project", "--project", "proj", "--out", "new/../other"]
    response.exitCode = 0 ∧ response.tree.resolve "new/../other" = .ok ["other"] ∧
      tree.list "other" ≠ .ok [] ∧
      tree.readBytes "elsewhere/a.txt" = .ok "old".toUTF8 ∧
      response.tree.readBytes "elsewhere/a.txt" = .ok "new".toUTF8 := by
  intro tree response
  have holdsLink : tree.list "other" ≠ .ok [] := by
    intro isEmpty
    cases isEmpty
  exact ⟨by decide +kernel, by decide +kernel, holdsLink, by decide +kernel, by decide +kernel⟩

end CommandLine
end Instrument
