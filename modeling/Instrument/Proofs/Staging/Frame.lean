import Instrument.Project.Staging
import Instrument.Proofs.Files.Journeys
import Instrument.Proofs.Files.Writing

/-!
# What staging changes

Staging makes a directory or writes a file for each visit, by a path that starts in the output.  What
changes is the place to which this path leads afterwards; nothing gets lost, and no links are made.
As long as there are no links below the output, such a path leads straight down, so what changes lies
below the output, under the names of a visit.

The walk goes on in the tree that has been changed.  A run of staging is told step by step, each step
with the tree in which it is made; so what is known of one step is known of all of them.
-/

namespace Instrument

namespace Files.FileTree

variable {tree next : FileTree} {here out location : Location} {path : List String}
  {content : ByteArray} {links : Nat}

/-! ## Places without links -/

/-- There are no links at a directory and below it. -/
structure IsLinkFree (tree : FileTree) (out : Location) : Prop where
  holds : tree.shape? out = some .directory
  noLinks : ∀ path target, tree.shape? (out ++ path) ≠ some (.link target)

theorem isLinkFree_of_empty (empty : tree.at? out = some (.directory [])) :
    tree.IsLinkFree out := by
  refine ⟨shape?_of_at? empty, fun path target found => ?_⟩
  cases path with
  | nil =>
      rw [List.append_nil, shape?_of_at? empty] at found
      cases found
  | cons name rest =>
      rw [shape?_of_empty empty (List.cons_ne_nil _ _)] at found
      cases found

theorem IsLinkFree.of_keepsPlaces (free : tree.IsLinkFree out) (keeps : tree.KeepsPlaces next) :
    next.IsLinkFree out where
  holds := keeps.directories out free.holds
  noLinks := fun path target link => free.noLinks path target ((keeps.links_iff _ _).mp link)

/-! ## One change -/

/-- Nothing gets lost, and what has changed is where a path leads. -/
structure ChangesAt (tree next : FileTree) (out : Location) (path : List String) : Prop where
  current : next.current = tree.current
  sound : tree.IsSound → next.IsSound
  keeps : tree.KeepsPlaces next
  reached : ∀ location, next.shape? location ≠ tree.shape? location →
    path ≠ [] ∧ ∃ links, next.Leads links out path location

theorem ChangesAt.refl (tree : FileTree) (out : Location) (path : List String) :
    tree.ChangesAt tree out path :=
  ⟨rfl, id, .refl tree, fun _ changed => absurd rfl changed⟩

theorem changesAt_of_makeDirectory (isNames : ∀ name ∈ path, IsName name)
    (makes : tree.makeDirectory out path = .ok next) : tree.ChangesAt next out path := by
  rcases List.eq_nil_or_concat path with rfl | ⟨above, last, rfl⟩
  · cases makes
  rw [List.concat_eq_append] at makes isNames ⊢
  have isName := isNames last (by simp)
  have notBlank := ne_blank_of_isEntryName isName.1
  have grows := growsTo_of_makeDirectory notBlank isName.2 makes
  rcases exists_of_makeDirectory notBlank isName.2 makes with ⟨holder, reached, -, only⟩
  rcases leads_of_follow reached with ⟨used, -, leads⟩
  refine ⟨grows.current, grows.sound, grows.keepsPlaces, fun location changed => ⟨by simp, used, ?_⟩⟩
  cases only location changed
  exact leads

theorem changesAt_of_writeFrom (isNames : ∀ name ∈ path, IsName name)
    (writes : tree.writeFrom out path content = .ok next) : tree.ChangesAt next out path := by
  have inside : path ≠ [] := by
    rintro rfl
    cases writes
  have sound (sound : tree.IsSound) : next.IsSound :=
    isSound_of_writeFrom sound (fun name member => (isNames name member).2) writes
  rcases exists_of_writeFrom writes with ⟨location, isWritable, overwrites, leads⟩
  refine ⟨overwrites.current, sound, isWritable.keepsPlaces overwrites,
    fun other changed => ⟨inside, ?_⟩⟩
  have same : other = location := by
    by_contra different
    exact changed (overwrites.elsewhere other different)
  exact same ▸ leads

end Files.FileTree

namespace Project

open Files (FileTree Location Shape IsName)
open Walk (Step Visit)

variable {kind : MarkerKind} {policy : MarkerPolicy} {out location : Location}
  {progress next : Progress} {path : List String}

theorem changesAt_of_addDirectory (isNames : ∀ name ∈ path, IsName name)
    (added : progress.addDirectory out path = .ok next) :
    progress.tree.ChangesAt next.tree out path := by
  rw [Progress.addDirectory] at added
  split at added
  next made makes =>
    cases added
    exact FileTree.changesAt_of_makeDirectory isNames makes
  next =>
    split at added
    next => cases added; exact .refl _ _ _
    next => cases added

theorem changesAt_of_addFile (isNames : ∀ name ∈ path, IsName name) {log : List LogEvent}
    {file : StagedFile} (added : progress.addFile out path log file = .ok next) :
    progress.tree.ChangesAt next.tree out path := by
  rw [Progress.addFile] at added
  split at added
  next written writes =>
    cases added
    exact FileTree.changesAt_of_writeFrom isNames writes
  next => cases added

/-- A visit changes what its path below the output leads to, or it fails and changes nothing. -/
theorem stageVisit_cases (kind : MarkerKind) (policy : MarkerPolicy) (out : Location)
    (progress : Progress) {visit : Visit} (isNames : ∀ name ∈ visit.path, IsName name) :
    (∃ next, stageVisit kind policy out progress visit = .ok next ∧
      progress.tree.ChangesAt next.tree out visit.path) ∨
    ∃ changed, stageVisit kind policy out progress visit = .error changed ∧
      changed.tree = progress.tree ∧ changed.result.isOk = false := by
  cases visit with
  | link path => exact .inl ⟨progress, rfl, .refl _ _ _⟩
  | directory path =>
      rw [stageVisit]
      cases added : progress.addDirectory out path with
      | ok next => exact .inl ⟨next, rfl, changesAt_of_addDirectory isNames added⟩
      | error obstacle => exact .inr ⟨_, rfl, rfl, rfl⟩
  | file path content =>
      rw [stageVisit]
      rcases stageFile kind policy path content with ⟨log, error | file⟩
      · exact .inr ⟨_, rfl, rfl, rfl⟩
      · dsimp only
        cases added : progress.addFile out path log file with
        | ok next => exact .inl ⟨next, rfl, changesAt_of_addFile isNames added⟩
        | error obstacle => exact .inr ⟨_, rfl, rfl, rfl⟩

/-- Where the walk has come to by names that it takes in, it has not come through the output. -/
theorem not_prefix_of_admits {root : Location} (outside : ¬ out <+: root)
    (admitted : ∀ above, above <+: path → above ≠ [] →
      (stagingWalk root out).admits above = true) : ¬ out <+: root ++ path := by
  intro output
  rcases List.prefix_or_prefix_of_prefix output (List.prefix_append root path) with
    within | ⟨below, rfl⟩
  · exact outside within
  · have inside : below ≠ [] := by
      rintro rfl
      rw [List.append_nil] at outside
      exact outside List.prefix_rfl
    have admits := admitted below ((List.prefix_append_right_inj root).mp output) inside
    simp [stagingWalk] at admits

/-! ## A whole run -/

/-- One step after the other: the walk comes to what is visited in the tree that the steps before
have left, and the visit changes what its path below the output leads to. -/
inductive Traces (walk : Walk) (made : FileTree) (root out : Location) :
    FileTree → List Step → Prop
  | start : Traces walk made root out made []
  | step {tree next : FileTree} {steps : List Step} {visit : Visit} {found : Location}
      (before : Traces walk made root out tree steps)
      (comes : walk.ComesTo tree root visit.path found)
      (changes : tree.ChangesAt next out visit.path) :
      Traces walk made root out next (steps ++ [⟨tree, visit⟩])

namespace Traces

variable {walk : Walk} {made tree : FileTree} {root : Location} {steps : List Step}

theorem sound (traces : Traces walk made root out tree steps) (start : made.IsSound) :
    tree.IsSound := by
  induction traces with
  | start => exact start
  | step _ _ changes inductionHypothesis => exact changes.sound inductionHypothesis

theorem current (traces : Traces walk made root out tree steps) : tree.current = made.current := by
  induction traces with
  | start => rfl
  | step _ _ changes inductionHypothesis => exact changes.current.trans inductionHypothesis

theorem keeps (traces : Traces walk made root out tree steps) : made.KeepsPlaces tree := by
  induction traces with
  | start => exact .refl made
  | step _ _ changes inductionHypothesis => exact inductionHypothesis.trans changes.keeps

/-- Every step is made in a tree that the steps before it have left. -/
theorem exists_of_mem (traces : Traces walk made root out tree steps) {step : Step}
    (member : step ∈ steps) :
    (∃ earlier, Traces walk made root out step.tree earlier) ∧
      ∃ found, walk.ComesTo step.tree root step.visit.path found := by
  induction traces with
  | start => cases member
  | step before comes _ inductionHypothesis =>
      rcases List.mem_append.mp member with member | member
      · exact inductionHypothesis member
      · cases List.mem_singleton.mp member
        exact ⟨⟨_, before⟩, _, comes⟩

/-- Whatever has changed has changed for a visit, at the place to which the names of the visit lead
from the output. -/
theorem exists_step (traces : Traces walk made root out tree steps)
    (changed : tree.shape? location ≠ made.shape? location) :
    ∃ step ∈ steps, step.visit.path ≠ [] ∧ (∀ name ∈ step.visit.path, IsName name) ∧
      ∃ links, tree.Leads links out step.visit.path location := by
  induction traces with
  | start => exact absurd rfl changed
  | @step tree next steps visit found before comes changes inductionHypothesis =>
      -- Either it is this visit that changes the place, or one before.
      by_cases here : next.shape? location = tree.shape? location
      · rcases inductionHypothesis (here ▸ changed) with ⟨step, member, inside, isNames, links, leads⟩
        exact ⟨step, List.mem_append_left _ member, inside, isNames, links, changes.keeps.leads leads⟩
      · rcases changes.reached location here with ⟨inside, links, leads⟩
        exact ⟨_, List.mem_append_right _ (.head _), inside, comes.isNames, links, leads⟩

/-- Without links below the output, what changes is below it under the names of a visit. -/
theorem exists_step_of_isLinkFree (traces : Traces walk made root out tree steps)
    (free : made.IsLinkFree out) (changed : tree.shape? location ≠ made.shape? location) :
    ∃ step ∈ steps, step.visit.path ≠ [] ∧ location = out ++ step.visit.path := by
  rcases traces.exists_step changed with ⟨step, member, inside, isNames, links, leads⟩
  refine ⟨step, member, inside, leads.eq_append (fun above _ => ?_)
    fun name member => (isNames name member).1⟩
  exact (free.of_keepsPlaces traces.keeps).noLinks above

end Traces

/-- The steps of staging what is below one directory into another one. -/
def stagingSteps (kind : MarkerKind) (policy : MarkerPolicy) (made : FileTree)
    (root out : Location) : List Step :=
  Walk.Errand.steps ((stagingWalk root out).run (staging kind policy out).recorded
    (⟨made, [], [], 0⟩, []) (Files.absoluteText root))

theorem preserves_traces {walk : Walk} {made : FileTree} {root : Location} (sound : made.IsSound) :
    (staging kind policy out).recorded.Preserves walk root
      (fun state => Traces walk made root out state.1.tree state.2)
      (fun ending => Traces walk made root out ending.1.tree ending.2 ∧
        ending.1.result.isOk = false) where
  sound := fun _ traces => traces.sound sound
  visit := fun state visit found traces comes => by
    rcases state with ⟨progress, steps⟩
    have visited : (staging kind policy out).visit progress visit =
        stageVisit kind policy out progress visit := rfl
    rw [Walk.recorded_visit, visited]
    rcases stageVisit_cases kind policy out progress comes.isNames with
      ⟨next, done, changes⟩ | ⟨changed, failed, same, noResult⟩
    · rw [done]
      exact ⟨.step traces comes changes, changes.keeps⟩
    · rw [failed]
      refine ⟨.step traces comes ?_, noResult⟩
      rw [same]
      exact .refl _ _ _
  giveUp := fun _ _ traces => ⟨traces, rfl⟩

/-- Staging ends with a result, or is given up; the record tells its steps. -/
theorem stageFrom_cases {made : FileTree} {root : Location} (sound : made.IsSound)
    (holds : made.shape? root = some .directory) :
    (∃ last steps, (stagingWalk root out).run (staging kind policy out).recorded
        (⟨made, [], [], 0⟩, []) (Files.absoluteText root) = .ok (last, steps) ∧
      stagingSteps kind policy made root out = steps ∧
      stageFrom made root out kind policy = last.finish ∧
      Traces (stagingWalk root out) made root out last.tree steps) ∨
    (stageFrom made root out kind policy).result.isOk = false ∧
      Traces (stagingWalk root out) made root out (stageFrom made root out kind policy).tree
        (stagingSteps kind policy made root out) := by
  have start : (staging kind policy out).recorded.tree (⟨made, [], [], 0⟩, []) = made := rfl
  have leaves := Walk.leaves_run rfl
    (@preserves_traces kind policy out (stagingWalk root out) made root sound)
    (start ▸ Traces.start) (start ▸ FileTree.resolve_absoluteText sound holds)
  have plain : (stagingWalk root out).run (staging kind policy out) ⟨made, [], [], 0⟩
      (Files.absoluteText root) = _ := (Walk.withoutSteps_run _ _ _ [] _).symm
  rw [stageFrom, plain, stagingSteps]
  cases ends : (stagingWalk root out).run (staging kind policy out).recorded
    (⟨made, [], [], 0⟩, []) (Files.absoluteText root) with
  | error ending =>
      rw [ends] at leaves
      exact .inr ⟨leaves.2, leaves.1⟩
  | ok ending =>
      rw [ends] at leaves
      exact .inl ⟨_, _, rfl, rfl, rfl, leaves.1⟩

/-- Staging, whether it is given up or not, leaves the tree that its steps lead to. -/
theorem traces_stageFrom {made : FileTree} {root : Location} (sound : made.IsSound)
    (holds : made.shape? root = some .directory) :
    Traces (stagingWalk root out) made root out (stageFrom made root out kind policy).tree
      (stagingSteps kind policy made root out) := by
  rcases @stageFrom_cases kind policy out _ _ sound holds with
    ⟨last, steps, -, same, same', traces⟩ | ⟨-, traces⟩
  · rw [same, same']
    exact traces
  · exact traces

end Project
end Instrument
