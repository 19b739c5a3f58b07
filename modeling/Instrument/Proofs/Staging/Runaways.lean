import Instrument.Proofs.Files.Silence
import Instrument.Proofs.Staging.Frame

/-!
# Walks that feed on themselves

A walk that has come to the output finds there what has been made so far.  For every directory of
that it makes another one further down, and comes to that one in turn.  So if no rules hold it back,
staging that has visited the output never gets to its end: it goes on until something fails, at last
because the paths get too long.  Staging that does get to its end has gone around the output.
-/

namespace Instrument
namespace Project

open Files (Entry FileTree Location Shape IsName)
open Walk (Place Root Step Visit enter visitBelow visitName)

variable {kind : MarkerKind} {policy : MarkerPolicy} {made tree : FileTree} {out : Location}

/-! ## No rules turn up -/

/-- A visit makes nothing under a name that is nowhere in the tree. -/
theorem Traces.hasNoRules {walk : Walk} {root : Location} {steps : List Step}
    (traces : Traces walk made root out tree steps) (free : made.IsLinkFree out)
    (noRules : Ignore.HasNoRules made) : Ignore.HasNoRules tree := by
  induction traces with
  | start => exact noRules
  | @step tree next steps visit found before comes changes inductionHypothesis =>
      intro location name among
      by_contra there
      have changed : next.shape? (location ++ [name]) ≠ tree.shape? (location ++ [name]) := by
        rw [inductionHypothesis location name among]
        exact there
      have free' := free.of_keepsPlaces (before.keeps.trans changes.keeps)
      rcases changes.reached _ changed with ⟨inside, _, leads⟩
      have straight := leads.eq_append (fun above _ => free'.noLinks above) comes.isEntryNames
      rcases comes.leads with ⟨_, way⟩
      have isNames := comes.isEntryNames
      rcases List.eq_nil_or_concat visit.path with none | ⟨above, last, same⟩
      · exact inside none
      rw [List.concat_eq_append] at same
      rw [same] at way straight isNames
      rw [← List.append_assoc] at straight
      cases List.singleton_inj.mp (List.append_inj' straight rfl).2
      rcases FileTree.exists_of_leads_append way with ⟨between, _, _, -, -, last⟩
      exact FileTree.not_leads_of_free (isNames name (by simp))
        (inductionHypothesis between name among) last

/-! ## Where the walk is -/

/-- Staging has come to a directory, and no rules apply there. -/
structure Wanders (made : FileTree) (root out : Location) (place : Place)
    (state : Progress × List Step) : Prop where
  traces : Traces (stagingWalk root out) made root out state.1.tree state.2
  comes : (stagingWalk root out).ComesTo state.1.tree root place.path place.location
  silent : ∀ layer ∈ place.layers, layer.IsSilent

section Wandering

variable {root : Root} {place : Place} {state next : Progress × List Step} {name : String}
  {location : Location} {entry : Entry}

/-- Without rules, an entry is visited if the walk admits its names. -/
theorem Wanders.visits_eq (wanders : Wanders made root.location out place state)
    (path : List String) (isDirectory : Bool) :
    (stagingWalk root.location out).visits root place path isDirectory =
      (stagingWalk root.location out).admits path := by
  rw [Walk.visits, Ignore.verdict_of_isSilent wanders.silent]
  rfl

/-- From a directory the walk goes on to those in it. -/
theorem Wanders.enter (sound : made.IsSound) (free : made.IsLinkFree out)
    (noRules : Ignore.HasNoRules made) (wanders : Wanders made root.location out place state)
    (isName : IsName name)
    (step : ∃ links, state.1.tree.Leads links place.location [name] location)
    {isDirectory : Bool}
    (taken : (stagingWalk root.location out).visits root place (place.path ++ [name])
      isDirectory = true) {visit : Visit} (about : visit.path = place.path ++ [name])
    (visited : (staging kind policy out).recorded.visit state visit = .ok next) :
    Wanders made root.location out
      (enter state.1.tree root place location (place.path ++ [name])) next ∧
    state.1.tree.KeepsPlaces next.1.tree := by
  have comes := wanders.comes.concat step isName taken
  have leaves := (@preserves_traces kind policy out _ _ root.location sound).visit state visit
    location wanders.traces (about ▸ comes)
  rw [visited] at leaves
  refine ⟨⟨leaves.1, comes.mono leaves.2, fun layer member => ?_⟩, leaves.2⟩
  rcases List.mem_cons.mp member with rfl | member
  · exact (wanders.traces.hasNoRules free noRules).isSilent _ _
  · exact wanders.silent layer member

/-! ## In the output -/

theorem shape?_of_addDirectory {progress next : Progress} {path : List String}
    (free : next.tree.IsLinkFree out) (isNames : ∀ name ∈ path, IsName name)
    (added : progress.addDirectory out path = .ok next) :
    next.tree.shape? (out ++ path) = some .directory := by
  have reached : ∃ location, next.tree.follow FileTree.linkLimit out path = .ok location ∧
      next.tree.shape? location = some .directory := by
    rw [Progress.addDirectory] at added
    split at added
    next made makes =>
      cases added
      rcases List.eq_nil_or_concat path with rfl | ⟨above, last, rfl⟩
      · cases makes
      · rw [List.concat_eq_append] at makes isNames ⊢
        have isName := isNames last (by simp)
        rcases FileTree.exists_of_makeDirectory (FileTree.ne_blank_of_isEntryName isName.1)
          isName.2 makes with ⟨holder, reached, there, -⟩
        exact ⟨_, reached, FileTree.shape?_of_at? there⟩
    next =>
      split at added
      next there =>
        cases added
        exact FileTree.follow_of_unlessDirectory there
      next => cases added
  rcases reached with ⟨location, reached, holds⟩
  rcases FileTree.leads_of_follow reached with ⟨links, -, leads⟩
  cases leads.eq_append (fun above _ => free.noLinks above) fun name member => (isNames name member).1
  exact holds

/-- The walk is in the output, with the counterpart of a directory around it below: the names that
lead to where it is are the first ones of those it has come by. -/
structure IsCaught (out : Location) (place : Place) (tree : FileTree) : Prop where
  exists_names : ∃ front rest, rest ≠ [] ∧ place.path = front ++ rest ∧ place.location = out ++ front
  counterpart : tree.shape? (out ++ place.path) = some .directory

namespace IsCaught

/-- One of the directories in the output leads on to a place of the same kind. -/
theorem exists_name (caught : IsCaught out place tree) : ∃ name,
    tree.shape? (place.location ++ [name]) = some .directory ∧
      ∃ front rest, rest ≠ [] ∧ place.path ++ [name] = front ++ rest ∧
        place.location ++ [name] = out ++ front := by
  rcases caught.exists_names with ⟨front, rest, inside, path, there⟩
  rcases List.exists_cons_of_ne_nil inside with ⟨name, behind, rfl⟩
  refine ⟨name, ?_, front ++ [name], behind ++ [name], by simp, by simp [path], by simp [there]⟩
  have counterpart := caught.counterpart
  rw [path, ← List.append_assoc, ← there] at counterpart
  cases behind with
  | nil => exact counterpart
  | cons other behind =>
      rw [List.append_cons] at counterpart
      exact FileTree.shape?_append_cons counterpart

theorem mono {next : FileTree} (caught : IsCaught out place tree) (keeps : tree.KeepsPlaces next) :
    IsCaught out place next :=
  ⟨caught.exists_names, keeps.directories _ caught.counterpart⟩

end IsCaught

/-- The names by which the walk has got into the output lead there over a link. -/
theorem admits_of_isCaught (sound : made.IsSound) (holds : made.shape? out = some .directory)
    (wanders : Wanders made root.location out place state)
    (caught : IsCaught out place state.1.tree) (name : String) :
    (stagingWalk root.location out).admits (place.path ++ [name]) = true := by
  rcases caught.exists_names with ⟨front, rest, inside, path, there⟩
  have longer := List.length_pos_iff.mpr inside
  have notBuild : place.path ++ [name] ≠ ["target"] := by
    rw [path]
    intro same
    have lengths := congrArg List.length same
    simp only [List.length_append, List.length_singleton] at lengths
    omega
  have notOutput : root.location ++ (place.path ++ [name]) ≠ out := by
    rintro rfl
    rw [← List.append_assoc] at holds
    have straight := FileTree.leads_names root.location sound (FileTree.shape?_append_cons holds)
      fun _ same => by cases same
    rcases wanders.comes.leads with ⟨links, leads⟩
    have same := (wanders.traces.keeps.leads straight).unique leads
    rw [there] at same
    have lengths := congrArg List.length same
    simp at lengths
  simp [stagingWalk, isBuildOutput, notBuild, notOutput]

/-- A directory that is visited has a counterpart then. -/
theorem shape?_of_visit (free : next.1.tree.IsLinkFree out) {path : List String}
    (isNames : ∀ name ∈ path, IsName name) (isDirectory : entry.isDirectory = true)
    (visited : (staging kind policy out).recorded.visit state (.ofEntry path entry) = .ok next) :
    next.1.tree.shape? (out ++ path) = some .directory := by
  cases entry with
  | file content => cases isDirectory
  | link target => cases isDirectory
  | directory entries =>
      have made : (staging kind policy out).visit state.1 (.ofEntry path (.directory entries)) =
          stageVisit kind policy out state.1 (.directory path) := rfl
      rw [Walk.recorded_visit, made, stageVisit] at visited
      cases added : state.1.addDirectory out path with
      | error obstacle => rw [added] at visited; cases visited
      | ok progress =>
          rw [added] at visited
          cases visited
          exact shape?_of_addDirectory free isNames added

/-- From where it is caught, the walk goes on to where it is caught again. -/
theorem not_visitBelow_of_isCaught (sound : made.IsSound)
    (empty : made.at? out = some (.directory [])) (noRules : Ignore.HasNoRules made) (depth : Nat)
    (wanders : Wanders made root.location out place state)
    (caught : IsCaught out place state.1.tree) (last : Progress × List Step) :
    visitBelow (stagingWalk root.location out) (staging kind policy out).recorded root depth place
      state ≠ .ok last := by
  induction depth generalizing place state last with
  | zero => exact fun done => by cases done
  | succ depth inductionHypothesis =>
      intro done
      have free := FileTree.isLinkFree_of_empty empty
      have noLink : ∀ target, Shape.directory ≠ .link target := fun _ same => by cases same
      rcases caught.exists_name with ⟨name, held, names⟩
      have present : state.1.tree.shape? (place.location ++ [name]) ≠ none :=
        held ▸ Option.some_ne_none _
      rcases Walk.exists_of_visitBelow rfl (preserves_traces sound) wanders.traces wanders.comes done
        present with ⟨between, next, traces, keeps, visited⟩
      have wanders' : Wanders made root.location out place between :=
        ⟨traces, wanders.comes.mono keeps, wanders.silent⟩
      have caught' := caught.mono keeps
      have held' := keeps.directories _ held
      rcases Walk.exists_of_visitName visited with ⟨location, entry, same, outcome⟩
      rcases @Walk.destination_of_shape? (stagingWalk root.location out) root place name _ _ held'
        noLink with ⟨entry', directory, same'⟩
      cases same'.symm.trans same
      rcases outcome with ⟨passed, -⟩ | ⟨taken, next', done', further, -⟩
      · rw [wanders'.visits_eq, admits_of_isCaught sound (FileTree.shape?_of_at? empty) wanders'
          caught'] at passed
        cases passed
      · have isName := FileTree.isName_of_shape? (wanders'.traces.sound sound) held'
        have enters : between.1.tree.Leads 0 place.location [name] (place.location ++ [name]) :=
          .enter (FileTree.shape?_append_cons held') isName.1 held' noLink (.done _)
        have isDirectory := Entry.isDirectory_iff.mpr directory
        have wanders'' := (wanders'.enter sound free noRules isName ⟨_, enters⟩ taken
          (Visit.path_ofEntry _ _) done').1
        have free' := free.of_keepsPlaces wanders''.traces.keeps
        exact inductionHypothesis wanders''
          ⟨names, shape?_of_visit free' wanders''.comes.isNames isDirectory done'⟩ _
          (further isDirectory)

/-! ## Around the output -/

/-- Every part of a path leads to another place than the output. -/
def Bypasses (tree : FileTree) (root out : Location) (path : List String) : Prop :=
  ∀ above, above <+: path → above ≠ [] →
    ∃ found, (∃ links, tree.Leads links root above found) ∧ found ≠ out

theorem bypasses_nil (tree : FileTree) (root out : Location) : Bypasses tree root out [] :=
  fun _ within inside => absurd (List.prefix_nil.mp within) inside

theorem Bypasses.mono {root : Location} {path : List String} {next : FileTree}
    (bypasses : Bypasses tree root out path) (keeps : tree.KeepsPlaces next) :
    Bypasses next root out path := by
  intro above within inside
  rcases bypasses above within inside with ⟨found, ⟨links, leads⟩, away⟩
  exact ⟨found, ⟨links, keeps.leads leads⟩, away⟩

theorem Bypasses.concat {root : Location} {path : List String}
    (bypasses : Bypasses tree root out path)
    (leads : ∃ links, tree.Leads links root (path ++ [name]) location) (away : location ≠ out) :
    Bypasses tree root out (path ++ [name]) := by
  intro above within inside
  rcases List.prefix_concat_iff.mp within with rfl | within
  · exact ⟨location, leads, away⟩
  · exact bypasses above within inside

/-- All that has been visited so far has been visited around the output. -/
def AllBypass (root out : Location) (steps : List Step) : Prop :=
  ∀ step ∈ steps, Bypasses step.tree root out step.visit.path

theorem AllBypass.concat {root : Location} {steps : List Step} (all : AllBypass root out steps)
    {step : Step} (last : Bypasses step.tree root out step.visit.path) :
    AllBypass root out (steps ++ [step]) := by
  intro other member
  rcases List.mem_append.mp member with member | member
  · exact all other member
  · cases List.mem_singleton.mp member
    exact last

/-- A visit puts itself on record. -/
theorem steps_of_recorded_visit {visit : Visit}
    (visited : (staging kind policy out).recorded.visit state visit = .ok next) :
    next.2 = state.2 ++ [⟨state.1.tree, visit⟩] := by
  rw [Walk.recorded_visit] at visited
  split at visited
  next => cases visited; rfl
  next => cases visited

/-- Where the walk goes on behind a name, it has gone around the output. -/
theorem allBypass_of_visitName (sound : made.IsSound)
    (empty : made.at? out = some (.directory [])) (noRules : Ignore.HasNoRules made) {depth : Nat}
    (below : ∀ place state last, Wanders made root.location out place state →
      Bypasses state.1.tree root.location out place.path →
      AllBypass root.location out state.2 →
      visitBelow (stagingWalk root.location out) (staging kind policy out).recorded root depth place
        state = .ok last → AllBypass root.location out last.2)
    (wanders : Wanders made root.location out place state)
    (bypasses : Bypasses state.1.tree root.location out place.path)
    (all : AllBypass root.location out state.2)
    (present : state.1.tree.shape? (place.location ++ [name]) ≠ none)
    (done : visitName (stagingWalk root.location out) (staging kind policy out).recorded root
      (visitBelow (stagingWalk root.location out) (staging kind policy out).recorded root depth)
      place state name = .ok next) : AllBypass root.location out next.2 := by
  have free := FileTree.isLinkFree_of_empty empty
  rcases Option.ne_none_iff_exists'.mp present with ⟨shape, found⟩
  have isName := FileTree.isName_of_shape? (wanders.traces.sound sound) found
  rcases Walk.exists_of_visitName done with ⟨location, entry, same, outcome⟩
  rcases Walk.leads_of_destination rfl isName (FileTree.shape?_append_cons found) same with
    ⟨leads, there⟩
  rcases outcome with ⟨-, rfl⟩ | ⟨taken, between, visited, further, ends⟩
  · exact all
  rcases wanders.enter sound free noRules isName leads taken (Visit.path_ofEntry _ _) visited with
    ⟨wanders', keeps⟩
  have comes := wanders.comes.concat leads isName taken
  have steps := steps_of_recorded_visit visited
  have free' := free.of_keepsPlaces wanders'.traces.keeps
  have away : location ≠ out := by
    rintro rfl
    have isDirectory : entry.isDirectory = true := by
      have holds := (free.of_keepsPlaces wanders.traces.keeps).holds
      rw [FileTree.shape?_of_at? there] at holds
      exact Entry.isDirectory_iff.mpr (Option.some.inj holds)
    have caught : IsCaught location (enter state.1.tree root place location (place.path ++ [name]))
        between.1.tree :=
      ⟨⟨[], place.path ++ [name], by simp, rfl, (List.append_nil _).symm⟩,
        shape?_of_visit free' wanders'.comes.isNames isDirectory visited⟩
    exact not_visitBelow_of_isCaught sound empty noRules depth wanders' caught next
      (further isDirectory)
  have bypasses' := bypasses.concat comes.leads away
  have all' : AllBypass root.location out between.2 := by
    rw [steps]
    refine all.concat ?_
    rw [Visit.path_ofEntry]
    exact bypasses'
  cases isDirectory : entry.isDirectory with
  | false =>
      rw [ends isDirectory]
      exact all'
  | true => exact below _ between next wanders' (bypasses'.mono keeps) all' (further isDirectory)

theorem allBypass_of_foldlM (sound : made.IsSound)
    (empty : made.at? out = some (.directory [])) (noRules : Ignore.HasNoRules made) {depth : Nat}
    (below : ∀ place state last, Wanders made root.location out place state →
      Bypasses state.1.tree root.location out place.path →
      AllBypass root.location out state.2 →
      visitBelow (stagingWalk root.location out) (staging kind policy out).recorded root depth place
        state = .ok last → AllBypass root.location out last.2)
    (wanders : Wanders made root.location out place state)
    (bypasses : Bypasses state.1.tree root.location out place.path)
    (all : AllBypass root.location out state.2) {names : List String}
    (present : ∀ name ∈ names, state.1.tree.shape? (place.location ++ [name]) ≠ none)
    (done : names.foldlM (visitName (stagingWalk root.location out)
      (staging kind policy out).recorded root (visitBelow (stagingWalk root.location out)
        (staging kind policy out).recorded root depth) place) state = .ok next) :
    AllBypass root.location out next.2 := by
  induction names generalizing state with
  | nil =>
      cases done
      exact all
  | cons name rest inductionHypothesis =>
      have preserves := @preserves_traces kind policy out (stagingWalk root.location out) made
        root.location sound
      have leaves := Walk.leaves_visitName rfl preserves
        (fun _ _ => Walk.leaves_visitBelow rfl preserves depth) wanders.traces wanders.comes
        (present name (.head _))
      rw [List.foldlM_cons] at done
      cases first : visitName (stagingWalk root.location out) (staging kind policy out).recorded root
        (visitBelow (stagingWalk root.location out) (staging kind policy out).recorded root depth)
        place state name with
      | error error => rw [first] at done; cases done
      | ok between =>
          rw [first] at done leaves
          refine inductionHypothesis ⟨leaves.1, wanders.comes.mono leaves.2, wanders.silent⟩
            (bypasses.mono leaves.2) ?_ (fun name member => ?_) done
          · exact allBypass_of_visitName sound empty noRules below wanders bypasses all
              (present name (.head _)) first
          · exact leaves.2.present _ (present name (.tail _ member))

theorem allBypass_of_visitBelow (sound : made.IsSound)
    (empty : made.at? out = some (.directory [])) (noRules : Ignore.HasNoRules made) (depth : Nat)
    (wanders : Wanders made root.location out place state)
    (bypasses : Bypasses state.1.tree root.location out place.path)
    (all : AllBypass root.location out state.2)
    (done : visitBelow (stagingWalk root.location out) (staging kind policy out).recorded root depth
      place state = .ok next) : AllBypass root.location out next.2 := by
  induction depth generalizing place state next with
  | zero => cases done
  | succ depth inductionHypothesis =>
      refine allBypass_of_foldlM sound empty noRules
        (fun _ _ _ wanders bypasses all done => inductionHypothesis wanders bypasses all done)
        wanders bypasses all (fun name member => ?_) done
      rcases FileTree.mem_namesIn_iff.mp member with ⟨shape, found⟩
      exact found ▸ Option.some_ne_none shape

end Wandering

/-- Where no rules apply, staging that gets to its end has gone around the output. -/
theorem allBypass_of_isOk {root : Location} (sound : made.IsSound)
    (holds : made.shape? root = some .directory) (empty : made.at? out = some (.directory []))
    (noRules : Ignore.HasNoRules made)
    (ok : (stageFrom made root out kind policy).result.isOk = true) :
    AllBypass root out (stagingSteps kind policy made root out) := by
  rcases @stageFrom_cases kind policy out _ _ sound holds with
    ⟨last, steps, ends, same, -, -⟩ | ⟨noResult, -⟩
  · rw [same]
    have tree : (staging kind policy out).recorded.tree (⟨made, [], [], 0⟩, []) = made := rfl
    rcases FileTree.shape?_eq_directory_iff.mp holds with ⟨entries, found⟩
    rw [Walk.run, if_neg (Files.absoluteText_ne_dash root), tree,
      FileTree.resolve_absoluteText sound holds] at ends
    dsimp only at ends
    rw [found] at ends
    dsimp only at ends
    split at ends
    next =>
      split at ends
      next => cases ends
      next next visited =>
        have comes := Walk.ComesTo.start (stagingWalk root out) made root
        have leaves := (@preserves_traces kind policy out _ _ root sound).visit
          (⟨made, [], [], 0⟩, []) (.directory []) root .start comes
        rw [visited] at leaves
        have silent : ∀ layer ∈ .ofDirectory made root (root ++ []) :: Ignore.layersAbove made root,
            layer.IsSilent := by
          intro layer member
          rcases List.mem_cons.mp member with rfl | member
          · exact noRules.isSilent _ _
          · rcases Ignore.mem_layersAbove_iff.mp member with ⟨above, -, -, rfl⟩
            exact noRules.isSilent _ _
        have wanders : Wanders made root out (enter made ⟨Files.absoluteText root, root⟩
            ⟨root, [], Ignore.layersAbove made root, []⟩ root []) next :=
          ⟨leaves.1, comes.mono leaves.2, silent⟩
        have all : AllBypass root out next.2 := by
          rw [steps_of_recorded_visit visited]
          exact AllBypass.concat (fun _ member => by cases member) (bypasses_nil _ _ _)
        exact @allBypass_of_visitBelow kind policy made out ⟨Files.absoluteText root, root⟩ _ next _
          sound empty noRules _ wanders (bypasses_nil _ _ _) all ends
    next => cases ends
  · cases noResult.symm.trans ok

end Project
end Instrument
