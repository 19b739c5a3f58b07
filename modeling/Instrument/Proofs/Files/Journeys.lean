import Instrument.Proofs.Files.Following
import Instrument.Proofs.Files.Walking

/-!
# Walks over links, through trees that change

A walk that follows links comes to every place by names which lead there from its root, in the tree
as it is by then.  As long as nothing gets lost that was there before, they lead to the same place
afterwards.  So what every single visit of such a place keeps is kept by the walk as a whole, whether
it gets to its end or not.

To speak of the visits of a walk, they can be recorded; the record does not change the walk.
-/

namespace Instrument
namespace Walk

open Files (Entry FileTree Location IsName)

/-! ## Where a walk comes to -/

/-- A walk has come to a place by names that it takes in, one after the other. -/
structure ComesTo (walk : Walk) (tree : FileTree) (root : Location) (path : List String)
    (location : Location) : Prop where
  leads : ∃ links, tree.Leads links root path location
  isNames : ∀ name ∈ path, IsName name
  admitted : ∀ above, above <+: path → above ≠ [] → walk.admits above = true

namespace ComesTo

variable {walk : Walk} {tree next : FileTree} {path : List String} {location below : Location}

theorem start (walk : Walk) (tree : FileTree) (root : Location) : walk.ComesTo tree root [] root :=
  ⟨⟨0, .done _⟩, fun _ member => (by cases member), fun _ within inside =>
    absurd (List.prefix_nil.mp within) inside⟩

theorem mono {root : Location} (comes : walk.ComesTo tree root path location)
    (keeps : tree.KeepsPlaces next) : walk.ComesTo next root path location where
  leads := comes.leads.imp fun _ leads => keeps.leads leads
  isNames := comes.isNames
  admitted := comes.admitted

theorem concat {root : Root} {place : Place} {name : String}
    (comes : walk.ComesTo tree root.location path location)
    (step : ∃ links, tree.Leads links location [name] below) (isName : IsName name)
    {isDirectory : Bool} (taken : walk.visits root place (path ++ [name]) isDirectory = true) :
    walk.ComesTo tree root.location (path ++ [name]) below := by
  rcases comes.leads with ⟨links, before⟩
  rcases step with ⟨further, step⟩
  refine ⟨⟨_, before.append step⟩, fun other member => ?_, fun above within inside => ?_⟩
  · rcases List.mem_append.mp member with member | member
    · exact comes.isNames other member
    · cases List.mem_singleton.mp member
      exact isName
  · rw [visits, Bool.and_eq_true] at taken
    rcases List.prefix_concat_iff.mp within with rfl | within
    · exact taken.2
    · exact comes.admitted above within inside

/-- A walk comes to what it includes, if that is no link. -/
theorem of_includes {root : Location} {shape : Files.Shape} (sound : tree.IsSound)
    (found : tree.shape? (root ++ path) = some shape) (noLink : ∀ target, shape ≠ .link target)
    (includes : walk.Includes tree root path) : walk.ComesTo tree root path (root ++ path) where
  leads := ⟨0, FileTree.leads_names root sound found noLink⟩
  isNames := FileTree.isName_of_mem sound found
  admitted := fun above within inside => (includes above within inside).2

theorem isEntryNames {root : Location} (comes : walk.ComesTo tree root path location) :
    ∀ name ∈ path, Files.isEntryName name = true :=
  fun name member => (comes.isNames name member).1

end ComesTo

section Steps

variable {walk : Walk} {tree : FileTree} {root : Root} {place : Place} {name : String}
  {location : Location} {entry : Entry}

/-- What is behind a link that is followed. -/
theorem leads_of_target {path : List String} {link : String}
    (there : tree.at? (place.location ++ [name]) = some (.link link)) (isName : IsName name)
    (holds : tree.shape? place.location = some .directory)
    (same : target tree root place path link = .ok (location, entry)) :
    (∃ links, tree.Leads links place.location [name] location) ∧
      tree.at? location = some entry := by
  rw [target] at same
  split at same
  next => cases same
  next location' reached =>
    have leads : ∃ links, tree.Leads links place.location [name] location' := by
      rw [FileTree.resolveFrom] at reached
      split at reached
      next => cases reached
      next held =>
        rcases FileTree.leads_of_follow reached with ⟨links, -, further⟩
        exact ⟨links + 1, .jump holds isName.1 (FileTree.shape?_of_at? there)
          (Bool.eq_false_iff.mpr held) (by rw [List.append_nil]; exact further)⟩
    split at same
    next entries found' =>
      split at same
      next => cases same
      next => cases same; exact ⟨leads, found'⟩
    next found' _ there' => cases same; exact ⟨leads, there'⟩
    next => cases same

/-- A walk that follows links goes where a name leads. -/
theorem leads_of_destination (follows : walk.followsLinks = true) (isName : IsName name)
    (holds : tree.shape? place.location = some .directory)
    (same : walk.destination tree root place name = .ok (location, entry)) :
    (∃ links, tree.Leads links place.location [name] location) ∧
      tree.at? location = some entry := by
  rw [destination] at same
  split at same
  next link there =>
    rw [if_pos follows] at same
    exact leads_of_target there isName holds same
  next noLink there =>
    cases same
    refine ⟨⟨0, .enter holds isName.1 (FileTree.shape?_of_at? there) ?_ (.done _)⟩, there⟩
    intro target isLink
    cases entry with
    | link other => exact noLink other rfl
    | file content => cases isLink
    | directory entries => cases isLink
  next => cases same

end Steps

/-! ## What a walk keeps -/

namespace Errand

variable {σ ε : Type}

/-- A part of a walk has kept what holds, and nothing has got lost of the tree it started in; or it
has failed in the way it may. -/
def Leaves (errand : Errand σ ε) (holds : σ → Prop) (fails : ε → Prop) (tree : FileTree) :
    Except ε σ → Prop
  | .ok next => holds next ∧ tree.KeepsPlaces (errand.tree next)
  | .error error => fails error

/-- Every single visit of a place that the walk can come to keeps what holds. -/
structure Preserves (errand : Errand σ ε) (walk : Walk) (root : Location) (holds : σ → Prop)
    (fails : ε → Prop) : Prop where
  sound : ∀ state, holds state → (errand.tree state).IsSound
  visit : ∀ state visit location, holds state →
    walk.ComesTo (errand.tree state) root visit.path location →
    errand.Leaves holds fails (errand.tree state) (errand.visit state visit)
  giveUp : ∀ state failure, holds state → fails (errand.giveUp state failure)

end Errand

section Walks

variable {σ ε : Type} {walk : Walk} {errand : Errand σ ε} {root : Root} {holds : σ → Prop}
  {fails : ε → Prop} {place : Place} {state : σ}

theorem Errand.Leaves.trans {tree between : FileTree} {result : Except ε σ}
    (keeps : tree.KeepsPlaces between) (leaves : errand.Leaves holds fails between result) :
    errand.Leaves holds fails tree result := by
  cases result with
  | error error => exact leaves
  | ok next => exact ⟨leaves.1, keeps.trans leaves.2⟩

theorem Visit.path_ofEntry (path : List String) (entry : Entry) :
    (Visit.ofEntry path entry).path = path := by
  rw [ofEntry_eq, path_ofShape]

/-- One name, with everything the walk comes to behind it. -/
theorem leaves_visitName (follows : walk.followsLinks = true)
    (preserves : errand.Preserves walk root.location holds fails)
    {inside : Place → σ → Except ε σ}
    (below : ∀ place state, holds state →
      walk.ComesTo (errand.tree state) root.location place.path place.location →
      errand.Leaves holds fails (errand.tree state) (inside place state))
    (start : holds state)
    (comes : walk.ComesTo (errand.tree state) root.location place.path place.location)
    {name : String} (there : (errand.tree state).shape? (place.location ++ [name]) ≠ none) :
    errand.Leaves holds fails (errand.tree state)
      (visitName walk errand root inside place state name) := by
  rcases Option.ne_none_iff_exists'.mp there with ⟨shape, there⟩
  have isName := FileTree.isName_of_shape? (preserves.sound state start) there
  have holder := FileTree.shape?_append_cons there
  rw [visitName]
  split
  next failure _ => exact preserves.giveUp state failure start
  next location entry same =>
    rcases leads_of_destination follows isName holder same with ⟨step, -⟩
    split
    next taken =>
      have comes' := comes.concat step isName taken
      have visited := preserves.visit state (.ofEntry (place.path ++ [name]) entry) location start
        (by rw [Visit.path_ofEntry]; exact comes')
      split
      next error fails' =>
        rw [fails'] at visited
        exact visited
      next next done =>
        rw [done] at visited
        split
        next => exact .trans visited.2 (below _ next visited.1 (comes'.mono visited.2))
        next => exact visited
    next => exact ⟨start, .refl _⟩

/-- What has happened at a name, if the walk goes on behind it. -/
theorem exists_of_visitName {inside : Place → σ → Except ε σ} {name : String} {last : σ}
    (done : visitName walk errand root inside place state name = .ok last) :
    ∃ location entry,
      walk.destination (errand.tree state) root place name = .ok (location, entry) ∧
      ((walk.visits root place (place.path ++ [name]) entry.isDirectory = false ∧ last = state) ∨
        walk.visits root place (place.path ++ [name]) entry.isDirectory = true ∧
          ∃ next, errand.visit state (.ofEntry (place.path ++ [name]) entry) = .ok next ∧
            (entry.isDirectory = true →
              inside (enter (errand.tree state) root place location (place.path ++ [name])) next =
                .ok last) ∧
            (entry.isDirectory = false → last = next)) := by
  rw [visitName] at done
  split at done
  next => cases done
  next location entry same =>
    refine ⟨location, entry, same, ?_⟩
    split at done
    next taken =>
      split at done
      next => cases done
      next next visited =>
        refine .inr ⟨taken, next, visited, ?_⟩
        split at done
        next isDirectory =>
          exact ⟨fun _ => done, fun noDirectory => absurd isDirectory (by simp [noDirectory])⟩
        next noDirectory =>
          cases done
          exact ⟨fun isDirectory => absurd isDirectory noDirectory, fun _ => rfl⟩
    next passed =>
      cases done
      exact .inl ⟨Bool.eq_false_iff.mpr passed, rfl⟩

/-- Where the walk goes on behind several names, it has gone on behind each of them. -/
theorem exists_of_foldlM {α : Type} {step : σ → α → Except ε σ} {before behind : List α} {thing : α}
    {last : σ} (done : (before ++ thing :: behind).foldlM step state = .ok last) :
    ∃ between next, before.foldlM step state = .ok between ∧ step between thing = .ok next := by
  rw [List.foldlM_append] at done
  cases first : before.foldlM step state with
  | error error => rw [first] at done; cases done
  | ok between =>
      rw [first] at done
      change (thing :: behind).foldlM step between = .ok last at done
      rw [List.foldlM_cons] at done
      cases further : step between thing with
      | error error => rw [further] at done; cases done
      | ok next => exact ⟨between, next, rfl, further⟩

/-- Names that are in a directory from the start, one after the other. -/
theorem leaves_foldlM (follows : walk.followsLinks = true)
    (preserves : errand.Preserves walk root.location holds fails)
    {inside : Place → σ → Except ε σ}
    (below : ∀ place state, holds state →
      walk.ComesTo (errand.tree state) root.location place.path place.location →
      errand.Leaves holds fails (errand.tree state) (inside place state))
    {names : List String} (start : holds state)
    (comes : walk.ComesTo (errand.tree state) root.location place.path place.location)
    (there : ∀ name ∈ names, (errand.tree state).shape? (place.location ++ [name]) ≠ none) :
    errand.Leaves holds fails (errand.tree state)
      (names.foldlM (visitName walk errand root inside place) state) := by
  induction names generalizing state with
  | nil => exact ⟨start, .refl _⟩
  | cons name rest inductionHypothesis =>
      have first := leaves_visitName follows preserves below start comes (there name (.head _))
      rw [List.foldlM_cons]
      cases done : visitName walk errand root inside place state name with
      | error error =>
          rw [done] at first
          exact first
      | ok next =>
          rw [done] at first
          refine .trans first.2 (inductionHypothesis first.1 (comes.mono first.2) ?_)
          exact fun name member => first.2.present _ (there name (.tail _ member))

theorem leaves_visitBelow (follows : walk.followsLinks = true)
    (preserves : errand.Preserves walk root.location holds fails) (depth : Nat)
    (start : holds state)
    (comes : walk.ComesTo (errand.tree state) root.location place.path place.location) :
    errand.Leaves holds fails (errand.tree state)
      (visitBelow walk errand root depth place state) := by
  induction depth generalizing place state with
  | zero => exact preserves.giveUp state _ start
  | succ depth inductionHypothesis =>
      rw [visitBelow]
      refine leaves_foldlM follows preserves (fun _ _ => inductionHypothesis) start comes ?_
      intro name member
      rcases FileTree.mem_namesIn_iff.mp member with ⟨shape, there⟩
      exact there ▸ Option.some_ne_none shape

/-- Where the walk goes on behind a directory, it has been to every name in it. -/
theorem exists_of_visitBelow (follows : walk.followsLinks = true)
    (preserves : errand.Preserves walk root.location holds fails) {depth : Nat}
    (start : holds state)
    (comes : walk.ComesTo (errand.tree state) root.location place.path place.location) {last : σ}
    (done : visitBelow walk errand root (depth + 1) place state = .ok last) {name : String}
    (there : (errand.tree state).shape? (place.location ++ [name]) ≠ none) :
    ∃ between next, holds between ∧ (errand.tree state).KeepsPlaces (errand.tree between) ∧
      visitName walk errand root (visitBelow walk errand root depth) place between name =
        .ok next := by
  rw [visitBelow] at done
  dsimp only at done
  have member := FileTree.mem_namesIn_iff.mpr (Option.ne_none_iff_exists'.mp there)
  rcases List.append_of_mem member with ⟨before, behind, names⟩
  rw [names] at done
  rcases exists_of_foldlM done with ⟨between, next, first, visited⟩
  have earlier (name : String) (member : name ∈ before) :
      (errand.tree state).shape? (place.location ++ [name]) ≠ none := by
    rcases FileTree.mem_namesIn_iff.mp (names ▸ List.mem_append_left _ member) with ⟨shape, found⟩
    exact found ▸ Option.some_ne_none shape
  have leaves := leaves_foldlM follows preserves
    (fun _ _ => leaves_visitBelow follows preserves depth) start comes earlier
  rw [first] at leaves
  exact ⟨between, next, leaves.1, leaves.2, visited⟩

/-- A walk keeps what each of its visits keeps. -/
theorem leaves_run (follows : walk.followsLinks = true) {location : Location}
    (preserves : errand.Preserves walk location holds fails) (start : holds state) {path : String}
    (reached : (errand.tree state).resolve path = .ok location) :
    errand.Leaves holds fails (errand.tree state) (walk.run errand state path) := by
  have comes := ComesTo.start walk (errand.tree state) location
  rw [run]
  dsimp only
  split
  next => exact ⟨start, .refl _⟩
  next =>
    rw [reached]
    dsimp only
    split
    next content _ => exact preserves.visit state (.file [] content) location start comes
    next =>
      split
      next =>
        have visited := preserves.visit state (.directory []) location start comes
        split
        next error fails' =>
          rw [fails'] at visited
          exact visited
        next next done =>
          rw [done] at visited
          exact .trans visited.2 (@leaves_visitBelow _ _ walk errand ⟨path, location⟩ _ _ _ _ follows
            preserves _ visited.1 (comes.mono visited.2))
      next reports _ => exact preserves.giveUp state _ start
    next => exact preserves.giveUp state _ start

end Walks

/-! ## A record of the visits -/

/-- A step of a walk: what is visited, and the tree in which the walk comes to it. -/
structure Step where
  tree : FileTree
  visit : Visit

namespace Errand

variable {σ ε : Type}

/-- The same errand with a record of its steps. -/
def recorded (errand : Errand σ ε) : Errand (σ × List Step) (ε × List Step) where
  tree := fun state => errand.tree state.1
  visit := fun state visit =>
    let steps := state.2 ++ [⟨errand.tree state.1, visit⟩]
    match errand.visit state.1 visit with
    | .ok next => .ok (next, steps)
    | .error error => .error (error, steps)
  giveUp := fun state failure => (errand.giveUp state.1 failure, state.2)

/-- The record at the end. -/
def steps : Except (ε × List Step) (σ × List Step) → List Step
  | .ok (_, steps) => steps
  | .error (_, steps) => steps

/-- The end without the record. -/
def withoutSteps : Except (ε × List Step) (σ × List Step) → Except ε σ
  | .ok (state, _) => .ok state
  | .error (error, _) => .error error

end Errand

section Recorded

variable {σ ε : Type} (walk : Walk) (errand : Errand σ ε) (root : Root)

/-- To a recorded part of a walk belongs one without the record. -/
def Records (recorded : σ × List Step → Except (ε × List Step) (σ × List Step))
    (plain : σ → Except ε σ) : Prop :=
  ∀ state steps, Errand.withoutSteps (recorded (state, steps)) = plain state

theorem recorded_visit (state : σ) (steps : List Step) (visit : Visit) :
    errand.recorded.visit (state, steps) visit =
      match errand.visit state visit with
      | .ok next => .ok (next, steps ++ [⟨errand.tree state, visit⟩])
      | .error error => .error (error, steps ++ [⟨errand.tree state, visit⟩]) :=
  rfl

variable {inside : Place → σ → Except ε σ}
  {inside' : Place → σ × List Step → Except (ε × List Step) (σ × List Step)}

theorem records_visitName (records : ∀ place, Records (inside' place) (inside place))
    (place : Place) (name : String) :
    Records (visitName walk errand.recorded root inside' place · name)
      (visitName walk errand root inside place · name) := by
  intro state steps
  have sameTree : errand.recorded.tree (state, steps) = errand.tree state := rfl
  simp only [visitName, sameTree, recorded_visit]
  cases walk.destination (errand.tree state) root place name with
  | error failure => rfl
  | ok found =>
      dsimp only
      split
      next =>
        cases errand.visit state (.ofEntry (place.path ++ [name]) found.2) with
        | error error => rfl
        | ok next =>
            dsimp only
            split
            next => exact records _ next _
            next => rfl
      next => rfl

theorem records_foldlM (records : ∀ place, Records (inside' place) (inside place))
    (place : Place) (names : List String) :
    Records (names.foldlM (visitName walk errand.recorded root inside' place))
      (names.foldlM (visitName walk errand root inside place)) := by
  induction names with
  | nil => exact fun _ _ => rfl
  | cons name rest inductionHypothesis =>
      intro state steps
      have first : Errand.withoutSteps
          (visitName walk errand.recorded root inside' place (state, steps) name) =
            visitName walk errand root inside place state name :=
        records_visitName walk errand root records place name state steps
      simp only [List.foldlM_cons, ← first]
      cases visitName walk errand.recorded root inside' place (state, steps) name with
      | error error => rfl
      | ok next => exact inductionHypothesis next.1 next.2

theorem records_visitBelow (depth : Nat) (place : Place) :
    Records (visitBelow walk errand.recorded root depth place)
      (visitBelow walk errand root depth place) := by
  induction depth generalizing place with
  | zero => exact fun _ _ => rfl
  | succ depth inductionHypothesis =>
      exact fun state steps =>
        records_foldlM walk errand root inductionHypothesis place _ state steps

/-- A record does not change the walk. -/
theorem withoutSteps_run (state : σ) (steps : List Step) (path : String) :
    Errand.withoutSteps (walk.run errand.recorded (state, steps) path) =
      walk.run errand state path := by
  have sameTree : errand.recorded.tree (state, steps) = errand.tree state := rfl
  simp only [run, sameTree, recorded_visit]
  split
  next => rfl
  next =>
    split
    next => rfl
    next location _ =>
      split
      next content _ => cases errand.visit state (.file [] content) <;> rfl
      next =>
        split
        next =>
          cases errand.visit state (.directory []) with
          | error error => rfl
          | ok next => exact records_visitBelow walk errand _ _ _ next _
        next => rfl
      next => rfl

end Recorded

end Walk
end Instrument
