import Instrument.Proofs.Files.Shapes

/-!
# Where paths lead

A path is followed from place to place, and what happens at a piece of it only depends on what
stands there.  This makes following a relation, with the number of links that were followed beside
it: a path is followed successfully if it leads somewhere over few enough links.  The relation says
what stays the same when a path is taken apart, when pieces are left out that stay where they are,
and when the tree grows.
-/

namespace Instrument
namespace Files

/-- A piece of a path that stays where it is. -/
def IsStill (piece : String) : Prop :=
  piece = "" ∨ piece = "."

namespace FileTree

/-- One step along a path, by what stands where it is made. -/
theorem step_cons (tree : FileTree) (jump : Location → List String → Except Obstacle Location)
    (here : Location) (piece : String) (rest : List String) :
    tree.step jump here (piece :: rest) =
      match tree.shape? here with
      | some .directory =>
        if piece = "" || piece = "." then tree.step jump here rest
        else if piece = ".." then tree.step jump here.dropLast rest
        else match tree.shape? (here ++ [piece]) with
        | some (.link target) =>
          if target.isEmpty then .error .notFound
          else jump (startOf here target) (pieces target ++ rest)
        | some _ => tree.step jump (here ++ [piece]) rest
        | none => .error .notFound
      | some _ => .error .notDirectory
      | none => .error .notFound := by
  rw [step]
  cases found : tree.at? here with
  | none => rw [shape?, found]; rfl
  | some entry =>
      rw [shape?, found]
      cases entry with
      | file content => rfl
      | link target => rfl
      | directory entries =>
          rw [shape?, at?_append_of_directory found]
          dsimp only [Option.map_some, Entry.shape]
          cases entries.lookup piece with
          | none => rfl
          | some held => cases held <;> rfl

/-- A path leads from one place to another over a number of links. -/
inductive Leads (tree : FileTree) : Nat → Location → List String → Location → Prop
  | done (here : Location) : Leads tree 0 here [] here
  | stay {links : Nat} {here location : Location} {piece : String} {rest : List String}
      (holds : tree.shape? here = some .directory) (still : IsStill piece)
      (further : Leads tree links here rest location) :
      Leads tree links here (piece :: rest) location
  | up {links : Nat} {here location : Location} {rest : List String}
      (holds : tree.shape? here = some .directory)
      (further : Leads tree links here.dropLast rest location) :
      Leads tree links here (".." :: rest) location
  | enter {links : Nat} {here location : Location} {piece : String} {rest : List String}
      {shape : Shape} (holds : tree.shape? here = some .directory)
      (isName : isEntryName piece = true) (found : tree.shape? (here ++ [piece]) = some shape)
      (noLink : ∀ target, shape ≠ .link target)
      (further : Leads tree links (here ++ [piece]) rest location) :
      Leads tree links here (piece :: rest) location
  | jump {links : Nat} {here location : Location} {piece target : String} {rest : List String}
      (holds : tree.shape? here = some .directory)
      (isName : isEntryName piece = true)
      (found : tree.shape? (here ++ [piece]) = some (.link target)) (held : target.isEmpty = false)
      (further : Leads tree links (startOf here target) (pieces target ++ rest) location) :
      Leads tree (links + 1) here (piece :: rest) location

variable {tree : FileTree} {links : Nat} {here location : Location} {path : List String}

theorem isEntryName_of_not {piece : String} (still : ¬ (piece = "" || piece = ".") = true)
    (notUp : ¬ piece = "..") : isEntryName piece = true := by
  simp_all [isEntryName]

theorem not_isStill {piece : String} (isName : isEntryName piece = true) :
    (piece = "" || piece = ".") = false ∧ ¬ piece = ".." := by
  simp_all [isEntryName]

theorem ne_blank_of_isEntryName {piece : String} (isName : isEntryName piece = true) :
    piece ≠ "" := by
  rintro rfl
  exact absurd isName (by decide)

/-- A step that succeeds leads somewhere, if jumps do. -/
theorem leads_of_step {jump : Location → List String → Except Obstacle Location}
    (jumps : ∀ here path, jump here path = .ok location →
      ∃ used < links, tree.Leads used here path location)
    (found : tree.step jump here path = .ok location) :
    ∃ used ≤ links, tree.Leads used here path location := by
  -- Every step but a jump goes on with the rest of the path; `jumps` is about what is behind a link.
  induction path generalizing here with
  | nil =>
      cases found
      exact ⟨0, Nat.zero_le _, .done _⟩
  | cons piece rest inductionHypothesis =>
      rw [step_cons] at found
      cases holds : tree.shape? here with
      | none => rw [holds] at found; cases found
      | some shape =>
          rw [holds] at found
          cases shape with
          | file content => cases found
          | link target => cases found
          | directory =>
              dsimp only at found
              split at found
              next still =>
                rcases inductionHypothesis found with ⟨used, few, further⟩
                exact ⟨used, few, .stay holds (by simpa [IsStill] using still) further⟩
              next notStill =>
                split at found
                next up =>
                  rcases inductionHypothesis found with ⟨used, few, further⟩
                  exact ⟨used, few, up ▸ .up holds further⟩
                next notUp =>
                  have isName := isEntryName_of_not notStill notUp
                  cases there : tree.shape? (here ++ [piece]) with
                  | none => rw [there] at found; cases found
                  | some shape =>
                      rw [there] at found
                      cases shape with
                      | link target =>
                          dsimp only at found
                          split at found
                          next => cases found
                          next held =>
                            rcases jumps _ _ found with ⟨used, few, further⟩
                            exact ⟨used + 1, few,
                              .jump holds isName there (Bool.eq_false_iff.mpr held) further⟩
                      | file content =>
                          rcases inductionHypothesis found with ⟨used, few, further⟩
                          exact ⟨used, few, .enter holds isName there (by simp) further⟩
                      | directory =>
                          rcases inductionHypothesis found with ⟨used, few, further⟩
                          exact ⟨used, few, .enter holds isName there (by simp) further⟩

/-- How a path is followed behind a link, if so many more links may be followed. -/
def behindLink (tree : FileTree) : Nat → Location → List String → Except Obstacle Location
  | 0 => fun _ _ => .error .tooManyLinks
  | links + 1 => tree.follow links

theorem follow_eq_step (tree : FileTree) (links : Nat) :
    tree.follow links = tree.step (tree.behindLink links) := by
  cases links <;> rfl

theorem leads_of_follow (found : tree.follow links here path = .ok location) :
    ∃ used ≤ links, tree.Leads used here path location := by
  induction links generalizing here path with
  | zero =>
      rw [follow_eq_step] at found
      exact leads_of_step (fun _ _ found => by cases found) found
  | succ links inductionHypothesis =>
      rw [follow_eq_step] at found
      refine leads_of_step (fun here path found => ?_) found
      rcases inductionHypothesis found with ⟨used, few, further⟩
      exact ⟨used, Nat.lt_succ_of_le few, further⟩

/-- A path that leads somewhere is followed, if enough links may be. -/
theorem follow_of_leads {used : Nat} (leads : tree.Leads used here path location)
    (few : used ≤ links) : tree.follow links here path = .ok location := by
  induction leads generalizing links with
  | done here => rw [follow_eq_step]; rfl
  | stay holds still further inductionHypothesis =>
      rw [follow_eq_step, step_cons, holds]
      dsimp only
      rw [if_pos (by simpa [IsStill] using still), ← follow_eq_step]
      exact inductionHypothesis few
  | up holds further inductionHypothesis =>
      rw [follow_eq_step, step_cons, holds]
      dsimp only
      rw [if_neg (by decide), if_pos rfl, ← follow_eq_step]
      exact inductionHypothesis few
  | enter holds isName found noLink further inductionHypothesis =>
      rename_i shape
      rw [follow_eq_step, step_cons, holds, found]
      dsimp only
      rw [(not_isStill isName).1, if_neg (by simp), if_neg (not_isStill isName).2]
      cases shape with
      | link target => exact absurd rfl (noLink target)
      | file content => dsimp only; rw [← follow_eq_step]; exact inductionHypothesis few
      | directory => dsimp only; rw [← follow_eq_step]; exact inductionHypothesis few
  | jump holds isName found held further inductionHypothesis =>
      cases links with
      | zero => cases few
      | succ links =>
          rw [follow_eq_step, step_cons, holds, found]
          dsimp only
          rw [(not_isStill isName).1, if_neg (by simp), if_neg (not_isStill isName).2, held,
            if_neg (by simp)]
          exact inductionHypothesis (Nat.le_of_succ_le_succ few)

theorem Leads.unique {first second : Nat} {other : Location}
    (leads : tree.Leads first here path location) (leads' : tree.Leads second here path other) :
    location = other := by
  have same := follow_of_leads leads (Nat.le_max_left first second)
  rw [follow_of_leads leads' (Nat.le_max_right first second)] at same
  exact (Except.ok.inj same).symm

/-! ## Taking paths apart -/

theorem Leads.append {first second : List String} {between : Location} {used : Nat}
    (start : tree.Leads links here first between)
    (further : tree.Leads used between second location) :
    tree.Leads (links + used) here (first ++ second) location := by
  induction start with
  | done here => rw [Nat.zero_add]; exact further
  | stay holds still _ inductionHypothesis => exact .stay holds still (inductionHypothesis further)
  | up holds _ inductionHypothesis => exact .up holds (inductionHypothesis further)
  | enter holds isName found noLink _ inductionHypothesis =>
      exact .enter holds isName found noLink (inductionHypothesis further)
  | jump holds isName found held _ inductionHypothesis =>
      rw [Nat.add_right_comm]
      refine .jump holds isName found held ?_
      exact List.append_assoc _ _ _ ▸ inductionHypothesis further

theorem exists_of_leads_append {first second : List String}
    (leads : tree.Leads links here (first ++ second) location) :
    ∃ between start rest, start + rest = links ∧ tree.Leads start here first between ∧
      tree.Leads rest between second location := by
  -- By induction on the way, not on the first part: a jump puts the pieces of a link in front of it.
  generalize same : first ++ second = path at leads
  induction leads generalizing first with
  | done here =>
      rcases List.append_eq_nil_iff.mp same with ⟨rfl, rfl⟩
      exact ⟨here, 0, 0, rfl, .done here, .done here⟩
  | stay holds still further inductionHypothesis =>
      cases first with
      | nil =>
          cases same
          exact ⟨_, 0, _, Nat.zero_add _, .done _, .stay holds still further⟩
      | cons piece first =>
          cases same
          rcases inductionHypothesis rfl with ⟨between, start, rest, sum, before, behind⟩
          exact ⟨between, start, rest, sum, .stay holds still before, behind⟩
  | up holds further inductionHypothesis =>
      cases first with
      | nil =>
          cases same
          exact ⟨_, 0, _, Nat.zero_add _, .done _, .up holds further⟩
      | cons piece first =>
          cases same
          rcases inductionHypothesis rfl with ⟨between, start, rest, sum, before, behind⟩
          exact ⟨between, start, rest, sum, .up holds before, behind⟩
  | enter holds isName found noLink further inductionHypothesis =>
      cases first with
      | nil =>
          cases same
          exact ⟨_, 0, _, Nat.zero_add _, .done _, .enter holds isName found noLink further⟩
      | cons piece first =>
          cases same
          rcases inductionHypothesis rfl with ⟨between, start, rest, sum, before, behind⟩
          exact ⟨between, start, rest, sum, .enter holds isName found noLink before, behind⟩
  | jump holds isName found held further inductionHypothesis =>
      cases first with
      | nil =>
          cases same
          exact ⟨_, 0, _, Nat.zero_add _, .done _, .jump holds isName found held further⟩
      | cons piece first =>
          cases same
          rcases inductionHypothesis (List.append_assoc _ _ _) with
            ⟨between, start, rest, sum, before, behind⟩
          exact ⟨between, start + 1, rest, by omega, .jump holds isName found held before, behind⟩

/-- Only from a directory does a path lead on. -/
theorem Leads.shape?_of_cons {piece : String} {rest : List String}
    (leads : tree.Leads links here (piece :: rest) location) :
    tree.shape? here = some .directory := by
  cases leads <;> assumption

/-- A name leads on from what is under it, or from where the link under it leads. -/
theorem Leads.enters_or_jumps {name : String} {rest : List String}
    (leads : tree.Leads links here (name :: rest) location) (isName : isEntryName name = true) :
    (∃ shape, tree.shape? (here ++ [name]) = some shape ∧ (∀ target, shape ≠ .link target) ∧
      tree.Leads links (here ++ [name]) rest location) ∨
    ∃ target used, tree.shape? (here ++ [name]) = some (.link target) ∧ links = used + 1 ∧
      tree.Leads used (startOf here target) (pieces target ++ rest) location := by
  cases leads with
  | stay _ still _ => exact absurd still (by simpa [IsStill] using (not_isStill isName).1)
  | up _ _ => exact absurd isName (by decide)
  | enter _ _ found noLink further => exact .inl ⟨_, found, noLink, further⟩
  | jump _ _ found _ further => exact .inr ⟨_, _, found, rfl, further⟩

/-- A name under which there is nothing leads nowhere. -/
theorem not_leads_of_free {name : String} {rest : List String} (isName : isEntryName name = true)
    (free : tree.shape? (here ++ [name]) = none) :
    ¬ tree.Leads links here (name :: rest) location := by
  intro leads
  rcases leads.enters_or_jumps isName with ⟨shape, found, -, -⟩ | ⟨target, used, found, -, -⟩
  · cases free.symm.trans found
  · cases free.symm.trans found

theorem Leads.stays {front : List String} (holds : tree.shape? here = some .directory)
    (still : ∀ piece ∈ front, IsStill piece) (leads : tree.Leads links here path location) :
    tree.Leads links here (front ++ path) location := by
  induction front with
  | nil => exact leads
  | cons piece front inductionHypothesis =>
      rcases List.forall_mem_cons.mp still with ⟨first, rest⟩
      exact .stay holds first (inductionHypothesis rest)

/-! ## Leaving out pieces that stay where they are -/

/-- One path is another one without some of the pieces that stay where they are. -/
inductive Shortens : List String → List String → Prop
  | nil : Shortens [] []
  | keep (piece : String) {long short : List String} (rest : Shortens long short) :
      Shortens (piece :: long) (piece :: short)
  | skip {piece : String} {long short : List String} (still : IsStill piece)
      (rest : Shortens long short) : Shortens (piece :: long) short

namespace Shortens

variable {long short : List String}

theorem append (before : List String) (shortens : Shortens long short) :
    Shortens (before ++ long) (before ++ short) := by
  induction before with
  | nil => exact shortens
  | cons piece before inductionHypothesis => exact .keep piece inductionHypothesis

theorem leads_short (shortens : Shortens long short)
    (leads : tree.Leads links here long location) : tree.Leads links here short location := by
  induction leads generalizing short with
  | done here => cases shortens; exact .done here
  | stay holds still further inductionHypothesis =>
      cases shortens with
      | keep piece rest => exact .stay holds still (inductionHypothesis rest)
      | skip still' rest => exact inductionHypothesis rest
  | up holds further inductionHypothesis =>
      cases shortens with
      | keep piece rest => exact .up holds (inductionHypothesis rest)
      | skip still rest => exact absurd still (by simp [IsStill])
  | enter holds isName found noLink further inductionHypothesis =>
      cases shortens with
      | keep piece rest => exact .enter holds isName found noLink (inductionHypothesis rest)
      | skip still rest => exact absurd still (by simpa [IsStill] using (not_isStill isName).1)
  | jump holds isName found held further inductionHypothesis =>
      cases shortens with
      | keep piece rest => exact .jump holds isName found held (inductionHypothesis (rest.append _))
      | skip still rest => exact absurd still (by simpa [IsStill] using (not_isStill isName).1)

/-- What is left out in front of a piece that is kept stays where it is. -/
theorem exists_of_cons {piece : String} {rest : List String}
    (shortens : Shortens long (piece :: rest)) :
    ∃ front behind, long = front ++ piece :: behind ∧ (∀ other ∈ front, IsStill other) ∧
      Shortens behind rest := by
  generalize same : piece :: rest = short at shortens
  induction shortens with
  | nil => cases same
  | @keep _ behind _ shortens =>
      cases same
      exact ⟨[], behind, rfl, List.forall_mem_nil _, shortens⟩
  | @skip other _ _ still _ inductionHypothesis =>
      rcases inductionHypothesis same with ⟨front, behind, rfl, stays, further⟩
      exact ⟨other :: front, behind, rfl, List.forall_mem_cons.mpr ⟨still, stays⟩, further⟩

theorem isStill_of_nil (shortens : Shortens long []) : ∀ piece ∈ long, IsStill piece := by
  generalize same : ([] : List String) = short at shortens
  induction shortens with
  | nil => exact List.forall_mem_nil _
  | keep piece rest => cases same
  | skip still _ inductionHypothesis =>
      exact List.forall_mem_cons.mpr ⟨still, inductionHypothesis same⟩

/-- To a directory, the longer path leads as well. -/
theorem leads_long (shortens : Shortens long short)
    (leads : tree.Leads links here short location)
    (ends : tree.shape? location = some .directory) : tree.Leads links here long location := by
  induction leads generalizing long with
  | done here =>
      have stays := Leads.stays ends shortens.isStill_of_nil (.done here)
      rw [List.append_nil] at stays
      exact stays
  | stay holds still further inductionHypothesis =>
      rcases shortens.exists_of_cons with ⟨front, behind, rfl, stays, shortens⟩
      exact .stays holds stays (.stay holds still (inductionHypothesis shortens ends))
  | up holds further inductionHypothesis =>
      rcases shortens.exists_of_cons with ⟨front, behind, rfl, stays, shortens⟩
      exact .stays holds stays (.up holds (inductionHypothesis shortens ends))
  | enter holds isName found noLink further inductionHypothesis =>
      rcases shortens.exists_of_cons with ⟨front, behind, rfl, stays, shortens⟩
      have leads := inductionHypothesis shortens ends
      exact .stays holds stays (.enter holds isName found noLink leads)
  | jump holds isName found held further inductionHypothesis =>
      rcases shortens.exists_of_cons with ⟨front, behind, rfl, stays, shortens⟩
      have leads := inductionHypothesis (shortens.append _) ends
      exact .stays holds stays (.jump holds isName found held leads)

theorem trans {shorter : List String} (first : Shortens long short)
    (second : Shortens short shorter) : Shortens long shorter := by
  induction first generalizing shorter with
  | nil => exact second
  | keep piece rest inductionHypothesis =>
      cases second with
      | keep piece further => exact .keep piece (inductionHypothesis further)
      | skip still further => exact .skip still (inductionHypothesis further)
  | skip still rest inductionHypothesis => exact .skip still (inductionHypothesis second)

theorem filter {keep : String → Bool} (still : ∀ piece, keep piece = false → IsStill piece)
    (path : List String) : Shortens path (path.filter keep) := by
  induction path with
  | nil => exact .nil
  | cons piece rest inductionHypothesis =>
      rw [List.filter_cons]
      split
      next => exact .keep piece inductionHypothesis
      next dropped => exact .skip (still piece (Bool.eq_false_iff.mpr dropped)) inductionHypothesis

end Shortens

/-! ## Names one below the other -/

/-- Names lead to what stands below, unless that is a link. -/
theorem leads_of_isEntryName (here : Location) (isNames : ∀ name ∈ path, isEntryName name = true)
    {shape : Shape} (found : tree.shape? (here ++ path) = some shape)
    (noLink : ∀ target, shape ≠ .link target) : tree.Leads 0 here path (here ++ path) := by
  induction path generalizing here with
  | nil => rw [List.append_nil]; exact .done here
  | cons name rest inductionHypothesis =>
      rcases List.forall_mem_cons.mp isNames with ⟨isName, others⟩
      have holds := shape?_append_cons found
      rw [List.append_cons] at found ⊢
      cases rest with
      | nil =>
          rw [List.append_nil] at found ⊢
          exact .enter holds isName found noLink (.done _)
      | cons next rest =>
          refine .enter holds isName (shape?_append_cons found) (fun _ same => by cases same) ?_
          exact inductionHypothesis _ others found

/-- What stands below a directory of a sound tree stands there under names. -/
theorem isName_of_mem (sound : tree.IsSound) {shape : Shape}
    (found : tree.shape? (here ++ path) = some shape) : ∀ name ∈ path, IsName name := by
  intro name member
  rcases List.append_of_mem member with ⟨before, behind, rfl⟩
  rw [← List.append_assoc] at found
  exact isName_of_shape? sound found

theorem leads_names (here : Location) (sound : tree.IsSound) {shape : Shape}
    (found : tree.shape? (here ++ path) = some shape) (noLink : ∀ target, shape ≠ .link target) :
    tree.Leads 0 here path (here ++ path) :=
  leads_of_isEntryName here (fun name member => (isName_of_mem sound found name member).1) found
    noLink

/-- Where there are no links on the way, names lead straight down. -/
theorem Leads.eq_append (leads : tree.Leads links here path location)
    (noLinks : ∀ above, above <+: path → ∀ target, tree.shape? (here ++ above) ≠ some (.link target))
    (isNames : ∀ name ∈ path, isEntryName name = true) : location = here ++ path := by
  induction path generalizing here with
  | nil =>
      cases leads
      exact (List.append_nil _).symm
  | cons name rest inductionHypothesis =>
      rcases leads.enters_or_jumps (isNames name (.head _)) with
        ⟨shape, -, -, further⟩ | ⟨target, used, found, -, -⟩
      · rw [List.append_cons]
        refine inductionHypothesis further (fun above within target found => ?_)
          fun other member => isNames other (.tail _ member)
        rw [List.append_assoc] at found
        exact noLinks (name :: above) (List.cons_prefix_cons.mpr ⟨rfl, within⟩) target found
      · exact absurd found (noLinks [name] (List.cons_prefix_cons.mpr ⟨rfl, List.nil_prefix⟩) target)

/-- What a path leads to is there, if the place it starts from is. -/
theorem Leads.exists_shape? (leads : tree.Leads links here path location) {shape : Shape}
    (starts : tree.shape? here = some shape) : ∃ shape, tree.shape? location = some shape := by
  induction leads generalizing shape with
  | done here => exact ⟨shape, starts⟩
  | stay holds still further inductionHypothesis => exact inductionHypothesis starts
  | up holds further inductionHypothesis =>
      rename_i here _ _
      rcases List.eq_nil_or_concat here with rfl | ⟨above, name, rfl⟩
      · exact inductionHypothesis starts
      · rw [List.concat_eq_append] at holds inductionHypothesis
        rw [List.dropLast_concat] at inductionHypothesis
        exact inductionHypothesis (shape?_append_cons holds)
  | enter holds isName found noLink further inductionHypothesis => exact inductionHypothesis found
  | jump holds isName found held further inductionHypothesis =>
      rw [startOf] at inductionHypothesis
      split at inductionHypothesis
      next => exact inductionHypothesis (show tree.shape? [] = some tree.root.shape from rfl)
      next => exact inductionHypothesis holds

/-! ## Changing trees -/

/-- Every entry of a tree is in another one, a directory as a directory and a link as the same link,
and there are no more links.  What files hold does not matter. -/
structure KeepsPlaces (tree next : FileTree) : Prop where
  directories : ∀ location, tree.shape? location = some .directory →
    next.shape? location = some .directory
  links_iff : ∀ location target, next.shape? location = some (.link target) ↔
    tree.shape? location = some (.link target)
  present : ∀ location, tree.shape? location ≠ none → next.shape? location ≠ none

namespace KeepsPlaces

variable {next : FileTree}

theorem refl (tree : FileTree) : tree.KeepsPlaces tree :=
  ⟨fun _ holds => holds, fun _ _ => .rfl, fun _ there => there⟩

theorem trans {last : FileTree} (first : tree.KeepsPlaces next) (second : next.KeepsPlaces last) :
    tree.KeepsPlaces last where
  directories := fun location holds => second.directories location (first.directories location holds)
  links_iff := fun location target =>
    (second.links_iff location target).trans (first.links_iff location target)
  present := fun location there => second.present location (first.present location there)

/-- Where a path leads does not change. -/
theorem leads (keeps : tree.KeepsPlaces next) (leads : tree.Leads links here path location) :
    next.Leads links here path location := by
  induction leads with
  | done here => exact .done here
  | stay holds still _ inductionHypothesis =>
      exact .stay (keeps.directories _ holds) still inductionHypothesis
  | up holds _ inductionHypothesis => exact .up (keeps.directories _ holds) inductionHypothesis
  | enter holds isName found noLink _ inductionHypothesis =>
      rcases Option.ne_none_iff_exists'.mp (keeps.present _ (found ▸ Option.some_ne_none _)) with
        ⟨shape, now⟩
      refine .enter (keeps.directories _ holds) isName now ?_ inductionHypothesis
      rintro target rfl
      exact noLink target (Option.some.inj (found.symm.trans ((keeps.links_iff _ _).mp now)))
  | jump holds isName found held _ inductionHypothesis =>
      exact .jump (keeps.directories _ holds) isName ((keeps.links_iff _ _).mpr found) held
        inductionHypothesis

end KeepsPlaces

/-- A tree in which one entry is new, or holds something else, keeps the places of the tree before,
if neither what was there nor what is there now is a link. -/
theorem keepsPlaces_of_elsewhere {next : FileTree} {shape : Shape}
    (elsewhere : ∀ other, other ≠ location → next.shape? other = tree.shape? other)
    (now : next.shape? location = some shape) (noLink : ∀ target, shape ≠ .link target)
    (leaf : tree.shape? location ≠ some .directory)
    (wasNoLink : ∀ target, tree.shape? location ≠ some (.link target)) :
    tree.KeepsPlaces next where
  directories := fun other holds => by
    rw [elsewhere other fun same => leaf (same ▸ holds), holds]
  links_iff := fun other target => by
    by_cases same : other = location
    · rw [same, now]
      exact iff_of_false (fun link => noLink target (Option.some.inj link)) (wasNoLink target)
    · rw [elsewhere other same]
  present := fun other there => by
    by_cases same : other = location
    · rw [same, now]
      exact Option.some_ne_none shape
    · rw [elsewhere other same]
      exact there

/-! ## Growing trees -/

/-- A tree has become another one by making directories where there was nothing. -/
structure GrowsTo (tree grown : FileTree) : Prop where
  current : grown.current = tree.current
  keeps : ∀ location shape, tree.shape? location = some shape → grown.shape? location = some shape
  adds : ∀ location shape, grown.shape? location = some shape →
    tree.shape? location = some shape ∨ shape = .directory
  sound : tree.IsSound → grown.IsSound

namespace GrowsTo

variable {grown : FileTree}

theorem refl (tree : FileTree) : tree.GrowsTo tree :=
  ⟨rfl, fun _ _ found => found, fun _ _ found => .inl found, id⟩

theorem trans {further : FileTree} (first : tree.GrowsTo grown) (second : grown.GrowsTo further) :
    tree.GrowsTo further where
  current := second.current.trans first.current
  keeps := fun location shape found =>
    second.keeps location shape (first.keeps location shape found)
  adds := fun location shape found => by
    rcases second.adds location shape found with found | same
    · exact first.adds location shape found
    · exact .inr same
  sound := fun sound => second.sound (first.sound sound)

theorem keepsPlaces (grows : tree.GrowsTo grown) : tree.KeepsPlaces grown where
  directories := fun location holds => grows.keeps location _ holds
  links_iff := fun location target => by
    refine ⟨fun found => ?_, grows.keeps location _⟩
    rcases grows.adds location _ found with found | same
    · exact found
    · cases same
  present := fun location there => by
    rcases Option.ne_none_iff_exists'.mp there with ⟨shape, found⟩
    exact grows.keeps location shape found ▸ Option.some_ne_none shape

/-- Where a path leads does not change. -/
theorem leads (grows : tree.GrowsTo grown) (leads : tree.Leads links here path location) :
    grown.Leads links here path location :=
  grows.keepsPlaces.leads leads

theorem resolve (grows : tree.GrowsTo grown) {path : String}
    (found : tree.resolve path = .ok location) : grown.resolve path = .ok location := by
  rw [FileTree.resolve, resolveFrom] at found ⊢
  rw [grows.current]
  split at found
  next => cases found
  next present =>
    rw [if_neg present]
    rcases leads_of_follow found with ⟨used, few, leads⟩
    exact follow_of_leads (grows.leads leads) few

end GrowsTo

end FileTree
end Files
end Instrument
