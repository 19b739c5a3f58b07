import Instrument.Proofs.Files.Naming
import Instrument.Walk
import Mathlib.Data.List.Basic

/-!
# What a walk visits

Where there are no links, a walk visits exactly what stands below its root and is left out neither
itself nor through a directory above it.  It visits everything once, and a directory before what it
holds.  Whether something is left out is decided by the rules of all directories above it, from the
root of the tree on, so it does not depend on how the walk got there.

The tree may change during the walk.  As long as the walk finds every directory as it was at first,
with the same rules, the visits are those of a walk through the tree as it was.
-/

namespace Instrument

namespace Files.Entry

/-- What holds of files and links, and of a directory as soon as it holds of its entries, holds of
every entry. -/
@[elab_as_elim]
theorem induction {motive : Entry → Prop} (file : ∀ content, motive (.file content))
    (link : ∀ target, motive (.link target))
    (directory : ∀ entries, (∀ name held, (name, held) ∈ entries → motive held) →
      motive (.directory entries)) : ∀ entry, motive entry
  | .file content => file content
  | .link target => link target
  | .directory entries =>
      directory entries fun _ held _ => induction file link directory held
  termination_by entry => sizeOf entry
  decreasing_by
    have smaller := List.sizeOf_lt_of_mem ‹_›
    simp only [Prod.mk.sizeOf_spec] at smaller
    simp only [Entry.directory.sizeOf_spec]
    omega

/-- The directories in an entry are among those of the directory that holds it. -/
theorem directoryCount_le_of_mem {entries : List (String × Entry)} {name : String} {held : Entry}
    (member : (name, held) ∈ entries) : held.directoryCount ≤ directoryCountOf entries := by
  induction entries with
  | nil => cases member
  | cons first rest inductionHypothesis =>
      rcases first with ⟨other, entry⟩
      rw [directoryCountOf]
      rcases List.mem_cons.mp member with same | further
      · cases same
        omega
      · have fewer := inductionHypothesis further
        omega

theorem directoryCount_le_of_at? {location : Location} {entry held : Entry}
    (found : entry.at? location = some held) : held.directoryCount ≤ entry.directoryCount := by
  induction location generalizing entry with
  | nil =>
      cases found
      exact Nat.le_refl _
  | cons name location inductionHypothesis =>
      cases entry with
      | file content => cases found
      | link target => cases found
      | directory entries =>
          rw [at?, child?] at found
          cases inner : entries.lookup name with
          | none => rw [inner] at found; cases found
          | some entry =>
              rw [inner] at found
              have above := inductionHypothesis found
              have fewer := directoryCount_le_of_mem (mem_of_lookup inner)
              rw [directoryCount]
              omega

end Files.Entry

namespace Walk

open Files (Entry FileTree Location Shape)

/-- The names of a visit below the root of the walk. -/
def Visit.path : Visit → List String
  | directory path => path
  | file path _ => path
  | link path => path

/-- The visit of what stands at a place. -/
def Visit.ofShape (path : List String) : Shape → Visit
  | .file content => .file path content
  | .directory => .directory path
  | .link _ => .link path

@[simp] theorem Visit.path_ofShape (path : List String) (shape : Shape) :
    (ofShape path shape).path = path := by
  cases shape <;> rfl

theorem Visit.ofEntry_eq (path : List String) (entry : Entry) :
    ofEntry path entry = ofShape path entry.shape := by
  cases entry <;> rfl

/-! ## What is left out -/

/-- Whether the walk takes in an entry, given by its names below the root, once it gets there. -/
def TakesIn (walk : Walk) (tree : FileTree) (root : Location) (path : List String) : Prop :=
  Ignore.verdict (Ignore.layersAbove tree (root ++ path)) (root ++ path)
      ((tree.at? (root ++ path)).any Entry.isDirectory) ≠ some .excluded ∧
    walk.admits path = true

/-- Whether the walk takes in an entry and every directory between the root and the entry. -/
def Includes (walk : Walk) (tree : FileTree) (root : Location) (path : List String) : Prop :=
  ∀ above, above <+: path → above ≠ [] → walk.TakesIn tree root above

theorem layersAbove_concat (tree : FileTree) (location : Location) (name : String) :
    Ignore.layersAbove tree (location ++ [name]) =
      .ofDirectory tree location location :: Ignore.layersAbove tree location := by
  rw [Ignore.layersAbove, Ignore.layersAbove, List.length_append, List.length_singleton,
    List.range_succ, List.reverse_append, List.reverse_singleton, List.singleton_append,
    List.map_cons, List.map_cons, List.take_left]
  congr 2
  refine List.map_congr_left fun length member => ?_
  rw [List.mem_reverse, List.mem_range] at member
  exact List.take_append_of_le_length (Nat.le_of_lt member)

/-! ## Lists of visits -/

/-- The directory of every visit has been visited before it, or is known from the start. -/
def Ordered : (known : List String → Prop) → List Visit → Prop
  | _, [] => True
  | known, visit :: rest =>
    known visit.path.dropLast ∧ Ordered (fun path => known path ∨ visit = .directory path) rest

namespace Ordered

variable {known other : List String → Prop} {visits further : List Visit}

theorem mono (ordered : Ordered known visits) (wider : ∀ path, known path → other path) :
    Ordered other visits := by
  induction visits generalizing known other with
  | nil => trivial
  | cons visit rest inductionHypothesis =>
      refine ⟨wider _ ordered.1, inductionHypothesis ordered.2 fun path holds => ?_⟩
      exact holds.imp_left (wider path)

theorem append (first : Ordered known visits) (second : Ordered known further) :
    Ordered known (visits ++ further) := by
  induction visits generalizing known with
  | nil => exact second
  | cons visit rest inductionHypothesis =>
      exact ⟨first.1, inductionHypothesis first.2 (second.mono fun _ => .inl)⟩

end Ordered

/-- Visits are those of what is below a directory under some of its names. -/
structure Lists (walk : Walk) (tree : FileTree) (root : Location) (path names : List String)
    (visits : List Visit) : Prop where
  mem_iff : ∀ visit, visit ∈ visits ↔ ∃ name ∈ names, ∃ rest shape,
    tree.shape? (root ++ (path ++ name :: rest)) = some shape ∧
      visit = .ofShape (path ++ name :: rest) shape ∧
      ∀ above, above <+: rest → walk.TakesIn tree root (path ++ name :: above)
  distinct : (visits.map Visit.path).Nodup
  ordered : Ordered (· = path) visits

namespace Lists

variable {walk : Walk} {tree : FileTree} {root : Location} {path names more : List String}
  {visits further : List Visit} {name : String}

theorem nil : Lists walk tree root path [] [] :=
  ⟨fun visit => by simp, .nil, trivial⟩

theorem exists_path (lists : Lists walk tree root path names visits) {other : List String}
    (member : other ∈ visits.map Visit.path) :
    ∃ name ∈ names, ∃ rest, other = path ++ name :: rest := by
  rcases List.mem_map.mp member with ⟨visit, visited, rfl⟩
  rcases (lists.mem_iff visit).mp visited with ⟨name, among, rest, shape, -, rfl, -⟩
  exact ⟨name, among, rest, Visit.path_ofShape _ _⟩

/-- Visits under different names of a directory are different. -/
theorem append (first : Lists walk tree root path names visits)
    (second : Lists walk tree root path more further) (disjoint : ∀ name ∈ names, name ∉ more) :
    Lists walk tree root path (names ++ more) (visits ++ further) where
  mem_iff := fun visit => by
    simp only [List.mem_append, first.mem_iff, second.mem_iff]
    constructor
    · rintro (⟨name, among, rest⟩ | ⟨name, among, rest⟩)
      · exact ⟨name, .inl among, rest⟩
      · exact ⟨name, .inr among, rest⟩
    · rintro ⟨name, among | among, rest⟩
      · exact .inl ⟨name, among, rest⟩
      · exact .inr ⟨name, among, rest⟩
  distinct := by
    rw [List.map_append, List.nodup_append]
    refine ⟨first.distinct, second.distinct, fun path' member path'' member' same => ?_⟩
    rcases first.exists_path member with ⟨name, among, rest, rfl⟩
    rcases second.exists_path member' with ⟨name', among', rest', rfl⟩
    cases (List.cons.inj (List.append_cancel_left same)).1
    exact disjoint name among among'
  ordered := first.ordered.append second.ordered

/-- An entry that is not taken in is passed over with everything below it. -/
theorem of_not_takesIn (out : ¬ walk.TakesIn tree root (path ++ [name])) :
    Lists walk tree root path [name] [] := by
  refine ⟨fun visit => ⟨fun member => (by cases member), ?_⟩, .nil, trivial⟩
  rintro ⟨_, member, rest, shape, -, -, takesIn⟩
  cases List.mem_singleton.mp member
  exact absurd (takesIn [] List.nil_prefix) out

/-- An entry that is no directory is visited by itself. -/
theorem of_leaf {shape : Shape} (found : tree.shape? (root ++ (path ++ [name])) = some shape)
    (leaf : shape ≠ .directory) (takesIn : walk.TakesIn tree root (path ++ [name])) :
    Lists walk tree root path [name] [.ofShape (path ++ [name]) shape] := by
  refine ⟨fun visit => ?_, by simp, by simp [Ordered]⟩
  rw [List.mem_singleton]
  constructor
  · rintro rfl
    refine ⟨name, .head _, [], shape, found, rfl, ?_⟩
    intro above within
    cases List.prefix_nil.mp within
    exact takesIn
  · rintro ⟨_, member, rest, other, there, rfl, -⟩
    cases List.mem_singleton.mp member
    cases rest with
    | nil =>
        cases found.symm.trans there
        rfl
    | cons next rest =>
        rw [List.append_cons, ← List.append_assoc] at there
        exact absurd (Option.some.inj (found.symm.trans (FileTree.shape?_append_cons there))) leaf

/-- A directory is visited before everything below it. -/
theorem of_directory (found : tree.shape? (root ++ (path ++ [name])) = some .directory)
    (takesIn : walk.TakesIn tree root (path ++ [name]))
    (whole : ∀ inner shape,
      tree.shape? (root ++ (path ++ [name] ++ [inner])) = some shape → inner ∈ more)
    (below : Lists walk tree root (path ++ [name]) more visits) :
    Lists walk tree root path [name] (.directory (path ++ [name]) :: visits) where
  -- What stands at the directory or below it: the names behind its own are none, or start with one
  -- of its entries.
  mem_iff := fun visit => by
    have next (below : List String) : path ++ [name] ++ below = path ++ name :: below :=
      (List.append_cons path name below).symm
    rw [List.mem_cons, below.mem_iff]
    constructor
    · rintro (rfl | ⟨inner, among, rest, shape, there, rfl, passes⟩)
      · refine ⟨name, .head _, [], .directory, found, rfl, ?_⟩
        intro above within
        cases List.prefix_nil.mp within
        exact takesIn
      · rw [next] at there
        refine ⟨name, .head _, inner :: rest, shape, there, by rw [next], ?_⟩
        intro above within
        cases above with
        | nil => exact takesIn
        | cons first above =>
            rcases List.cons_prefix_cons.mp within with ⟨rfl, inside⟩
            rw [← next]
            exact passes above inside
    · rintro ⟨_, member, rest, shape, there, rfl, passes⟩
      cases List.mem_singleton.mp member
      cases rest with
      | nil =>
          cases found.symm.trans there
          exact .inl rfl
      | cons inner rest =>
          rw [← next] at there ⊢
          have first : ∃ shape, tree.shape? (root ++ (path ++ [name] ++ [inner])) = some shape := by
            rw [List.append_cons, ← List.append_assoc root] at there
            exact FileTree.exists_shape?_of_append there
          rcases first with ⟨_, first⟩
          refine .inr ⟨inner, whole inner _ first, rest, shape, there, rfl, fun above within => ?_⟩
          · rw [next]
            exact passes (inner :: above) (List.cons_prefix_cons.mpr ⟨rfl, within⟩)
  distinct := by
    rw [List.map_cons, List.nodup_cons]
    refine ⟨fun member => ?_, below.distinct⟩
    rcases below.exists_path member with ⟨next, -, rest, same⟩
    simp [Visit.path] at same
  ordered := by
    refine ⟨by simp [Visit.path], below.ordered.mono fun other same => .inr ?_⟩
    rw [same]

end Lists

/-! ## Visits one after the other -/

/-- To make visits one after the other, as long as none of them fails. -/
def Errand.visitAll {σ ε : Type} (errand : Errand σ ε) : σ → List Visit → Except ε σ
  | state, [] => .ok state
  | state, visit :: rest =>
    match errand.visit state visit with
    | .error error => .error error
    | .ok next => visitAll errand next rest

section VisitAll

variable {σ ε : Type} {errand : Errand σ ε} {state : σ} {visit : Visit}

theorem Errand.visitAll_of_error {error : ε} (fails : errand.visit state visit = .error error)
    (rest : List Visit) : errand.visitAll state (visit :: rest) = .error error := by
  rw [visitAll, fails]

theorem Errand.visitAll_of_ok {next : σ} (goesOn : errand.visit state visit = .ok next)
    (rest : List Visit) :
    errand.visitAll state (visit :: rest) = errand.visitAll next rest := by
  rw [visitAll, goesOn]

end VisitAll

theorem Errand.visitAll_append {σ ε : Type} (errand : Errand σ ε) (state : σ)
    (visits further : List Visit) : errand.visitAll state (visits ++ further) =
      match errand.visitAll state visits with
      | .error error => .error error
      | .ok next => errand.visitAll next further := by
  induction visits generalizing state with
  | nil => rfl
  | cons visit rest inductionHypothesis =>
      rw [List.cons_append, visitAll, visitAll]
      cases errand.visit state visit with
      | error error => rfl
      | ok next => exact inductionHypothesis next

/-! ## Walking without links -/

theorem includes_nil {walk : Walk} {tree : FileTree} {root : Location} :
    walk.Includes tree root [] :=
  fun _ within inside => absurd (List.prefix_nil.mp within) inside

/-- What is below something that the walk includes is included if it is taken in on the way. -/
theorem Includes.append {walk : Walk} {tree : FileTree} {root : Location} {path rest : List String}
    {name : String} (includes : walk.Includes tree root path)
    (passes : ∀ above, above <+: rest → walk.TakesIn tree root (path ++ name :: above)) :
    walk.Includes tree root (path ++ name :: rest) := by
  intro above within inside
  rcases List.prefix_or_prefix_of_prefix within (List.prefix_append path _) with
    within | ⟨below, rfl⟩
  · exact includes above within inside
  · cases below with
    | nil =>
        rw [List.append_nil] at inside ⊢
        exact includes path List.prefix_rfl inside
    | cons first below =>
        rw [List.prefix_append_right_inj] at within
        rcases List.cons_prefix_cons.mp within with ⟨rfl, further⟩
        exact passes below further

/-- To a walk, a tree looks like another one: wherever it gets, there is the same in a directory, and
the directory has the same rules. -/
structure Sees (walk : Walk) (tree now : FileTree) (root : Location) : Prop where
  sound : now.IsSound
  shape?_eq : ∀ path, walk.Includes tree root path → ∀ name,
    now.shape? (root ++ (path ++ [name])) = tree.shape? (root ++ (path ++ [name]))
  layer_eq : ∀ path, walk.Includes tree root path →
    Ignore.Layer.ofDirectory now (root ++ path) (root ++ path) =
      .ofDirectory tree (root ++ path) (root ++ path)

theorem Sees.refl {walk : Walk} {tree : FileTree} (sound : tree.IsSound) (root : Location) :
    walk.Sees tree tree root :=
  ⟨sound, fun _ _ _ => rfl, fun _ _ => rfl⟩

/-- As long as something holds, the tree looks like another one to the walk, and what is visited in
that one keeps it so. -/
structure Errand.Keeps {σ ε : Type} (errand : Errand σ ε) (walk : Walk) (tree : FileTree)
    (root : Location) (holds : σ → Prop) : Prop where
  sees : ∀ state, holds state → walk.Sees tree (errand.tree state) root
  visit : ∀ state path shape next, holds state → tree.shape? (root ++ path) = some shape →
    walk.Includes tree root path → errand.visit state (.ofShape path shape) = .ok next → holds next

/-- The walk has got to a directory by names only. -/
structure Place.IsAt (place : Place) (tree : FileTree) (root : Location) (names : List String) :
    Prop where
  path : place.path = names
  location : place.location = root ++ names
  layers : place.layers =
    .ofDirectory tree (root ++ names) (root ++ names) :: Ignore.layersAbove tree (root ++ names)

section NoLinks

variable {σ ε : Type} {walk : Walk} {errand : Errand σ ε} {tree : FileTree} {root : Root}
  {holds : σ → Prop} {place : Place} {path : List String} {name : String} {state : σ}
  {inside : Place → σ → Except ε σ}

/-- Whether an entry is visited only depends on where it is. -/
theorem visits_iff (walk : Walk) (at' : place.IsAt tree root.location path) {entry : Entry}
    (found : tree.at? (root.location ++ (path ++ [name])) = some entry) :
    walk.visits root place (path ++ [name]) entry.isDirectory = true ↔
      walk.TakesIn tree root.location (path ++ [name]) := by
  rw [visits, TakesIn, found, at'.layers, ← List.append_assoc, layersAbove_concat]
  simp

theorem Sees.isAt_enter {now : FileTree} (sees : walk.Sees tree now root.location)
    (at' : place.IsAt tree root.location path)
    (includes : walk.Includes tree root.location (path ++ [name])) :
    (enter now root place (place.location ++ [name]) (path ++ [name])).IsAt tree root.location
      (path ++ [name]) := by
  have there : place.location ++ [name] = root.location ++ (path ++ [name]) := by
    rw [at'.location, List.append_assoc]
  refine ⟨rfl, there, ?_⟩
  rw [enter, there, sees.layer_eq _ includes, at'.layers, ← List.append_assoc, layersAbove_concat]

/-- What holds is kept by the visits below a directory. -/
theorem Errand.Keeps.holds_of_visitAll (keeps : errand.Keeps walk tree root.location holds)
    (includes : walk.Includes tree root.location path) {names : List String} {visits : List Visit}
    (lists : Lists walk tree root.location path names visits) (start : holds state) {next : σ}
    (done : errand.visitAll state visits = .ok next) : holds next := by
  have visited (visit : Visit) (member : visit ∈ visits) : ∃ path shape,
      tree.shape? (root.location ++ path) = some shape ∧ walk.Includes tree root.location path ∧
        visit = .ofShape path shape := by
    rcases (lists.mem_iff visit).mp member with ⟨name, -, rest, shape, found, same, passes⟩
    exact ⟨_, shape, found, includes.append passes, same⟩
  clear lists
  induction visits generalizing state with
  | nil =>
      cases done
      exact start
  | cons visit rest inductionHypothesis =>
      rw [visitAll] at done
      split at done
      next => cases done
      next between first =>
        rcases visited visit (.head _) with ⟨path, shape, found, includes, rfl⟩
        exact inductionHypothesis (keeps.visit state path shape between start found includes first)
          done fun visit member => visited visit (.tail _ member)

/-- The names in a directory, with everything below them, are visited one after the other. -/
theorem exists_foldlM (keeps : errand.Keeps walk tree root.location holds)
    (includes : walk.Includes tree root.location path) {names : List String}
    (distinct : names.Nodup) (start : holds state)
    (each : ∀ name ∈ names, ∀ state, holds state → ∃ visits,
      Lists walk tree root.location path [name] visits ∧
        visitName walk errand root inside place state name = errand.visitAll state visits) :
    ∃ visits, Lists walk tree root.location path names visits ∧
      names.foldlM (visitName walk errand root inside place) state =
        errand.visitAll state visits := by
  induction names generalizing state with
  | nil => exact ⟨[], .nil, rfl⟩
  | cons name rest inductionHypothesis =>
      rw [List.nodup_cons] at distinct
      rcases each name (.head _) state start with ⟨visits, lists, first⟩
      have disjoint : ∀ other ∈ [name], other ∉ rest := fun other member =>
        List.mem_singleton.mp member ▸ distinct.1
      have others (state : σ) (start : holds state) := inductionHypothesis distinct.2 start
        fun name member => each name (.tail _ member)
      rw [List.foldlM_cons, first]
      cases done : errand.visitAll state visits with
      | error error =>
          -- Nothing more is visited, so any visits of the rest will do.
          rcases others state start with ⟨further, lists', -⟩
          refine ⟨visits ++ further, lists.append lists' disjoint, ?_⟩
          rw [errand.visitAll_append, done]
          rfl
      | ok next =>
          rcases others next (keeps.holds_of_visitAll includes lists start done) with
            ⟨further, lists', same⟩
          refine ⟨visits ++ further, lists.append lists' disjoint, ?_⟩
          rw [errand.visitAll_append, done]
          exact same

/-- A name leads to what stands under it. -/
theorem destination_of_shape? {now : FileTree} {shape : Shape}
    (found : now.shape? (place.location ++ [name]) = some shape)
    (noLink : ∀ target, shape ≠ .link target) :
    ∃ entry, entry.shape = shape ∧
      walk.destination now root place name = .ok (place.location ++ [name], entry) := by
  rcases Option.map_eq_some_iff.mp found with ⟨entry, there, same⟩
  refine ⟨entry, same, ?_⟩
  rw [destination, there]
  cases entry with
  | link target => exact absurd same.symm (noLink target)
  | file content => rfl
  | directory entries => rfl

/-- A name is passed over, or what stands under it is visited, and then what is below. -/
theorem exists_visitName (keeps : errand.Keeps walk tree root.location holds)
    (noLinks : ∀ path target, tree.shape? (root.location ++ path) ≠ some (.link target))
    (at' : place.IsAt tree root.location path)
    (includes : walk.Includes tree root.location path) (start : holds state) {held : Entry}
    (found : tree.at? (root.location ++ (path ++ [name])) = some held)
    (below : ∀ place state, place.IsAt tree root.location (path ++ [name]) →
      walk.Includes tree root.location (path ++ [name]) → holds state →
      held.isDirectory = true → ∃ names visits,
        (∀ inner shape, tree.shape? (root.location ++ (path ++ [name] ++ [inner])) = some shape →
          inner ∈ names) ∧
        Lists walk tree root.location (path ++ [name]) names visits ∧
        inside place state = errand.visitAll state visits) :
    ∃ visits, Lists walk tree root.location path [name] visits ∧
      visitName walk errand root inside place state name = errand.visitAll state visits := by
  have sees := keeps.sees state start
  have shape := FileTree.shape?_of_at? found
  have there : (errand.tree state).shape? (place.location ++ [name]) = some held.shape := by
    rw [at'.location, List.append_assoc, sees.shape?_eq path includes, shape]
  rcases destination_of_shape? there fun target same => noLinks _ target (same ▸ shape) with
    ⟨entry, same, leads⟩
  have decides := visits_iff walk at' found
  have sameTest : entry.isDirectory = held.isDirectory := by
    rw [Bool.eq_iff_iff, Entry.isDirectory_iff, Entry.isDirectory_iff, same]
  rw [visitName, leads, at'.path]
  dsimp only
  rw [sameTest, Visit.ofEntry_eq, same]
  split
  next taken =>
    have takesIn := decides.mp taken
    have includes' : walk.Includes tree root.location (path ++ [name]) :=
      includes.append fun above within => by
        cases List.prefix_nil.mp within
        exact takesIn
    have at'' := sees.isAt_enter at' includes'
    cases isDirectory : held.isDirectory with
    | false =>
        have leaf : held.shape ≠ .directory := fun directory => by
          cases isDirectory.symm.trans (Entry.isDirectory_iff.mpr directory)
        refine ⟨_, .of_leaf shape leaf takesIn, ?_⟩
        rw [Errand.visitAll]
        cases errand.visit state (.ofShape (path ++ [name]) held.shape) <;> rfl
    | true =>
        have directory := Entry.isDirectory_iff.mp isDirectory
        rw [directory] at shape ⊢
        cases visited : errand.visit state (.ofShape (path ++ [name]) .directory) with
        | error error =>
            -- The walk ends here, so any visits of what is below will do.
            rcases below _ state at'' includes' start isDirectory with
              ⟨names, visits, whole, lists, -⟩
            refine ⟨_, .of_directory shape takesIn whole lists, ?_⟩
            exact (Errand.visitAll_of_error visited _).symm
        | ok next =>
            have start' := keeps.visit state _ _ next start shape includes' visited
            rcases below _ next at'' includes' start' isDirectory with
              ⟨names, visits, whole, lists, done⟩
            refine ⟨_, .of_directory shape takesIn whole lists, ?_⟩
            exact done.trans (Errand.visitAll_of_ok visited _).symm
  next passed => exact ⟨[], .of_not_takesIn fun takesIn => passed (decides.mpr takesIn), rfl⟩

/-- Below a directory, everything that is taken in on the way is visited. -/
theorem exists_visitBelow (keeps : errand.Keeps walk tree root.location holds)
    (noLinks : ∀ path target, tree.shape? (root.location ++ path) ≠ some (.link target))
    {entry : Entry} (found : tree.at? (root.location ++ path) = some entry)
    (isDirectory : entry.isDirectory = true) {depth : Nat} (enough : entry.directoryCount ≤ depth)
    (at' : place.IsAt tree root.location path)
    (includes : walk.Includes tree root.location path) (start : holds state) :
    ∃ names visits,
      (∀ inner shape, tree.shape? (root.location ++ (path ++ [inner])) = some shape →
        inner ∈ names) ∧
      Lists walk tree root.location path names visits ∧
      visitBelow walk errand root depth place state = errand.visitAll state visits := by
  -- By induction on the directory as it was at first; what is in it now stands under the same names.
  induction entry using Entry.induction generalizing place path state depth with
  | file content => cases isDirectory
  | link target => cases isDirectory
  | directory entries inductionHypothesis =>
      rw [Entry.directoryCount] at enough
      cases depth with
      | zero => omega
      | succ depth =>
          have sees := keeps.sees state start
          have sameNames (inner : String) :
              inner ∈ (errand.tree state).namesIn place.location ↔
                ∃ shape, tree.shape? (root.location ++ (path ++ [inner])) = some shape := by
            rw [FileTree.mem_namesIn_iff, at'.location, List.append_assoc,
              sees.shape?_eq path includes]
          have each (name : String)
              (member : name ∈ (errand.tree state).namesIn place.location) (state : σ)
              (start : holds state) : ∃ visits,
              Lists walk tree root.location path [name] visits ∧
                visitName walk errand root (visitBelow walk errand root depth) place state name =
                  errand.visitAll state visits := by
            rcases (sameNames name).mp member with ⟨shape, there⟩
            rcases Option.map_eq_some_iff.mp there with ⟨held, there, -⟩
            have among := there
            rw [← List.append_assoc, FileTree.at?_append_of_directory found] at among
            have among := Files.mem_of_lookup among
            refine exists_visitName keeps noLinks at' includes start there
              fun place state at' includes start isDirectory => ?_
            have fewer := Entry.directoryCount_le_of_mem among
            exact inductionHypothesis name held among there isDirectory (by omega) at' includes
              start
          rcases exists_foldlM keeps includes (FileTree.nodup_namesIn sees.sound place.location)
            start each with ⟨visits, lists, same⟩
          exact ⟨_, visits, fun inner shape there => (sameNames inner).mpr ⟨shape, there⟩, lists,
            same⟩

end NoLinks

/-! ## Whole walks -/

theorem includes_cons_iff {walk : Walk} {tree : FileTree} {root : Location} {name : String}
    {rest : List String} : walk.Includes tree root (name :: rest) ↔
      ∀ above, above <+: rest → walk.TakesIn tree root (name :: above) := by
  constructor
  · intro includes above within
    exact includes _ (List.cons_prefix_cons.mpr ⟨rfl, within⟩) (List.cons_ne_nil _ _)
  · intro passes above within inside
    cases above with
    | nil => exact absurd rfl inside
    | cons first above =>
        rcases List.cons_prefix_cons.mp within with ⟨rfl, further⟩
        exact passes above further

/-- Visits are those of a whole walk, apart from that of its root. -/
structure Covers (walk : Walk) (tree : FileTree) (root : Location) (visits : List Visit) :
    Prop where
  mem_iff : ∀ visit, visit ∈ visits ↔ ∃ path shape, path ≠ [] ∧
    tree.shape? (root ++ path) = some shape ∧ visit = .ofShape path shape ∧
      walk.Includes tree root path
  distinct : (visits.map Visit.path).Nodup
  ordered : Ordered (· = []) visits

theorem Covers.file_mem_iff {walk : Walk} {tree : FileTree} {root : Location} {visits : List Visit}
    (covers : Covers walk tree root visits) {path : List String} {content : ByteArray} :
    Visit.file path content ∈ visits ↔ path ≠ [] ∧
      tree.shape? (root ++ path) = some (.file content) ∧ walk.Includes tree root path := by
  rw [covers.mem_iff]
  constructor
  · rintro ⟨path, shape, inside, found, same, includes⟩
    cases shape with
    | file content => cases same; exact ⟨inside, found, includes⟩
    | directory => cases same
    | link target => cases same
  · rintro ⟨inside, found, includes⟩
    exact ⟨path, _, inside, found, rfl, includes⟩

theorem Lists.covers {walk : Walk} {tree : FileTree} {root : Location} {visits : List Visit}
    {names : List String}
    (whole : ∀ name shape, tree.shape? (root ++ ([] ++ [name])) = some shape → name ∈ names)
    (lists : Lists walk tree root [] names visits) : Covers walk tree root visits := by
  refine ⟨fun visit => ?_, lists.distinct, lists.ordered⟩
  rw [lists.mem_iff]
  constructor
  · rintro ⟨name, -, rest, shape, there, same, passes⟩
    exact ⟨name :: rest, shape, List.cons_ne_nil _ _, there, same, includes_cons_iff.mpr passes⟩
  · rintro ⟨path, shape, inside, there, same, includes⟩
    cases path with
    | nil => exact absurd rfl inside
    | cons name rest =>
        have first : ∃ shape, tree.shape? (root ++ [name]) = some shape := by
          rw [List.append_cons] at there
          exact FileTree.exists_shape?_of_append there
        rcases first with ⟨_, first⟩
        exact ⟨name, whole name _ first, rest, shape, there, same, includes_cons_iff.mp includes⟩

section Whole

variable {σ ε : Type} {walk : Walk} {errand : Errand σ ε} {location : Location}
  {holds : σ → Prop} {state : σ}

/-- A walk that starts at a path to a directory without links visits everything that it includes, as
long as no visit fails, unless the rules above the directory are faulty.  The path does not matter, as
long as it is not the one that stands for the standard input. -/
theorem exists_covers_of_resolve
    (keeps : errand.Keeps walk (errand.tree state) location holds) (start : holds state)
    {path : String} (named : path ≠ "-") (reached : (errand.tree state).resolve path = .ok location)
    (isDirectory : (errand.tree state).shape? location = some .directory)
    (noLinks : ∀ path target,
      (errand.tree state).shape? (location ++ path) ≠ some (.link target)) :
    ∃ visits, Covers walk (errand.tree state) location visits ∧
      walk.run errand state path =
        match (Ignore.layersAbove (errand.tree state) location).reverse.flatMap
            Ignore.Layer.reports with
        | [] => errand.visitAll state (.directory [] :: visits)
        | reports => .error (errand.giveUp state (.faultyRules reports)) := by
  rcases FileTree.shape?_eq_directory_iff.mp isDirectory with ⟨entries, found⟩
  let root : Root := ⟨path, location⟩
  let outside : Place :=
    ⟨location, [], Ignore.layersAbove (errand.tree state) location, []⟩
  have at' : (enter (errand.tree state) root outside location []).IsAt (errand.tree state)
      root.location [] :=
    ⟨rfl, (List.append_nil _).symm, by simp [enter, outside, root]⟩
  have enough : (Entry.directory entries).directoryCount ≤ depthLimit (errand.tree state) :=
    Nat.le_trans (Entry.directoryCount_le_of_at? found) (Nat.le_add_right _ _)
  have below (next : σ) (start : holds next) :=
    exists_visitBelow keeps noLinks (by rw [List.append_nil]; exact found) rfl enough at'
      includes_nil start
  rw [run, if_neg named, reached]
  dsimp only
  rw [found]
  dsimp only
  cases visited : errand.visit state (.directory []) with
  | error error =>
      rcases below state start with ⟨names, visits, whole, lists, -⟩
      refine ⟨visits, lists.covers whole, ?_⟩
      cases (Ignore.layersAbove (errand.tree state) location).reverse.flatMap
        Ignore.Layer.reports with
      | nil => exact (Errand.visitAll_of_error visited _).symm
      | cons report reports => rfl
  | ok next =>
      have start' := keeps.visit state [] .directory next start
        (by rw [List.append_nil]; exact isDirectory) includes_nil visited
      rcases below next start' with ⟨names, visits, whole, lists, same⟩
      refine ⟨visits, lists.covers whole, ?_⟩
      cases (Ignore.layersAbove (errand.tree state) location).reverse.flatMap
        Ignore.Layer.reports with
      | nil => exact same.trans (Errand.visitAll_of_ok visited _).symm
      | cons report reports => rfl

/-- A walk that starts at a location without links below it visits everything that it includes, as
long as no visit fails, unless the rules above are faulty. -/
theorem exists_covers (keeps : errand.Keeps walk (errand.tree state) location holds)
    (start : holds state) (sound : (errand.tree state).IsSound)
    (isDirectory : (errand.tree state).shape? location = some .directory)
    (noLinks : ∀ path target,
      (errand.tree state).shape? (location ++ path) ≠ some (.link target)) :
    ∃ visits, Covers walk (errand.tree state) location visits ∧
      walk.run errand state (Files.absoluteText location) =
        match (Ignore.layersAbove (errand.tree state) location).reverse.flatMap
            Ignore.Layer.reports with
        | [] => errand.visitAll state (.directory [] :: visits)
        | reports => .error (errand.giveUp state (.faultyRules reports)) :=
  exists_covers_of_resolve keeps start (Files.absoluteText_ne_dash location)
    (FileTree.resolve_absoluteText sound isDirectory) isDirectory noLinks

end Whole

/-! ## Gathering -/

theorem gathering_visitAll (tree : FileTree) (before visits : List Visit) :
    (gathering tree).visitAll before visits = .ok (before ++ visits) := by
  induction visits generalizing before with
  | nil => rw [Errand.visitAll, List.append_nil]
  | cons visit rest inductionHypothesis =>
      rw [Errand.visitAll, List.append_cons]
      exact inductionHypothesis (before ++ [visit])

/-- A walk through a tree that stays as it is visits its root and everything that it includes. -/
theorem exists_visited {walk : Walk} {tree : FileTree} (sound : tree.IsSound) {path : String}
    (named : path ≠ "-") {location : Location} (reached : tree.resolve path = .ok location)
    (isDirectory : tree.shape? location = some .directory)
    (noLinks : ∀ path target, tree.shape? (location ++ path) ≠ some (.link target)) :
    ∃ visits, Covers walk tree location visits ∧ walk.visited tree path =
      match (Ignore.layersAbove tree location).reverse.flatMap Ignore.Layer.reports with
      | [] => .ok (.directory [] :: visits)
      | reports => .error (.faultyRules reports) := by
  have keeps : (gathering tree).Keeps walk tree location fun _ => True :=
    ⟨fun _ _ => .refl sound location, fun _ _ _ _ _ _ _ _ => trivial⟩
  rcases @exists_covers_of_resolve _ _ walk (gathering tree) location _ [] keeps trivial path named
    reached isDirectory noLinks with ⟨visits, covers, same⟩
  refine ⟨visits, covers, same.trans ?_⟩
  rw [gathering_visitAll]
  rfl

end Walk
end Instrument
