import Instrument.Files.Edit

/-!
# What stands at the places of a tree of files

A tree of files is read place by place: at a location there is a file, a directory, a link or
nothing.  This says all there is to say about a tree whose directories hold no name twice; such
trees are called sound.  A new leaf below a directory changes what stands at its own place, and
nothing else.
-/

namespace Instrument
namespace Files

/-- What an entry is, without what a directory holds. -/
inductive Shape where
  | file (content : ByteArray)
  | directory
  | link (target : String)

/-- Whether a text can stand for an entry of a directory. -/
def IsName (name : String) : Prop :=
  isEntryName name = true ∧ '/' ∉ name.toList

/-- The entries of a directory have names, and different ones. -/
structure IsListing (entries : List (String × Entry)) : Prop where
  distinct : (entries.map Prod.fst).Nodup
  named : ∀ name ∈ entries.map Prod.fst, IsName name

namespace Entry

/-- What the entry is. -/
def shape : Entry → Shape
  | file content => .file content
  | directory _ => .directory
  | link target => .link target

/-- Nothing stands below the entry. -/
def IsBare (entry : Entry) : Prop :=
  ∀ name, entry.child? name = none

/-- Every directory in the entry is a proper listing. -/
def IsSound (entry : Entry) : Prop :=
  ∀ location entries, entry.at? location = some (directory entries) → IsListing entries

variable {entry new : Entry} {location above : Location} {name : String}

theorem isBare_file (content : ByteArray) : (file content).IsBare :=
  fun _ => rfl

theorem isBare_directory : (directory []).IsBare :=
  fun _ => rfl

theorem eq_directory_of_shape (same : entry.shape = .directory) :
    ∃ entries, entry = directory entries := by
  cases entry with
  | directory entries => exact ⟨entries, rfl⟩
  | file content => cases same
  | link target => cases same

theorem isDirectory_iff : entry.isDirectory = true ↔ entry.shape = .directory := by
  cases entry <;> simp [isDirectory, shape]

/-! ## Names one below the other -/

theorem at?_append (first second : Location) (entry : Entry) :
    entry.at? (first ++ second) = (entry.at? first).bind (at? second) := by
  induction first generalizing entry with
  | nil => rfl
  | cons name first inductionHypothesis =>
      rw [List.cons_append, at?, at?]
      cases entry.child? name with
      | none => rfl
      | some held => exact inductionHypothesis held

theorem at?_of_isBare (bare : entry.IsBare) (inside : location ≠ []) :
    entry.at? location = none := by
  cases location with
  | nil => exact absurd rfl inside
  | cons name location => rw [at?, bare]; rfl

theorem isSound_directory : (directory []).IsSound := by
  intro location entries found
  cases location with
  | nil => cases found; exact ⟨.nil, List.forall_mem_nil _⟩
  | cons name location => rw [at?_of_isBare isBare_directory (by simp)] at found; cases found

theorem isSound_file (content : ByteArray) : (file content).IsSound := by
  intro location entries found
  cases location with
  | nil => cases found
  | cons name location => rw [at?_of_isBare (isBare_file content) (by simp)] at found; cases found

/-! ## Another entry at a place -/

theorem putAt_cons {path : Location} (inside : path ≠ []) (entries : List (String × Entry)) :
    putAt new (name :: path) (directory entries) =
      match entries.lookup name with
      | some held => directory (putEntry name (putAt new path held) entries)
      | none => directory entries := by
  cases path with
  | nil => exact absurd rfl inside
  | cons next path => rfl

/-- Another entry at a place is out of sight from everywhere else. -/
theorem shape_putAt_elsewhere {other : Location} (outside : ¬ location <+: other) :
    ((putAt new location entry).at? other).map shape = (entry.at? other).map shape := by
  induction location generalizing entry other with
  | nil => exact absurd List.nil_prefix outside
  | cons name path inductionHypothesis =>
      cases entry with
      | file content => cases path <;> rfl
      | link target => cases path <;> rfl
      | directory entries =>
          cases other with
          | nil =>
              cases path with
              | nil => rfl
              | cons next path =>
                  rw [putAt_cons (List.cons_ne_nil _ _)]
                  cases entries.lookup name <;> rfl
          | cons first other =>
              cases path with
              | nil =>
                  have different : first ≠ name := by
                    rintro rfl
                    exact outside ⟨other, rfl⟩
                  simp only [putAt, at?, child?, lookup_putEntry_of_ne different]
              | cons next path =>
                  rw [putAt_cons (List.cons_ne_nil _ _)]
                  cases found : entries.lookup name with
                  | none => rfl
                  | some held =>
                      by_cases same : first = name
                      · subst same
                        simp only [at?, child?, lookup_putEntry, found, Option.bind_some]
                        exact inductionHypothesis fun within =>
                          outside (List.cons_prefix_cons.mpr ⟨rfl, within⟩)
                      · simp only [at?, child?, lookup_putEntry_of_ne same]

/-- Below a directory the new entry is found where it was put. -/
theorem at?_putAt_self (holds : (entry.at? above).map shape = some .directory) :
    (putAt new (above ++ [name]) entry).at? (above ++ [name]) = some new := by
  induction above generalizing entry with
  | nil =>
      rcases eq_directory_of_shape (Option.some.inj holds) with ⟨entries, rfl⟩
      simp only [List.nil_append, putAt, at?, child?, lookup_putEntry, Option.bind_some]
  | cons first above inductionHypothesis =>
      cases entry with
      | file content => cases holds
      | link target => cases holds
      | directory entries =>
          rw [at?, child?] at holds
          cases found : entries.lookup first with
          | none => rw [found] at holds; cases holds
          | some held =>
              rw [found] at holds
              rw [List.cons_append,
                putAt_cons (List.append_ne_nil_of_right_ne_nil _ (List.cons_ne_nil _ _)), found]
              simp only [at?, child?, lookup_putEntry, Option.bind_some]
              exact inductionHypothesis holds

end Entry

/-! ## Sound trees -/

theorem mem_keys_putEntry {name other : String} {entry : Entry} {entries : List (String × Entry)} :
    other ∈ (putEntry name entry entries).map Prod.fst ↔
      other = name ∨ other ∈ entries.map Prod.fst := by
  induction entries with
  | nil => simp [putEntry]
  | cons first rest inductionHypothesis =>
      rw [putEntry]
      split
      next same => simp [same]
      next =>
        rw [List.map_cons, List.mem_cons, inductionHypothesis, List.map_cons, List.mem_cons]
        exact or_left_comm

theorem IsListing.putEntry {entries : List (String × Entry)} (listing : IsListing entries)
    {name : String} (isName : IsName name) (entry : Entry) :
    IsListing (putEntry name entry entries) := by
  constructor
  · have distinct := listing.distinct
    clear listing
    induction entries with
    | nil => simp [Files.putEntry]
    | cons first rest inductionHypothesis =>
        rw [List.map_cons, List.nodup_cons] at distinct
        rw [Files.putEntry]
        split
        next same =>
          rw [List.map_cons, List.nodup_cons]
          rw [same] at distinct
          exact distinct
        next different =>
          rw [List.map_cons, List.nodup_cons]
          refine ⟨fun member => ?_, inductionHypothesis distinct.2⟩
          rcases mem_keys_putEntry.mp member with same | member
          · exact different same
          · exact distinct.1 member
  · intro other member
    rcases mem_keys_putEntry.mp member with rfl | member
    · exact isName
    · exact listing.named other member

theorem mem_of_lookup {entries : List (String × Entry)} {name : String} {held : Entry}
    (found : entries.lookup name = some held) : (name, held) ∈ entries := by
  rcases List.lookup_eq_some_iff.mp found with ⟨before, behind, rfl, -⟩
  simp

theorem mem_keys_of_lookup {entries : List (String × Entry)} {name : String} {held : Entry}
    (found : entries.lookup name = some held) : name ∈ entries.map Prod.fst :=
  List.mem_map.mpr ⟨_, mem_of_lookup found, rfl⟩

namespace Entry

variable {entry new : Entry} {name : String}

theorem isSound_directory_iff {entries : List (String × Entry)} :
    (directory entries).IsSound ↔
      IsListing entries ∧ ∀ name held, entries.lookup name = some held → held.IsSound := by
  constructor
  · intro sound
    refine ⟨sound [] entries rfl, fun name held found location entries below => ?_⟩
    refine sound (name :: location) entries ?_
    rw [at?, child?, found]
    exact below
  · rintro ⟨listing, sound⟩ location others found
    cases location with
    | nil => cases found; exact listing
    | cons name location =>
        rw [at?, child?] at found
        cases held : entries.lookup name with
        | none => rw [held] at found; cases found
        | some held' =>
            rw [held] at found
            exact sound name held' held location others found

theorem IsSound.putAt (sound : entry.IsSound) (newSound : new.IsSound) (isName : IsName name)
    (above : Location) : (putAt new (above ++ [name]) entry).IsSound := by
  induction above generalizing entry with
  | nil =>
      cases entry with
      | file content => exact sound
      | link target => exact sound
      | directory entries =>
          rw [isSound_directory_iff] at sound
          refine isSound_directory_iff.mpr ⟨sound.1.putEntry isName new, fun other held found => ?_⟩
          by_cases same : other = name
          · rw [same, lookup_putEntry] at found
            cases found
            exact newSound
          · rw [lookup_putEntry_of_ne same] at found
            exact sound.2 other held found
  | cons first above inductionHypothesis =>
      have inside : above ++ [name] ≠ [] :=
        List.append_ne_nil_of_right_ne_nil _ (List.cons_ne_nil _ _)
      cases entry with
      | file content => rw [List.cons_append, Entry.putAt] <;> simp_all
      | link target => rw [List.cons_append, Entry.putAt] <;> simp_all
      | directory entries =>
          rw [List.cons_append, putAt_cons inside]
          cases found : entries.lookup first with
          | none => exact sound
          | some held =>
              rw [isSound_directory_iff] at sound
              have firstName := sound.1.named first (mem_keys_of_lookup found)
              refine isSound_directory_iff.mpr
                ⟨sound.1.putEntry firstName _, fun other held' found' => ?_⟩
              by_cases same : other = first
              · rw [same, lookup_putEntry] at found'
                cases found'
                exact inductionHypothesis (sound.2 first held found)
              · rw [lookup_putEntry_of_ne same] at found'
                exact sound.2 other held' found'

/-! ## Checking every place -/

mutual

/-- Whether a test holds of an entry and of everything below it. -/
def all (test : Entry → Bool) : Entry → Bool
  | file content => test (file content)
  | directory entries => test (directory entries) && allOf test entries
  | link target => test (link target)

/-- Whether a test holds of the entries of a directory and of everything below them. -/
def allOf (test : Entry → Bool) : List (String × Entry) → Bool
  | [] => true
  | (_, entry) :: rest => all test entry && allOf test rest

end

theorem all_of_lookup {test : Entry → Bool} {entries : List (String × Entry)} {held : Entry}
    (passes : allOf test entries = true) (found : entries.lookup name = some held) :
    held.all test = true := by
  induction entries with
  | nil => cases found
  | cons first rest inductionHypothesis =>
      rcases first with ⟨other, entry⟩
      rw [allOf, Bool.and_eq_true] at passes
      rw [List.lookup_cons] at found
      split at found
      next => cases found; exact passes.1
      next => exact inductionHypothesis passes.2 found

theorem test_of_all {test : Entry → Bool} {location : Location} {found : Entry}
    (passes : entry.all test = true) (there : entry.at? location = some found) :
    test found = true := by
  induction location generalizing entry with
  | nil =>
      cases there
      cases found with
      | file content => exact passes
      | link target => exact passes
      | directory entries => rw [all, Bool.and_eq_true] at passes; exact passes.1
  | cons name location inductionHypothesis =>
      cases entry with
      | file content => cases there
      | link target => cases there
      | directory entries =>
          rw [all, Bool.and_eq_true] at passes
          rw [at?, child?] at there
          cases held : entries.lookup name with
          | none => rw [held] at there; cases there
          | some inner =>
              rw [held] at there
              exact inductionHypothesis (all_of_lookup passes.2 held) there

/-- Whether a directory is a proper listing. -/
def isProper : Entry → Bool
  | directory entries => decide ((entries.map Prod.fst).Nodup) && entries.all fun entry =>
      isEntryName entry.1 && !entry.1.toList.contains '/'
  | _ => true

theorem isSound_of_all (passes : entry.all isProper = true) : entry.IsSound := by
  intro location entries found
  have proper := test_of_all passes found
  rw [isProper, Bool.and_eq_true, decide_eq_true_eq, List.all_eq_true] at proper
  refine ⟨proper.1, fun name member => ?_⟩
  rcases List.mem_map.mp member with ⟨first, among, rfl⟩
  simpa [IsName] using proper.2 first among

/-- Whether an entry is a link. -/
def isLink : Entry → Bool
  | link _ => true
  | _ => false

theorem shape_ne_link_of_all (passes : entry.all (fun entry => !entry.isLink) = true)
    (location : Location) (target : String) :
    (entry.at? location).map shape ≠ some (.link target) := by
  intro found
  rcases Option.map_eq_some_iff.mp found with ⟨held, there, same⟩
  have test := test_of_all passes there
  cases held with
  | file content => cases same
  | directory entries => cases same
  | link target => cases test

end Entry

namespace FileTree

/-- What stands at a location. -/
def shape? (tree : FileTree) (location : Location) : Option Shape :=
  (tree.at? location).map Entry.shape

/-- Every directory of the tree is a proper listing, and relative paths start in a directory. -/
structure IsSound (tree : FileTree) : Prop where
  root : tree.root.IsSound
  current : tree.shape? tree.current = some .directory

variable {tree : FileTree} {above location other : Location} {name : String} {new : Entry}

theorem shape?_of_at? {entry : Entry} (found : tree.at? location = some entry) :
    tree.shape? location = some entry.shape := by
  rw [shape?, found]
  rfl

theorem shape?_append_cons {shape : Shape} {rest : List String}
    (found : tree.shape? (above ++ name :: rest) = some shape) :
    tree.shape? above = some .directory := by
  rw [shape?, at?, Entry.at?_append] at found
  rw [shape?, at?]
  cases held : tree.root.at? above with
  | none => rw [held] at found; cases found
  | some entry =>
      cases entry with
      | directory entries => rfl
      | file content => rw [held] at found; cases found
      | link target => rw [held] at found; cases found

/-- Above something that is there, everything is there. -/
theorem exists_shape?_of_append {first second : Location} {shape : Shape}
    (found : tree.shape? (first ++ second) = some shape) :
    ∃ above, tree.shape? first = some above := by
  cases second with
  | nil => exact ⟨shape, List.append_nil first ▸ found⟩
  | cons name rest => exact ⟨_, shape?_append_cons found⟩

theorem shape?_eq_directory_iff :
    tree.shape? location = some .directory ↔
      ∃ entries, tree.at? location = some (.directory entries) := by
  rw [shape?, Option.map_eq_some_iff]
  constructor
  · rintro ⟨entry, found, same⟩
    rcases Entry.eq_directory_of_shape same with ⟨entries, rfl⟩
    exact ⟨entries, found⟩
  · rintro ⟨entries, found⟩
    exact ⟨_, found, rfl⟩

theorem shape?_of_isDirectory (test : (tree.at? location).any Entry.isDirectory = true) :
    tree.shape? location = some .directory := by
  rw [shape?]
  cases found : tree.at? location with
  | none => rw [found] at test; cases test
  | some entry =>
      rw [found] at test
      cases entry with
      | directory entries => rfl
      | file content => cases test
      | link target => cases test

theorem entry_eq_ok_iff {path : String} {entry : Entry} : tree.entry path = .ok entry ↔
    ∃ location, tree.resolve path = .ok location ∧ tree.at? location = some entry := by
  rw [FileTree.entry, entryFrom, resolve]
  cases tree.resolveFrom tree.current path with
  | error obstacle => simp
  | ok location =>
      simp only [Except.ok.injEq, exists_eq_left']
      cases tree.at? location <;> simp

/-- A path leads to a directory if it leads to a place where one stands. -/
theorem isDirectory_iff {path : String} : tree.isDirectory path = true ↔
    ∃ location, tree.resolve path = .ok location ∧ tree.shape? location = some .directory := by
  simp only [shape?_eq_directory_iff]
  constructor
  · intro isDirectory
    rw [FileTree.isDirectory] at isDirectory
    cases found : tree.entry path with
    | error obstacle => rw [found] at isDirectory; cases isDirectory
    | ok entry =>
        rcases entry_eq_ok_iff.mp found with ⟨location, reached, there⟩
        cases entry with
        | directory entries => exact ⟨location, reached, entries, there⟩
        | file content => rw [found] at isDirectory; cases isDirectory
        | link target => rw [found] at isDirectory; cases isDirectory
  · rintro ⟨location, reached, entries, there⟩
    rw [FileTree.isDirectory, entry_eq_ok_iff.mpr ⟨location, reached, there⟩]
    rfl

/-- A path leads to a file if it leads to a place where one stands. -/
theorem exists_of_isFile {path : String} (isFile : tree.isFile path = true) :
    ∃ location content, tree.resolve path = .ok location ∧
      tree.shape? location = some (.file content) := by
  rw [FileTree.isFile] at isFile
  cases found : tree.entry path with
  | error obstacle => rw [found] at isFile; cases isFile
  | ok entry =>
      rcases entry_eq_ok_iff.mp found with ⟨location, reached, there⟩
      cases entry with
      | file content => exact ⟨location, content, reached, shape?_of_at? there⟩
      | directory entries => rw [found] at isFile; cases isFile
      | link target => rw [found] at isFile; cases isFile

theorem at?_append_of_directory {entries : List (String × Entry)}
    (found : tree.at? location = some (.directory entries)) (name : String) :
    tree.at? (location ++ [name]) = entries.lookup name := by
  rw [at?] at found
  rw [at?, Entry.at?_append, found]
  simp only [Option.bind_some, Entry.at?, Entry.child?]
  cases entries.lookup name <;> rfl

theorem shape?_of_empty (empty : tree.at? above = some (.directory [])) (inside : other ≠ []) :
    tree.shape? (above ++ other) = none := by
  rw [shape?, at?, Entry.at?_append, ← at?, empty, Option.bind_some,
    Entry.at?_of_isBare Entry.isBare_directory inside]
  rfl

/-- What stands below a directory stands below one of its names. -/
theorem mem_keys_of_shape? {entries : List (String × Entry)}
    (held : tree.at? above = some (.directory entries)) {shape : Shape} {rest : List String}
    (found : tree.shape? (above ++ name :: rest) = some shape) : name ∈ entries.map Prod.fst := by
  rw [shape?, at?, Entry.at?_append, ← at?, held, Option.bind_some, Entry.at?, Entry.child?]
    at found
  cases same : entries.lookup name with
  | none => rw [same] at found; cases found
  | some entry => exact mem_keys_of_lookup same

/-- The names in a directory are those under which something stands. -/
theorem mem_namesIn_iff : name ∈ tree.namesIn above ↔
    ∃ shape, tree.shape? (above ++ [name]) = some shape := by
  rw [namesIn]
  split
  next entries held =>
    constructor
    · intro member
      rcases List.mem_map.mp member with ⟨⟨other, entry⟩, among, rfl⟩
      cases found : entries.lookup other with
      | none => exact absurd (List.lookup_eq_none_iff.mp found _ among) (by simp)
      | some entry => exact ⟨_, shape?_of_at? ((at?_append_of_directory held other).trans found)⟩
    · rintro ⟨shape, found⟩
      exact mem_keys_of_shape? held found
  next noDirectory =>
    refine ⟨fun member => (by cases member), ?_⟩
    rintro ⟨shape, found⟩
    rcases shape?_eq_directory_iff.mp (shape?_append_cons found) with ⟨entries, held⟩
    exact absurd held (noDirectory entries)

theorem nodup_namesIn (sound : tree.IsSound) (location : Location) :
    (tree.namesIn location).Nodup := by
  rw [namesIn]
  split
  next entries found => exact (sound.root location entries found).distinct
  next => exact .nil

theorem isName_of_shape? (sound : tree.IsSound) {shape : Shape} {rest : List String}
    (found : tree.shape? (above ++ name :: rest) = some shape) : IsName name := by
  rcases shape?_eq_directory_iff.mp (shape?_append_cons found) with ⟨entries, held⟩
  exact (sound.root above entries held).named name (mem_keys_of_shape? held found)

theorem shape?_put_elsewhere (outside : ¬ location <+: other) :
    (tree.put location new).shape? other = tree.shape? other :=
  Entry.shape_putAt_elsewhere outside

theorem at?_put_self (holds : tree.shape? above = some .directory) (name : String) (new : Entry) :
    (tree.put (above ++ [name]) new).at? (above ++ [name]) = some new :=
  Entry.at?_putAt_self holds

/-- A new leaf in the place of anything but a directory is all that changes. -/
theorem shape?_put_leaf (holds : tree.shape? above = some .directory)
    (leaf : tree.shape? (above ++ [name]) ≠ some .directory) (bare : new.IsBare)
    (other : Location) :
    (tree.put (above ++ [name]) new).shape? other =
      if other = above ++ [name] then some new.shape else tree.shape? other := by
  have here := at?_put_self holds name new
  split
  next same => rw [same, shape?, here]; rfl
  next different =>
    by_cases within : above ++ [name] <+: other
    · rcases within with ⟨rest, rfl⟩
      cases rest with
      | nil => exact absurd (List.append_nil _) different
      | cons next rest =>
          have before : tree.shape? (above ++ [name] ++ next :: rest) = none :=
            Option.eq_none_iff_forall_ne_some.mpr fun _ found => leaf (shape?_append_cons found)
          rw [before, shape?, at?, Entry.at?_append, ← at?, here, Option.bind_some,
            Entry.at?_of_isBare bare (List.cons_ne_nil _ _)]
          rfl
    · exact shape?_put_elsewhere within

/-- A new leaf where there was nothing is all that changes. -/
theorem shape?_put (holds : tree.shape? above = some .directory)
    (free : tree.shape? (above ++ [name]) = none) (bare : new.IsBare) (other : Location) :
    (tree.put (above ++ [name]) new).shape? other =
      if other = above ++ [name] then some new.shape else tree.shape? other :=
  shape?_put_leaf holds (fun found => by cases free.symm.trans found) bare other

theorem IsSound.put (sound : tree.IsSound) (isName : IsName name) (newSound : new.IsSound)
    (holds : tree.shape? above = some .directory)
    (leaf : tree.shape? (above ++ [name]) ≠ some .directory) (bare : new.IsBare) :
    (tree.put (above ++ [name]) new).IsSound := by
  refine ⟨sound.root.putAt newSound isName above, ?_⟩
  change (tree.put (above ++ [name]) new).shape? tree.current = some .directory
  rw [shape?_put_leaf holds leaf bare, if_neg, sound.current]
  intro same
  exact leaf (same ▸ sound.current)

end FileTree
end Files
end Instrument
