import Instrument.Proofs.Files.Naming
import Mathlib.Data.List.Induction

/-!
# Making directories

Making a directory and those above it only adds directories where there was nothing.  What a path
leads to afterwards is empty if it is new, and it is new if the path does not go up again behind the
first piece that is missing.  A path that does may end in a directory that was there all along,
although it led nowhere before.
-/

namespace Instrument
namespace Files
namespace FileTree

variable {tree made left : FileTree} {here : Location} {above path : List String} {last : String}

theorem withoutTrailing_append (notBlank : last ≠ "") :
    withoutTrailing (above ++ [last]) = above ++ [last] := by
  rw [withoutTrailing, List.reverse_append, List.reverse_singleton, List.singleton_append,
    List.dropWhile_cons_of_neg (by simpa using notBlank), List.reverse_cons, List.reverse_reverse]

/-- The place of a name in a directory is found where the path above it leads. -/
theorem place_of_follow (notBlank : last ≠ "") {holder : Location}
    {entries : List (String × Entry)} (reached : tree.follow linkLimit here above = .ok holder)
    (found : tree.at? holder = some (.directory entries)) :
    tree.place here (above ++ [last]) = .ok (some (holder, last, entries)) := by
  rw [place, withoutTrailing_append notBlank, List.getLast?_concat]
  dsimp only
  rw [List.dropLast_concat, reached]
  dsimp only
  rw [found]

/-- A directory is made in a directory, under a name that was not taken. -/
theorem makeDirectory_eq_ok_iff (notBlank : last ≠ "") :
    tree.makeDirectory here (above ++ [last]) = .ok made ↔
      ∃ holder, tree.follow linkLimit here above = .ok holder ∧
        tree.shape? holder = some .directory ∧ isEntryName last = true ∧
        tree.shape? (holder ++ [last]) = none ∧
        made = tree.put (holder ++ [last]) (.directory []) := by
  rw [makeDirectory, place, withoutTrailing_append notBlank, List.getLast?_concat]
  dsimp only
  rw [List.dropLast_concat]
  cases tree.follow linkLimit here above with
  | error obstacle => simp
  | ok holder =>
      simp only [Except.ok.injEq, exists_eq_left']
      cases found : tree.at? holder with
      | none => simp [shape?, found]
      | some entry =>
          cases entry with
          | file content => simp [shape?, found, Entry.shape]
          | link target => simp [shape?, found, Entry.shape]
          | directory entries =>
              have holds : tree.shape? holder = some .directory := shape?_of_at? found
              rw [holds, shape?, at?_append_of_directory found]
              dsimp only
              cases isEntryName last with
              | false => simp
              | true =>
                  cases entries.lookup last with
                  | some held => simp
                  | none => simpa using eq_comm

theorem makeDirectory_of_taken (notBlank : last ≠ "") {holder : Location}
    (reached : tree.follow linkLimit here above = .ok holder)
    (holds : tree.shape? holder = some .directory)
    (taken : isEntryName last = true → tree.shape? (holder ++ [last]) ≠ none) :
    tree.makeDirectory here (above ++ [last]) = .error .alreadyExists := by
  rcases shape?_eq_directory_iff.mp holds with ⟨entries, found⟩
  rw [shape?, at?_append_of_directory found] at taken
  rw [makeDirectory, place_of_follow notBlank reached found]
  dsimp only
  rw [if_pos]
  cases isName : isEntryName last with
  | false => rfl
  | true =>
      cases lookup : entries.lookup last with
      | some held => rfl
      | none => exact absurd (by rw [lookup]; rfl) (taken isName)

theorem growsTo_of_makeDirectory (notBlank : last ≠ "") (plain : '/' ∉ last.toList)
    (makes : tree.makeDirectory here (above ++ [last]) = .ok made) : tree.GrowsTo made := by
  rcases (makeDirectory_eq_ok_iff notBlank).mp makes with
    ⟨holder, -, holds, isName, free, rfl⟩
  have shapes := shape?_put holds free Entry.isBare_directory
  constructor
  · rfl
  · intro location shape found
    rw [shapes, if_neg, found]
    rintro rfl
    rw [free] at found
    cases found
  · intro location shape found
    rw [shapes] at found
    split at found
    · exact .inr (Option.some.inj found).symm
    · exact .inl found
  · intro sound
    exact sound.put ⟨isName, plain⟩ Entry.isSound_directory holds
      (fun found => by cases free.symm.trans found) Entry.isBare_directory

/-- Names one below the other are enough to make a directory below others. -/
theorem makeDirectory_of_free (sound : tree.IsSound)
    (holds : tree.shape? (here ++ above) = some .directory) (isName : isEntryName last = true)
    (free : tree.shape? (here ++ above ++ [last]) = none) :
    tree.makeDirectory here (above ++ [last]) =
      .ok (tree.put (here ++ above ++ [last]) (.directory [])) := by
  have leads := leads_names here sound holds fun _ same => by cases same
  exact (makeDirectory_eq_ok_iff (ne_blank_of_isEntryName isName)).mpr
    ⟨_, follow_of_leads leads (Nat.zero_le _), holds, isName, free, rfl⟩

/-- A directory that was made is where its path leads now, and is all that has changed. -/
theorem exists_of_makeDirectory (notBlank : last ≠ "") (plain : '/' ∉ last.toList)
    (makes : tree.makeDirectory here (above ++ [last]) = .ok made) :
    ∃ holder, made.follow linkLimit here (above ++ [last]) = .ok (holder ++ [last]) ∧
      made.at? (holder ++ [last]) = some (.directory []) ∧
      ∀ other, made.shape? other ≠ tree.shape? other → other = holder ++ [last] := by
  have grows := growsTo_of_makeDirectory notBlank plain makes
  rcases (makeDirectory_eq_ok_iff notBlank).mp makes with
    ⟨holder, reached, holds, isName, free, rfl⟩
  rcases leads_of_follow reached with ⟨used, few, leads⟩
  have found := at?_put_self holds last (.directory [])
  have enters : Leads _ 0 holder [last] (holder ++ [last]) :=
    .enter (grows.keeps _ _ holds) isName (shape?_of_at? found) (fun _ same => by cases same)
      (.done _)
  refine ⟨holder, follow_of_leads ((grows.leads leads).append enters) few, found, ?_⟩
  intro other changed
  by_contra different
  exact changed ((shape?_put holds free Entry.isBare_directory other).trans (if_neg different))

theorem follow_of_unlessDirectory {obstacle : Obstacle}
    (passes : tree.unlessDirectory here path obstacle = .ok ()) :
    ∃ location, tree.follow linkLimit here path = .ok location ∧
      tree.shape? location = some .directory := by
  rw [unlessDirectory] at passes
  cases reached : tree.follow linkLimit here path with
  | error obstacle => rw [reached] at passes; cases passes
  | ok location =>
      rw [reached] at passes
      dsimp only at passes
      split at passes
      next entries found => exact ⟨location, rfl, shape?_eq_directory_iff.mpr ⟨entries, found⟩⟩
      next => cases passes

theorem unlessDirectory_ne_ok
    (missing : ∀ location, tree.follow linkLimit here path ≠ .ok location) (obstacle : Obstacle) :
    tree.unlessDirectory here path obstacle ≠ .ok () := by
  intro passes
  rcases follow_of_unlessDirectory passes with ⟨location, reached, -⟩
  exact missing location reached

theorem exists_follow_of_append {first second : List String} {location : Location}
    (reached : tree.follow linkLimit here (first ++ second) = .ok location) :
    ∃ between, tree.follow linkLimit here first = .ok between ∧
      ∃ used, tree.Leads used between second location := by
  rcases leads_of_follow reached with ⟨used, few, leads⟩
  rcases exists_of_leads_append leads with ⟨between, start, rest, sum, before, behind⟩
  exact ⟨between, follow_of_leads before (by omega), rest, behind⟩

/-! ## Chains of directories -/

/-- The pieces of a path are fit to be names, apart from those that stay or go up. -/
structure IsPlain (path : List String) : Prop where
  notBlank : "" ∉ path
  plain : ∀ piece ∈ path, '/' ∉ piece.toList

theorem IsPlain.of_append (plain : IsPlain (above ++ [last])) :
    IsPlain above ∧ last ≠ "" ∧ '/' ∉ last.toList := by
  refine ⟨⟨fun member => plain.notBlank (List.mem_append_left _ member),
    fun piece member => plain.plain piece (List.mem_append_left _ member)⟩, ?_,
    plain.plain last (by simp)⟩
  rintro rfl
  exact plain.notBlank (by simp)

theorem isPlain_names (path : String) : IsPlain (names path) :=
  ⟨blank_not_mem_names path, fun _ member => plain_of_mem_pieces (mem_pieces_of_mem_names member)⟩

/-- What making a chain of directories comes to, one directory at a time. -/
theorem makeAll_concat (tree : FileTree) (here : Location) (above : List String) (last : String) :
    makeAll here (above ++ [last]).reverse tree =
      match tree.makeDirectory here (above ++ [last]) with
      | .ok made => (.ok (), made)
      | .error .notFound =>
        match makeAll here above.reverse tree with
        | (.error obstacle, left) => (.error obstacle, left)
        | (.ok (), left) =>
          match left.makeDirectory here (above ++ [last]) with
          | .ok made => (.ok (), made)
          | .error obstacle => (left.unlessDirectory here (above ++ [last]) obstacle, left)
      | .error obstacle => (tree.unlessDirectory here (above ++ [last]) obstacle, tree) := by
  have parts : (above ++ [last]).reverse = last :: above.reverse := by simp
  have whole : above ++ [last] = (last :: above.reverse).reverse := by simp
  rw [parts, whole]
  rfl

/-- The ways in which making a chain of directories can end: the last one is made at once, or below
those above it; those above it cannot be made; it cannot be made although they are there; or it
cannot be made, and not because they are missing. -/
inductive MakesLast (tree : FileTree) (here : Location) (above : List String) (last : String) :
    Except Obstacle Unit → FileTree → Prop
  | atOnce {made : FileTree} (first : tree.makeDirectory here (above ++ [last]) = .ok made) :
      MakesLast tree here above last (.ok ()) made
  | below {between made : FileTree} (others : makeAll here above.reverse tree = (.ok (), between))
      (second : between.makeDirectory here (above ++ [last]) = .ok made) :
      MakesLast tree here above last (.ok ()) made
  | stopped {obstacle : Obstacle} {left : FileTree}
      (others : makeAll here above.reverse tree = (.error obstacle, left)) :
      MakesLast tree here above last (.error obstacle) left
  | refused {obstacle : Obstacle} {left : FileTree}
      (others : makeAll here above.reverse tree = (.ok (), left))
      (second : left.makeDirectory here (above ++ [last]) = .error obstacle) :
      MakesLast tree here above last (left.unlessDirectory here (above ++ [last]) obstacle) left
  | given {obstacle : Obstacle}
      (first : tree.makeDirectory here (above ++ [last]) = .error obstacle) :
      MakesLast tree here above last (tree.unlessDirectory here (above ++ [last]) obstacle) tree

theorem makesLast_of_makeAll {result : Except Obstacle Unit}
    (makes : makeAll here (above ++ [last]).reverse tree = (result, left)) :
    tree.MakesLast here above last result left := by
  rw [makeAll_concat] at makes
  split at makes
  next made first =>
    cases makes
    exact .atOnce first
  next =>
    split at makes
    next obstacle left' others =>
      cases makes
      exact .stopped others
    next between others =>
      split at makes
      next made second =>
        cases makes
        exact .below others second
      next obstacle second =>
        cases makes
        exact .refused others second
  next obstacle _ first =>
    cases makes
    exact .given first

theorem growsTo_of_makeAll (plain : IsPlain path) {result : Except Obstacle Unit}
    (makes : makeAll here path.reverse tree = (result, left)) : tree.GrowsTo left := by
  induction path using List.reverseRecOn generalizing result left with
  | nil =>
      cases makes
      exact .refl tree
  | append_singleton above last inductionHypothesis =>
      rcases plain.of_append with ⟨plainAbove, notBlank, plainLast⟩
      cases makesLast_of_makeAll makes with
      | atOnce first => exact growsTo_of_makeDirectory notBlank plainLast first
      | below others second =>
          exact (inductionHypothesis plainAbove others).trans
            (growsTo_of_makeDirectory notBlank plainLast second)
      | stopped others => exact inductionHypothesis plainAbove others
      | refused others _ => exact inductionHypothesis plainAbove others
      | given _ => exact .refl tree

/-- A place is where a first part of a path leads. -/
def IsOnWay (tree : FileTree) (here : Location) (path : List String) (location : Location) : Prop :=
  ∃ above last holder, above ++ [last] <+: path ∧ location = holder ++ [last] ∧
    tree.follow linkLimit here (above ++ [last]) = .ok location

theorem IsOnWay.mono {location : Location} {longer : List String}
    (isOnWay : tree.IsOnWay here path location) (within : path <+: longer)
    (grows : tree.GrowsTo made) : made.IsOnWay here longer location := by
  rcases isOnWay with ⟨above, last, holder, first, same, reached⟩
  rcases leads_of_follow reached with ⟨used, few, leads⟩
  exact ⟨above, last, holder, first.trans within, same, follow_of_leads (grows.leads leads) few⟩

/-- What making a chain of directories changes is where a first part of the path leads now. -/
theorem isOnWay_of_makeAll (plain : IsPlain path) {result : Except Obstacle Unit}
    (makes : makeAll here path.reverse tree = (result, left)) {location : Location}
    (changed : left.shape? location ≠ tree.shape? location) : left.IsOnWay here path location := by
  induction path using List.reverseRecOn generalizing result left with
  | nil =>
      cases makes
      exact absurd rfl changed
  | append_singleton above last inductionHypothesis =>
      rcases plain.of_append with ⟨plainAbove, notBlank, plainLast⟩
      have within : above <+: above ++ [last] := List.prefix_append _ _
      cases makesLast_of_makeAll makes with
      | atOnce first =>
          rcases exists_of_makeDirectory notBlank plainLast first with ⟨holder, reached, -, only⟩
          cases only _ changed
          exact ⟨above, last, holder, List.prefix_rfl, rfl, reached⟩
      | @below between _ others second =>
          rcases exists_of_makeDirectory notBlank plainLast second with ⟨holder, reached, -, only⟩
          -- Either the last directory has changed, or one of those above it.
          by_cases before : between.shape? location = tree.shape? location
          · cases only _ (before ▸ changed)
            exact ⟨above, last, holder, List.prefix_rfl, rfl, reached⟩
          · exact (inductionHypothesis plainAbove others before).mono within
              (growsTo_of_makeDirectory notBlank plainLast second)
      | stopped others =>
          exact (inductionHypothesis plainAbove others changed).mono within (.refl left)
      | refused others _ =>
          exact (inductionHypothesis plainAbove others changed).mono within (.refl left)
      | given _ => exact absurd rfl changed

/-- Where a path leads somewhere already, nothing is made. -/
theorem eq_of_makeAll_of_follow (plain : IsPlain path) {location : Location}
    (reached : tree.follow linkLimit here path = .ok location)
    (makes : makeAll here path.reverse tree = (.ok (), made)) : made = tree := by
  rcases List.eq_nil_or_concat path with rfl | ⟨above, last, rfl⟩
  · cases makes
    rfl
  rw [List.concat_eq_append] at plain reached makes
  rcases plain.of_append with ⟨-, notBlank, -⟩
  rcases exists_follow_of_append reached with ⟨holder, reachedAbove, used, leads⟩
  have taken (isName : isEntryName last = true) : tree.shape? (holder ++ [last]) ≠ none :=
    fun free => not_leads_of_free isName free leads
  rw [makeAll_concat, makeDirectory_of_taken notBlank reachedAbove leads.shape?_of_cons taken]
    at makes
  injection makes with _ same
  exact same.symm

/-- In an empty directory another one can be made. -/
theorem makeDirectory_ne_error_of_empty {above : List String} {last : String} {holder : Location}
    (notBlank : last ≠ "") (isName : isEntryName last = true)
    (reached : tree.follow linkLimit here above = .ok holder)
    (empty : tree.at? holder = some (.directory [])) (obstacle : Obstacle) :
    tree.makeDirectory here (above ++ [last]) ≠ .error obstacle := by
  intro fails
  have free : tree.shape? (holder ++ [last]) = none := by
    rw [shape?, at?_append_of_directory empty]
    rfl
  have makes := (makeDirectory_eq_ok_iff notBlank).mpr
    ⟨holder, reached, shape?_of_at? empty, isName, free, rfl⟩
  cases fails.symm.trans makes

theorem isEntryName_of_concat {above : List String} {last : String} (below : above ≠ [])
    (notBlank : last ≠ "") (noDot : "." ∉ (above ++ [last]).tail) (noUp : last ≠ "..") :
    isEntryName last = true := by
  have notDot : last ≠ "." := by
    rintro rfl
    rw [List.tail_append_of_ne_nil below] at noDot
    exact noDot (by simp)
  simp [isEntryName, notBlank, notDot, noUp]

/-- A path that leads nowhere, and does not go up behind the part of it that leads somewhere, leads
to an empty directory once that is made. -/
theorem exists_empty_of_makeAll (plain : IsPlain path) (noDot : "." ∉ path.tail)
    (missing : ∀ location, tree.follow linkLimit here path ≠ .ok location)
    {front rest : List String} (parts : path = front ++ rest) {location : Location}
    (reached : tree.follow linkLimit here front = .ok location) (noUp : ".." ∉ rest)
    (makes : makeAll here path.reverse tree = (.ok (), made)) :
    ∃ location, made.follow linkLimit here path = .ok location ∧
      made.at? location = some (.directory []) := by
  induction path using List.reverseRecOn generalizing rest made with
  | nil =>
      rcases List.append_eq_nil_iff.mp parts.symm with ⟨rfl, rfl⟩
      exact absurd reached (missing location)
  | append_singleton above last inductionHypothesis =>
      rcases plain.of_append with ⟨plainAbove, notBlank, plainLast⟩
      rcases List.eq_nil_or_concat rest with rfl | ⟨rest, last', rfl⟩
      · rw [List.append_nil] at parts
        exact absurd (parts ▸ reached) (missing location)
      rw [List.concat_eq_append, ← List.append_assoc] at parts
      rcases List.append_inj' parts rfl with ⟨rfl, same⟩
      cases same
      rw [List.concat_eq_append, List.mem_append, List.mem_singleton, not_or] at noUp
      generalize outcome : (Except.ok () : Except Obstacle Unit) = result at makes
      cases makesLast_of_makeAll makes with
      | atOnce first =>
          rcases exists_of_makeDirectory notBlank plainLast first with ⟨holder, reached, empty, -⟩
          exact ⟨_, reached, empty⟩
      | below _ second =>
          rcases exists_of_makeDirectory notBlank plainLast second with ⟨holder, reached, empty, -⟩
          exact ⟨_, reached, empty⟩
      | stopped _ => cases outcome
      | @refused obstacle _ others second =>
          -- The part above leads somewhere now.  If it did so before, nothing has changed; if not,
          -- it leads to an empty directory, and the last one could have been made there.
          by_cases there : ∃ location, tree.follow linkLimit here (front ++ rest) = .ok location
          · rcases there with ⟨location, there⟩
            cases eq_of_makeAll_of_follow plainAbove there others
            exact absurd outcome.symm (unlessDirectory_ne_ok missing obstacle)
          · have below : front ++ rest ≠ [] := by
              intro none
              rcases List.append_eq_nil_iff.mp none with ⟨rfl, rfl⟩
              exact there ⟨location, reached⟩
            have isName := isEntryName_of_concat below notBlank noDot fun same =>
              noUp.2 same.symm
            rw [List.tail_append_of_ne_nil below, List.mem_append, not_or] at noDot
            rcases inductionHypothesis plainAbove noDot.1
              (fun location found => there ⟨location, found⟩) rfl noUp.1 others with
              ⟨holder, reachedAbove, empty⟩
            exact absurd second
              (makeDirectory_ne_error_of_empty notBlank isName reachedAbove empty obstacle)
      | given _ => exact absurd outcome.symm (unlessDirectory_ne_ok missing _)

/-! ## The directory that a path names -/

/-- What a path names is there or new: behind the part that leads somewhere the path does not go up
again. -/
def IsFresh (tree : FileTree) (path : String) : Prop :=
  ∃ front rest location, pieces path = front ++ rest ∧
    tree.follow linkLimit (startOf tree.current path) front = .ok location ∧ ".." ∉ rest

variable {written : String} {location : Location}

theorem follow_of_resolve (reached : tree.resolve written = .ok location) :
    tree.follow linkLimit (startOf tree.current written) (pieces written) = .ok location := by
  rw [resolve, resolveFrom] at reached
  split at reached
  next => cases reached
  next => exact reached

theorem follow_names {path : List String} (reached : tree.follow linkLimit here path = .ok location)
    {short : List String} (shortens : Shortens path short) :
    tree.follow linkLimit here short = .ok location := by
  rcases leads_of_follow reached with ⟨used, few, leads⟩
  exact follow_of_leads (shortens.leads_short leads) few

theorem isFresh_of_not_mem (noUp : ".." ∉ pieces written) : tree.IsFresh written :=
  ⟨[], pieces written, startOf tree.current written, rfl, follow_of_leads (.done _) (Nat.zero_le _),
    noUp⟩

theorem growsTo_of_makeDirectories {result : Except Obstacle Unit}
    (makes : tree.makeDirectories written = (result, left)) : tree.GrowsTo left :=
  growsTo_of_makeAll (isPlain_names written) makes

theorem growsTo_makeDirectories (tree : FileTree) (written : String) :
    tree.GrowsTo (tree.makeDirectories written).2 :=
  growsTo_of_makeDirectories rfl

theorem makeDirectories_of_fst (makes : (tree.makeDirectories written).1 = .ok ()) :
    tree.makeDirectories written = (.ok (), (tree.makeDirectories written).2) :=
  Prod.ext makes rfl

theorem shape?_startOf (sound : tree.IsSound) (written : String) :
    tree.shape? (startOf tree.current written) = some .directory := by
  rw [startOf]
  split
  next =>
    cases same : tree.current with
    | nil => exact same ▸ sound.current
    | cons name rest =>
        have current := sound.current
        rw [same] at current
        exact shape?_append_cons current
  next => exact sound.current

/-- The directory that a path names is empty once it is made, if it is new or was empty before. -/
theorem at?_of_makeDirectories (fresh : tree.IsFresh written)
    (empty : ∀ location, tree.resolve written = .ok location →
      tree.at? location = some (.directory []))
    (makes : tree.makeDirectories written = (.ok (), made))
    (reached : made.resolve written = .ok location) :
    made.at? location = some (.directory []) := by
  have grows := growsTo_of_makeDirectories makes
  -- The directories are made for the names of the path, without the pieces that stay where they
  -- are; what is known of the path itself carries over to them.
  by_cases there : ∃ location,
      tree.follow linkLimit (startOf tree.current written) (names written) = .ok location
  · rcases there with ⟨_, there⟩
    have same := eq_of_makeAll_of_follow (isPlain_names written) there makes
    rw [same] at reached ⊢
    exact empty location reached
  · rcases fresh with ⟨front, rest, between, parts, reachedFront, noUp⟩
    rcases exists_names_append parts with ⟨front', rest', parts', shortens, within⟩
    rcases exists_empty_of_makeAll (isPlain_names written) (dot_not_mem_tail_names written)
      (fun location found => there ⟨location, found⟩) parts'
      (follow_names reachedFront shortens) (fun member => noUp (within _ member)) makes with
      ⟨location', reached', empty'⟩
    have again := follow_names (follow_of_resolve reached) (.names written)
    rw [grows.current, reached'] at again
    cases again
    exact empty'

/-! ## Something new in a directory that is there -/

/-- A path names a place where there is nothing yet, in a directory that is there. -/
structure IsNew (tree : FileTree) (written : String) (location : Location) : Prop where
  named : ∃ above last holder, names written = above ++ [last] ∧
    tree.follow linkLimit (startOf tree.current written) above = .ok holder ∧
    tree.shape? holder = some .directory ∧ isEntryName last = true ∧ location = holder ++ [last]
  free : tree.shape? location = none

namespace IsNew

theorem makeDirectories_eq (new : tree.IsNew written location) :
    tree.makeDirectories written = (.ok (), tree.put location (.directory [])) := by
  rcases new.named with ⟨above, last, holder, parts, reached, holds, isName, rfl⟩
  have plain := isPlain_names written
  rw [parts] at plain
  rw [makeDirectories, parts, makeAll_concat, (makeDirectory_eq_ok_iff plain.of_append.2.1).mpr
    ⟨holder, reached, holds, isName, new.free, rfl⟩]

theorem shape?_put (new : tree.IsNew written location) (other : Location) :
    (tree.put location (.directory [])).shape? other =
      if other = location then some .directory else tree.shape? other := by
  rcases new.named with ⟨above, last, holder, -, -, holds, -, rfl⟩
  exact FileTree.shape?_put holds new.free Entry.isBare_directory other

theorem at?_put (new : tree.IsNew written location) :
    (tree.put location (.directory [])).at? location = some (.directory []) := by
  rcases new.named with ⟨above, last, holder, -, -, holds, -, rfl⟩
  exact at?_put_self holds last _

theorem growsTo (new : tree.IsNew written location) :
    tree.GrowsTo (tree.put location (.directory [])) :=
  growsTo_of_makeDirectories new.makeDirectories_eq

theorem isEmpty_eq (new : tree.IsNew written location) : written.isEmpty = false := by
  rw [Bool.eq_false_iff]
  intro isEmpty
  rcases new.named with ⟨above, last, holder, parts, -⟩
  rw [String.isEmpty_iff.mp isEmpty] at parts
  exact List.append_ne_nil_of_right_ne_nil above (List.cons_ne_nil last []) parts.symm

/-- Before, the path leads nowhere. -/
theorem resolve_ne_ok (new : tree.IsNew written location) (other : Location) :
    tree.resolve written ≠ .ok other := by
  intro reached
  rcases new.named with ⟨above, last, holder, parts, reachedAbove, -, isName, rfl⟩
  have reached := follow_names (follow_of_resolve reached) (.names written)
  rw [parts] at reached
  rcases exists_follow_of_append reached with ⟨holder', reachedAbove', used, leads⟩
  cases reachedAbove.symm.trans reachedAbove'
  exact not_leads_of_free isName new.free leads

/-- Once the directory is made, the path leads to it. -/
theorem resolve_put (new : tree.IsNew written location) :
    (tree.put location (.directory [])).resolve written = .ok location := by
  have grows := new.growsTo
  have made := new.shape?_put location
  rw [if_pos rfl] at made
  rw [resolve, resolveFrom, new.isEmpty_eq, if_neg (by simp), grows.current]
  rcases new.named with ⟨above, last, holder, parts, reachedAbove, holds, isName, rfl⟩
  rcases leads_of_follow reachedAbove with ⟨used, few, leads⟩
  have enters : Leads (tree.put (holder ++ [last]) (.directory [])) 0 holder [last]
      (holder ++ [last]) :=
    .enter (grows.keeps _ _ holds) isName made (fun _ same => by cases same) (.done _)
  have whole := (grows.leads leads).append enters
  rw [← parts] at whole
  exact follow_of_leads ((Shortens.names written).leads_long whole made) few

end IsNew

end FileTree
end Files
end Instrument
