import Instrument.Proofs.Files.Making

/-!
# Writing files

A file is written to one place: the place its path leads to, over links if there are any, or the
place of the entry that its path names, if that entry is to be replaced.  Everything else stays as
it was.  The path leads to the new file afterwards, since what it leads over are directories and
links that are still there.
-/

namespace Instrument
namespace Files
namespace FileTree

variable {tree written : FileTree} {here holder location : Location} {path above : List String}
  {name last : String} {content : ByteArray} {links : Nat}

/-! ## One file more, or another one -/

/-- A tree has become another one by a file at a place that held no directory. -/
structure Overwrites (tree written : FileTree) (location : Location) (content : ByteArray) :
    Prop where
  current : written.current = tree.current
  now : written.shape? location = some (.file content)
  elsewhere : ∀ other, other ≠ location → written.shape? other = tree.shape? other
  leaf : tree.shape? location ≠ some .directory

theorem overwrites_put (holds : tree.shape? holder = some .directory)
    (leaf : tree.shape? (holder ++ [name]) ≠ some .directory) :
    tree.Overwrites (tree.put (holder ++ [name]) (.file content)) (holder ++ [name]) content := by
  have shapes := shape?_put_leaf holds leaf (Entry.isBare_file content)
  refine ⟨rfl, ?_, fun other different => ?_, leaf⟩
  · rw [shapes, if_pos rfl]
    rfl
  · rw [shapes, if_neg different]

/-- No path that goes through a place leads to a directory. -/
def Stops (tree : FileTree) (location : Location) : Prop :=
  ∀ holder name links rest behind, location = holder ++ [name] →
    tree.Leads links holder (name :: rest) behind → tree.shape? behind ≠ some .directory

theorem stops_of_free (isName : isEntryName name = true)
    (free : tree.shape? (holder ++ [name]) = none) : tree.Stops (holder ++ [name]) := by
  intro holder' name' links rest behind same leads
  rcases List.append_inj' same rfl with ⟨rfl, last⟩
  cases last
  exact absurd leads (not_leads_of_free isName free)

/-- A place stops every path if it leads to a file. -/
theorem stops_of_leads (leads : tree.Leads links holder [name] location)
    (found : tree.shape? location = some (.file content)) : tree.Stops (holder ++ [name]) := by
  intro holder' name' links' rest behind same leads' holds
  rcases List.append_inj' same rfl with ⟨rfl, last⟩
  cases last
  have parts : tree.Leads links' holder ([name] ++ rest) behind := leads'
  rcases exists_of_leads_append parts with ⟨between, _, _, -, start, further⟩
  cases leads.unique start
  -- Behind a file there is nothing more to follow, and a file is no directory.
  cases rest with
  | nil =>
      cases further
      cases found.symm.trans holds
  | cons next rest => cases found.symm.trans further.shape?_of_cons

/-- Where a path leads to a directory does not change, if no such path goes through the place of the
file. -/
theorem Overwrites.leads (overwrites : tree.Overwrites written location content)
    (stops : tree.Stops location) {behind : Location}
    (leads : tree.Leads links here path behind) (ends : tree.shape? behind = some .directory) :
    written.Leads links here path behind := by
  have keeps {other : Location} (holds : tree.shape? other = some .directory) :
      written.shape? other = some .directory := by
    rw [overwrites.elsewhere, holds]
    rintro rfl
    exact overwrites.leaf holds
  induction leads with
  | done here => exact .done here
  | stay holds still _ inductionHypothesis =>
      exact .stay (keeps holds) still (inductionHypothesis ends)
  | up holds _ inductionHypothesis => exact .up (keeps holds) (inductionHypothesis ends)
  | enter holds isName found noLink further inductionHypothesis =>
      have away := fun same : _ ++ [_] = location =>
        stops _ _ _ _ _ same.symm (.enter holds isName found noLink further) ends
      exact .enter (keeps holds) isName ((overwrites.elsewhere _ away).trans found) noLink
        (inductionHypothesis ends)
  | jump holds isName found held further inductionHypothesis =>
      have away := fun same : _ ++ [_] = location =>
        stops _ _ _ _ _ same.symm (.jump holds isName found held further) ends
      exact .jump (keeps holds) isName ((overwrites.elsewhere _ away).trans found) held
        (inductionHypothesis ends)

/-- Behind a path to the directory that holds it, the name of the file leads to it. -/
theorem Overwrites.leads_concat (overwrites : tree.Overwrites written (holder ++ [last]) content)
    (stops : tree.Stops (holder ++ [last])) (leads : tree.Leads links here above holder)
    (holds : tree.shape? holder = some .directory) (isName : isEntryName last = true) :
    written.Leads links here (above ++ [last]) (holder ++ [last]) := by
  have start := overwrites.leads stops leads holds
  have holds' : written.shape? holder = some .directory :=
    (overwrites.elsewhere holder fun same => by simp at same).trans holds
  exact start.append (.enter holds' isName overwrites.now (fun _ same => by cases same) (.done _))

theorem at?_of_shape?_file (found : tree.shape? location = some (.file content)) :
    tree.at? location = some (.file content) := by
  rcases Option.map_eq_some_iff.mp found with ⟨entry, found, same⟩
  cases entry with
  | file held => cases same; exact found
  | directory entries => cases same
  | link target => cases same

theorem readBytes_of_leads {text : String}
    (leads : tree.Leads links (startOf tree.current text) (pieces text) location)
    (few : links ≤ linkLimit) (present : text.isEmpty = false)
    (found : tree.shape? location = some (.file content)) : tree.readBytes text = .ok content := by
  rw [readBytes, readBytesFrom, entryFrom, resolveFrom, present, if_neg (by simp),
    follow_of_leads leads few]
  dsimp only
  rw [at?_of_shape?_file found]
  rfl

/-! ## Writing to where a path leads -/

theorem withoutTrailing_self (whole : withoutTrailing path = path) {last : String}
    (ends : (withoutTrailing path).getLast? = some last) : ∃ above, path = above ++ [last] := by
  rw [whole] at ends
  exact List.getLast?_eq_some_iff.mp ends

/-- The directory that holds what a path names is where the path without its last piece leads. -/
theorem exists_of_place {entries : List (String × Entry)} (whole : withoutTrailing path = path)
    (placed : tree.place here path = .ok (some (holder, last, entries))) :
    ∃ above, path = above ++ [last] ∧ tree.follow linkLimit here above = .ok holder ∧
      tree.at? holder = some (.directory entries) := by
  rw [place] at placed
  split at placed
  next => cases placed
  next last' ends =>
    rcases withoutTrailing_self whole ends with ⟨above, rfl⟩
    rw [whole, List.dropLast_concat] at placed
    split at placed
    next => cases placed
    next holder' reached =>
      split at placed
      next entries' found =>
        cases placed
        exact ⟨above, rfl, reached, found⟩
      next => cases placed
      next => cases placed

/-- A place where a file can be written: in a directory there is nothing under its name, or a
file. -/
structure IsWritable (tree : FileTree) (location : Location) : Prop where
  exists_holder : ∃ holder name, location = holder ++ [name] ∧
    tree.shape? holder = some .directory ∧ isEntryName name = true
  free_or_file : tree.shape? location = none ∨
    ∃ content, tree.shape? location = some (.file content)

namespace IsWritable

theorem overwrites (isWritable : tree.IsWritable location) (content : ByteArray) :
    tree.Overwrites (tree.put location (.file content)) location content := by
  rcases isWritable.exists_holder with ⟨holder, name, rfl, holds, -⟩
  refine overwrites_put holds fun directory => ?_
  rcases isWritable.free_or_file with free | ⟨held, file⟩
  · cases free.symm.trans directory
  · cases file.symm.trans directory

/-- Wherever a file can be written, nothing gets lost by it. -/
theorem keepsPlaces (isWritable : tree.IsWritable location)
    (overwrites : tree.Overwrites written location content) : tree.KeepsPlaces written := by
  refine keepsPlaces_of_elsewhere overwrites.elsewhere overwrites.now (fun _ same => by cases same)
    overwrites.leaf fun target link => ?_
  rcases isWritable.free_or_file with free | ⟨held, file⟩
  · cases free.symm.trans link
  · cases file.symm.trans link

end IsWritable

/-- What can be written to is a name in a directory. -/
theorem exists_of_writable_succ (found : tree.writable (links + 1) here path = .ok location) :
    ∃ holder above last, path = above ++ [last] ∧ isEntryName last = true ∧
      tree.follow linkLimit here above = .ok holder ∧ tree.shape? holder = some .directory := by
  rw [writable] at found
  split at found
  next => cases found
  next => cases found
  next holder last entries placed =>
    split at found
    next => cases found
    next fit =>
      simp only [Bool.or_eq_true, Bool.not_eq_true', bne_iff_ne, not_or, ne_eq, not_not,
        Bool.not_eq_false] at fit
      rcases exists_of_place fit.2 placed with ⟨above, rfl, reached, there⟩
      exact ⟨holder, above, last, rfl, fit.1, reached, shape?_of_at? there⟩

/-- Where a name in a directory is to be written to depends on what is under it. -/
theorem writable_succ_concat (isName : isEntryName last = true)
    (reached : tree.follow linkLimit here above = .ok holder)
    (holds : tree.shape? holder = some .directory) :
    tree.writable (links + 1) here (above ++ [last]) =
      match tree.shape? (holder ++ [last]) with
      | some .directory => .error .isDirectory
      | some (.link target) => tree.writable links (startOf holder target) (pieces target)
      | _ => .ok (holder ++ [last]) := by
  have notBlank := ne_blank_of_isEntryName isName
  rcases shape?_eq_directory_iff.mp holds with ⟨entries, there⟩
  rw [writable, place_of_follow notBlank reached there, withoutTrailing_append notBlank, shape?,
    at?_append_of_directory there]
  dsimp only
  rw [if_neg (by simp [isName])]
  cases entries.lookup last with
  | none => rfl
  | some entry => cases entry <;> rfl

/-- One step on the way to the place a path names to be written to. -/
theorem writable_succ_eq_ok_iff : tree.writable (links + 1) here path = .ok location ↔
    ∃ holder above last, path = above ++ [last] ∧ isEntryName last = true ∧
      tree.follow linkLimit here above = .ok holder ∧ tree.shape? holder = some .directory ∧
      ((location = holder ++ [last] ∧ tree.IsWritable location) ∨
        ∃ target, tree.shape? (holder ++ [last]) = some (.link target) ∧
          tree.writable links (startOf holder target) (pieces target) = .ok location) := by
  constructor
  · intro found
    rcases exists_of_writable_succ found with ⟨holder, above, last, rfl, isName, reached, holds⟩
    refine ⟨holder, above, last, rfl, isName, reached, holds, ?_⟩
    rw [writable_succ_concat isName reached holds] at found
    cases under : tree.shape? (holder ++ [last]) with
    | none =>
        rw [under] at found
        cases found
        exact .inl ⟨rfl, ⟨holder, last, rfl, holds, isName⟩, .inl under⟩
    | some shape =>
        rw [under] at found
        cases shape with
        | directory => cases found
        | link target => exact .inr ⟨target, rfl, found⟩
        | file content =>
            cases found
            exact .inl ⟨rfl, ⟨holder, last, rfl, holds, isName⟩, .inr ⟨content, under⟩⟩
  · rintro ⟨holder, above, last, rfl, isName, reached, holds, further⟩
    rw [writable_succ_concat isName reached holds]
    rcases further with ⟨rfl, isWritable⟩ | ⟨target, link, further⟩
    · rcases isWritable.free_or_file with free | ⟨content, file⟩
      · rw [free]
      · rw [file]
    · rw [link]
      exact further

theorem isWritable_of_writable (found : tree.writable links here path = .ok location) :
    tree.IsWritable location := by
  induction links generalizing here path with
  | zero => cases found
  | succ links inductionHypothesis =>
      rcases writable_succ_eq_ok_iff.mp found with ⟨holder, above, last, -, -, -, -, further⟩
      rcases further with ⟨-, isWritable⟩ | ⟨target, -, further⟩
      · exact isWritable
      · exact inductionHypothesis further

/-- The name that is written to is a piece of the path, or of a link on its way. -/
theorem plain_of_writable (plain : ∀ piece ∈ path, '/' ∉ piece.toList)
    (found : tree.writable links here path = .ok (holder ++ [name])) : '/' ∉ name.toList := by
  induction links generalizing here path with
  | zero => cases found
  | succ links inductionHypothesis =>
      rcases writable_succ_eq_ok_iff.mp found with
        ⟨holder', above, last, rfl, -, -, -, ⟨same, -⟩ | ⟨target, -, further⟩⟩
      · cases (List.append_inj' same rfl).2
        exact plain name (by simp)
      · exact inductionHypothesis (fun piece member => plain_of_mem_pieces member) further

/-- Once the file is written, the path leads to it. -/
theorem Overwrites.leads_of_writable (overwrites : tree.Overwrites written location content)
    (found : tree.writable links here path = .ok location) :
    ∃ used, written.Leads used here path location := by
  have keeps := (isWritable_of_writable found).keepsPlaces overwrites
  -- By induction on the links that may be followed: each one on the way is still there.
  induction links generalizing here path with
  | zero => cases found
  | succ links inductionHypothesis =>
      rcases writable_succ_eq_ok_iff.mp found with
        ⟨holder, above, last, rfl, isName, reached, holds, further⟩
      rcases leads_of_follow reached with ⟨used, -, leads⟩
      have holds' := keeps.directories _ holds
      rcases further with ⟨rfl, -⟩ | ⟨target, link, further⟩
      · exact ⟨used, (keeps.leads leads).append
          (.enter holds' isName overwrites.now (fun _ same => by cases same) (.done _))⟩
      · rcases inductionHypothesis further with ⟨used', behind⟩
        have held : target.isEmpty = false := by
          cases isEmpty : target.isEmpty with
          | false => rfl
          | true =>
              rw [String.isEmpty_iff.mp isEmpty] at further
              cases links with
              | zero => cases further
              | succ links => cases further
        refine ⟨used + (used' + 1), (keeps.leads leads).append
          (.jump holds' isName ((keeps.links_iff _ _).mpr link) held ?_)⟩
        rw [List.append_nil]
        exact behind

/-- Writing changes one place, to which the path leads afterwards. -/
theorem exists_of_writeFrom (writes : tree.writeFrom here path content = .ok written) :
    ∃ location, tree.IsWritable location ∧ tree.Overwrites written location content ∧
      ∃ used, written.Leads used here path location := by
  rw [writeFrom] at writes
  split at writes
  next => cases writes
  next location found =>
    cases writes
    have isWritable := isWritable_of_writable found
    have overwrites := isWritable.overwrites content
    exact ⟨location, isWritable, overwrites, overwrites.leads_of_writable found⟩

theorem isSound_of_writeFrom (sound : tree.IsSound) (plain : ∀ piece ∈ path, '/' ∉ piece.toList)
    (writes : tree.writeFrom here path content = .ok written) : written.IsSound := by
  rw [writeFrom] at writes
  split at writes
  next => cases writes
  next location found =>
    cases writes
    have isWritable := isWritable_of_writable found
    have leaf := (isWritable.overwrites content).leaf
    rcases isWritable.exists_holder with ⟨holder, name, rfl, holds, isName⟩
    exact sound.put ⟨isName, plain_of_writable plain found⟩ (Entry.isSound_file content) holds leaf
      (Entry.isBare_file content)

/-- Names one below the other are enough to write a new file below directories. -/
theorem writeFrom_of_free (sound : tree.IsSound)
    (holds : tree.shape? (here ++ above) = some .directory) (isName : isEntryName last = true)
    (free : tree.shape? (here ++ above ++ [last]) = none) :
    tree.writeFrom here (above ++ [last]) content =
      .ok (tree.put (here ++ above ++ [last]) (.file content)) := by
  have leads := leads_names here sound holds fun _ same => by cases same
  have found : tree.writable (linkLimit + 1) here (above ++ [last]) =
      .ok (here ++ above ++ [last]) :=
    writable_succ_eq_ok_iff.mpr ⟨_, above, last, rfl, isName,
      follow_of_leads leads (Nat.zero_le _), holds,
      .inl ⟨rfl, ⟨_, last, rfl, holds, isName⟩, .inl free⟩⟩
  rw [writeFrom, found]

/-! ## The entry that a path names -/

/-- The entry that a path names: the directory that holds it, which is there, and its name.  There
need not be anything under the name. -/
structure NamesEntry (tree : FileTree) (written : String) (holder : Location) (last : String) :
    Prop where
  named : ∃ above, pieces written = above ++ [last] ∧
    ∃ links ≤ linkLimit, tree.Leads links (startOf tree.current written) above holder
  holds : tree.shape? holder = some .directory
  isName : isEntryName last = true

namespace NamesEntry

variable {written : String} {left : FileTree}

theorem notBlank (names : tree.NamesEntry written holder last) : last ≠ "" :=
  ne_blank_of_isEntryName names.isName

theorem isEmpty_eq (names : tree.NamesEntry written holder last) : written.isEmpty = false := by
  cases isEmpty : written.isEmpty with
  | false => rfl
  | true =>
      rcases names.named with ⟨above, parts, -⟩
      rw [String.isEmpty_iff.mp isEmpty] at parts
      have blank : [] ++ [""] = above ++ [last] := parts
      cases (List.append_inj' blank rfl).2
      exact absurd rfl names.notBlank

theorem place_eq (names : tree.NamesEntry written holder last) :
    ∃ entries, tree.place (startOf tree.current written) (pieces written) =
      .ok (some (holder, last, entries)) := by
  rcases names.named with ⟨above, parts, links, few, leads⟩
  rcases shape?_eq_directory_iff.mp names.holds with ⟨entries, found⟩
  refine ⟨entries, ?_⟩
  rw [parts]
  exact place_of_follow names.notBlank (follow_of_leads leads few) found

/-- Replacing the entry puts a file in its place. -/
theorem replace_eq (names : tree.NamesEntry written holder last) (content : ByteArray) :
    tree.replace written content = .ok (tree.put (holder ++ [last]) (.file content)) := by
  rcases names.place_eq with ⟨entries, placed⟩
  rw [replace, placed]

/-- Writing puts a file where there is nothing. -/
theorem write_eq (names : tree.NamesEntry written holder last)
    (free : tree.shape? (holder ++ [last]) = none) (content : ByteArray) :
    tree.write written content = .ok (tree.put (holder ++ [last]) (.file content)) := by
  rcases names.named with ⟨above, parts, links, few, leads⟩
  have found : tree.writable (linkLimit + 1) (startOf tree.current written) (pieces written) =
      .ok (holder ++ [last]) :=
    writable_succ_eq_ok_iff.mpr ⟨holder, above, last, parts, names.isName,
      follow_of_leads leads few, names.holds,
      .inl ⟨rfl, ⟨holder, last, rfl, names.holds, names.isName⟩, .inl free⟩⟩
  rw [write, names.isEmpty_eq, if_neg (by simp), writeFrom, found]

/-- A file that takes the place of the entry is what the path leads to. -/
theorem readBytes_of_overwrites (names : tree.NamesEntry written holder last)
    (overwrites : tree.Overwrites left (holder ++ [last]) content)
    (stops : tree.Stops (holder ++ [last])) : left.readBytes written = .ok content := by
  rcases names.named with ⟨above, parts, links, few, leads⟩
  have behind := overwrites.leads_concat stops leads names.holds names.isName
  rw [← parts, ← overwrites.current] at behind
  exact readBytes_of_leads behind few names.isEmpty_eq overwrites.now

end NamesEntry

/-- What leads to a file is no directory. -/
theorem ne_directory_of_leads (isName : isEntryName last = true)
    (leads : tree.Leads links holder [last] location)
    (found : tree.shape? location = some (.file content)) :
    tree.shape? (holder ++ [last]) ≠ some .directory := by
  intro directory
  rcases leads.enters_or_jumps isName with ⟨shape, -, -, there⟩ | ⟨target, used, link, -, -⟩
  · cases there
    cases directory.symm.trans found
  · cases directory.symm.trans link

/-- A path that leads to a file names an entry, in whose place a file can be put. -/
theorem exists_namesEntry_of_isFile {written : String} (isFile : tree.isFile written = true) :
    ∃ holder last, tree.NamesEntry written holder last ∧ tree.Stops (holder ++ [last]) ∧
      tree.shape? (holder ++ [last]) ≠ some .directory := by
  rcases exists_of_isFile isFile with ⟨location, content, reached, found⟩
  rcases List.eq_nil_or_concat (pieces written) with none | ⟨above, last, parts⟩
  · exact absurd none (pieces_ne_nil written)
  rw [List.concat_eq_append] at parts
  rcases leads_of_follow (follow_of_resolve reached) with ⟨links, few, leads⟩
  rw [parts] at leads
  rcases exists_of_leads_append leads with ⟨holder, used, used', sum, start, further⟩
  have holds := further.shape?_of_cons
  -- What stays or goes up leads to a directory, so the last piece is a name.
  have isName : isEntryName last = true := by
    cases further with
    | stay _ _ rest =>
        cases rest
        cases holds.symm.trans found
    | up _ rest =>
        cases rest
        rcases List.eq_nil_or_concat holder with rfl | ⟨above', name, rfl⟩
        · cases holds.symm.trans found
        · rw [List.concat_eq_append] at holds found
          rw [List.dropLast_concat] at found
          cases (shape?_append_cons holds).symm.trans found
    | enter _ isName _ _ _ => exact isName
    | jump _ isName _ _ _ => exact isName
  exact ⟨holder, last, ⟨⟨above, parts, used, by omega, start⟩, holds, isName⟩,
    stops_of_leads further found, ne_directory_of_leads isName further found⟩

end FileTree
end Files
end Instrument
