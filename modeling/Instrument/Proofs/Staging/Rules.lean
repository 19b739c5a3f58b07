import Instrument.Proofs.Files.Silence
import Instrument.Proofs.Staging.Frame
import Mathlib.Data.List.Infix

/-!
# Rules that stay in force

Making the output of a project can change which files of it are taken in: a new directory may mark a
repository, in which further rules apply, and a link to a file with rules may lead through it.
Filling the output can do so as well, since the walk reads the rules of a directory when it comes to
it: a counterpart may be a file with rules, if the output is part of what a repository keeps about
itself, or if a link or a file in place of these data leads there.

Where there are no such links and files, rules are read from a few places in a directory, and it is
enough to look at what stands there.
-/

namespace Instrument

open Files (Entry FileTree Location Shape pieces names isEntryName)

namespace Files.FileTree

variable {tree : FileTree} {here : Location} {path : String}

/-- Where there are no links, a path of names leads to what stands below them. -/
theorem toOption_entryFrom
    (noLinks : ∀ above, above <+: pieces path → ∀ target,
      tree.shape? (here ++ above) ≠ some (.link target))
    (isNames : ∀ name ∈ pieces path, isEntryName name = true)
    (relative : isAbsolute path = false) (present : path.isEmpty = false) :
    (tree.entryFrom here path).toOption = tree.at? (here ++ pieces path) := by
  rw [entryFrom, resolveFrom, present, if_neg (by simp), startOf, relative, if_neg (by simp)]
  cases reached : tree.follow linkLimit here (pieces path) with
  | ok location =>
      rcases leads_of_follow reached with ⟨used, -, leads⟩
      cases leads.eq_append noLinks isNames
      dsimp only
      cases tree.at? (here ++ pieces path) <;> rfl
  | error obstacle =>
      cases found : tree.at? (here ++ pieces path) with
      | none => rfl
      | some entry =>
          have there := shape?_of_at? found
          have leads := leads_of_isEntryName here isNames there fun target same =>
            noLinks _ List.prefix_rfl target (there.trans (congrArg some same))
          cases reached.symm.trans (follow_of_leads leads (Nat.zero_le _))

/-- A name that no directory has an entry for. -/
theorem shape?_of_all_child? {name : String}
    (passes : tree.root.all (fun entry => (entry.child? name).isNone) = true) (here : Location) :
    tree.shape? (here ++ [name]) = none := by
  rw [shape?, at?, Entry.at?_append]
  cases found : tree.root.at? here with
  | none => rfl
  | some entry =>
      have absent := Entry.test_of_all passes found
      rw [Option.isNone_iff_eq_none] at absent
      rw [Option.bind_some, Entry.at?, absent]
      rfl

/-- Two trees are the same apart from what is below a directory. -/
structure SameOutside (tree other : FileTree) (out : Location) : Prop where
  current : other.current = tree.current
  elsewhere : ∀ location, (∀ path, path ≠ [] → location ≠ out ++ path) →
    other.shape? location = tree.shape? location

/-- What is below a directory that is not in the output stands outside of it, unless the output is on
the way. -/
theorem SameOutside.shape?_eq {other : FileTree} {out : Location} {path : List String}
    (same : tree.SameOutside other out) (outside : ¬ out <+: here)
    (apart : ∀ above, above <+: path → above ≠ path → out ≠ here ++ above) :
    other.shape? (here ++ path) = tree.shape? (here ++ path) := by
  refine same.elsewhere _ fun below inside there => ?_
  rcases List.append_eq_append_iff.mp there with ⟨above, rfl, split⟩ | ⟨above, holds, -⟩
  · refine apart above ⟨below, split.symm⟩ (fun whole => inside ?_) rfl
    rw [whole] at split
    exact List.append_right_eq_self.mp split.symm
  · exact outside ⟨above, holds.symm⟩

end Files.FileTree

namespace Ignore

/-- The rules in what stands at a place. -/
def rulesIn : Option Shape → RuleFile
  | some (.file content) => .ofBytes content
  | _ => .empty

/-- The places in a directory that rules are read from, with what stands on the way. -/
def rulePlaces : List (List String) :=
  [[], [".ignore"], [".gitignore"], [".git"], [".git", "info"], [".git", "info", "exclude"], [".jj"]]

/-- Nothing leads over a detour to the rules of a directory: there are no links on the way, and no
file in the place of the data of a repository, which would tell where these are. -/
structure IsDirectAt (tree : FileTree) (here : Location) : Prop where
  noLinks : ∀ path ∈ rulePlaces, ∀ target, tree.shape? (here ++ path) ≠ some (.link target)
  noPointer : ∀ content, tree.shape? (here ++ [".git"]) ≠ some (.file content)

/-- Whether a path leads by names only, over places that rules are read from. -/
def isRulePath (path : String) : Bool :=
  (pieces path).inits.all rulePlaces.contains && (pieces path).all isEntryName &&
    !Files.isAbsolute path && !path.isEmpty

namespace IsDirectAt

variable {tree other : FileTree} {here : Location} {path : String}

theorem toOption_entryFrom (direct : IsDirectAt tree here) (isRule : isRulePath path = true) :
    (tree.entryFrom here path).toOption = tree.at? (here ++ pieces path) := by
  simp only [isRulePath, Bool.and_eq_true, List.all_eq_true, Bool.not_eq_true', List.mem_inits,
    List.contains_iff_mem] at isRule
  rcases isRule with ⟨⟨⟨places, isNames⟩, relative⟩, present⟩
  exact FileTree.toOption_entryFrom (fun above within => direct.noLinks above (places above within))
    isNames relative present

/-- Rules are read from the file that stands below the names of its path, if one does. -/
theorem ruleFile_eq (direct : IsDirectAt tree here) (isRule : isRulePath path = true) :
    Layer.ruleFile tree here path = rulesIn (tree.shape? (here ++ pieces path)) := by
  rw [Layer.ruleFile, FileTree.readBytesFrom, FileTree.shape?, ← direct.toOption_entryFrom isRule]
  cases tree.entryFrom here path with
  | error obstacle => rfl
  | ok entry => cases entry <;> rfl

/-- The data of a repository are in the directory itself. -/
theorem repositoryData?_eq (direct : IsDirectAt tree here) (shown : String) :
    Layer.repositoryData? tree here shown = some (here, ".git", Files.join shown ".git") := by
  have same : (tree.entryFrom here ".git").toOption = tree.at? (here ++ [".git"]) :=
    direct.toOption_entryFrom (by decide)
  have noPointer (content : ByteArray) : tree.at? (here ++ [".git"]) ≠ some (.file content) :=
    fun found => direct.noPointer content (FileTree.shape?_of_at? found)
  rw [Layer.repositoryData?]
  split
  next content found =>
    rw [found] at same
    exact absurd same.symm (noPointer content)
  next => rfl

theorem isSome_entryFrom (direct : IsDirectAt tree here) (isRule : isRulePath path = true) :
    (tree.entryFrom here path).toOption.isSome = (tree.shape? (here ++ pieces path)).isSome := by
  rw [direct.toOption_entryFrom isRule, FileTree.shape?, Option.isSome_map]

/-- A directory has the same rules in two trees, if the same is at the places they are read from. -/
theorem ofDirectory_eq (direct : IsDirectAt tree here) (direct' : IsDirectAt other here)
    (sameRules : ∀ path ∈ rulePlaces,
      rulesIn (other.shape? (here ++ path)) = rulesIn (tree.shape? (here ++ path)))
    (samePresence : ∀ name ∈ [".git", ".jj"],
      (other.shape? (here ++ [name])).isSome = (tree.shape? (here ++ [name])).isSome)
    (location : Location) :
    Layer.ofDirectory other here location = .ofDirectory tree here location := by
  have sameFile (path : String) (isRule : isRulePath path = true)
      (among : pieces path ∈ rulePlaces) :
      Layer.ruleFile other here path = Layer.ruleFile tree here path := by
    rw [direct.ruleFile_eq isRule, direct'.ruleFile_eq isRule, sameRules _ among]
  have sameTest (name : String) (isRule : isRulePath name = true) (parts : pieces name = [name])
      (among : name ∈ [".git", ".jj"]) :
      (other.entryFrom here name).toOption.isSome = (tree.entryFrom here name).toOption.isSome := by
    rw [direct.isSome_entryFrom isRule, direct'.isSome_entryFrom isRule, parts,
      samePresence name among]
  rw [Layer.ofDirectory, Layer.ofDirectory, direct.repositoryData?_eq, direct'.repositoryData?_eq]
  dsimp only
  rw [sameFile ".ignore" (by decide) (by decide), sameFile ".gitignore" (by decide) (by decide),
    sameFile (Files.join ".git" "info/exclude") (by decide) (by decide),
    sameTest ".git" (by decide) (by decide) (by decide),
    sameTest ".jj" (by decide) (by decide) (by decide)]

end IsDirectAt
end Ignore

namespace Project

open Ignore (IsDirectAt rulePlaces)

variable {tree made : FileTree} {location out : Location}

/-! ## Making the output -/

/-- Two trees have the same rules in every directory of a project and above it. -/
def KeepsRules (tree made : FileTree) (location : Location) : Prop :=
  ∀ directory, directory <+: location ∨ location <+: directory →
    Ignore.Layer.ofDirectory made directory directory = .ofDirectory tree directory directory

theorem KeepsRules.layersAbove_eq (keeps : KeepsRules tree made location) (path : List String) :
    Ignore.layersAbove made (location ++ path) = Ignore.layersAbove tree (location ++ path) := by
  rw [Ignore.layersAbove, Ignore.layersAbove]
  refine List.map_congr_left fun directory member => keeps directory ?_
  rcases List.mem_map.mp member with ⟨length, -, rfl⟩
  exact List.prefix_or_prefix_of_prefix (List.take_prefix _ _) (List.prefix_append location path)

/-- Making an output changes no rules, unless its path has a name that marks a repository. -/
theorem keepsRules_of_makeDirectories (direct : ∀ directory, IsDirectAt tree directory)
    {written : String} (notGit : ".git" ∉ names written) (notJujutsu : ".jj" ∉ names written)
    (location : Location) : KeepsRules tree (tree.makeDirectories written).2 location := by
  intro directory _
  have grows : tree.GrowsTo (tree.makeDirectories written).2 :=
    FileTree.growsTo_makeDirectories tree _
  -- Only directories are new, and these are neither links nor rules.
  have direct' : IsDirectAt (tree.makeDirectories written).2 directory := by
    refine ⟨fun path among target found => ?_, fun content found => ?_⟩
    · rcases grows.adds _ _ found with found | same
      · exact (direct directory).noLinks path among target found
      · cases same
    · rcases grows.adds _ _ found with found | same
      · exact (direct directory).noPointer content found
      · cases same
  refine (direct directory).ofDirectory_eq direct' (fun path _ => ?_) (fun name among => ?_) _
  · cases found : tree.shape? (directory ++ path) with
    | some shape => rw [grows.keeps _ _ found]
    | none =>
        cases found' : (tree.makeDirectories written).2.shape? (directory ++ path) with
        | none => rfl
        | some shape =>
            rcases grows.adds _ _ found' with before | rfl
            · cases found.symm.trans before
            · rfl
  · have same : (tree.makeDirectories written).2.shape? (directory ++ [name]) =
        tree.shape? (directory ++ [name]) := by
      by_contra changed
      rcases FileTree.isOnWay_of_makeAll (Files.FileTree.isPlain_names written) rfl changed with
        ⟨above, last, holder, within, same, -⟩
      cases (List.append_inj' same rfl).2
      have isNew : name ∈ names written := within.subset (by simp)
      rcases List.mem_pair.mp among with rfl | rfl
      · exact notGit isNew
      · exact notJujutsu isNew
    rw [same]

/-! ## Filling the output -/

/-- The rules in a project do not depend on what is below the output. -/
def RulesApart (made : FileTree) (location out : Location) : Prop :=
  ∀ filled, made.SameOutside filled out → ∀ directory, location <+: directory →
    ¬ out <+: directory →
      Ignore.Layer.ofDirectory filled directory directory = .ofDirectory made directory directory

/-- Staging changes nothing outside of an output without links. -/
theorem Traces.sameOutside {walk : Walk} {root : Location} {steps : List Walk.Step}
    (traces : Traces walk made root out tree steps) (free : made.IsLinkFree out) :
    made.SameOutside tree out := by
  refine ⟨traces.current, fun location away => ?_⟩
  by_contra changed
  rcases traces.exists_step_of_isLinkFree free changed with ⟨step, -, inside, same⟩
  exact away _ inside same

/-- The rules of directories without detours are not in the output, unless that is part of the data of
a repository. -/
theorem rulesApart_of_isDirectAt (direct : ∀ path, IsDirectAt made (location ++ path))
    (notData : location <+: out → ¬ [".git"] <:+ out ∧ ¬ [".git", "info"] <:+ out) :
    RulesApart made location out := by
  rintro filled same directory ⟨path, rfl⟩ outside
  have sameShape (below : List String) (among : below ∈ rulePlaces) :
      filled.shape? (location ++ path ++ below) = made.shape? (location ++ path ++ below) := by
    refine same.shape?_eq outside fun above within proper here => ?_
    have onWay : ∀ below ∈ rulePlaces, ∀ above ∈ below.inits, above ≠ below →
        above ∈ [[], [".git"], [".git", "info"]] := by decide
    have among := onWay below among above ((List.mem_inits _ _).mpr within) proper
    simp only [List.mem_cons, List.not_mem_nil, or_false] at among
    rcases among with rfl | rfl | rfl
    · rw [List.append_nil] at here
      exact outside (here ▸ List.prefix_rfl)
    · exact (notData ⟨_, (here.trans (List.append_assoc _ _ _)).symm⟩).1 ⟨_, here.symm⟩
    · exact (notData ⟨_, (here.trans (List.append_assoc _ _ _)).symm⟩).2 ⟨_, here.symm⟩
  have direct' : IsDirectAt filled (location ++ path) := by
    refine ⟨fun below among target found => ?_, fun content found => ?_⟩
    · exact (direct path).noLinks below among target ((sameShape below among).symm.trans found)
    · exact (direct path).noPointer content ((sameShape [".git"] (by decide)).symm.trans found)
  refine (direct path).ofDirectory_eq direct' (fun below among => ?_) (fun name among => ?_) _
  · rw [sameShape below among]
  · rw [sameShape [name] (by rcases List.mem_pair.mp among with rfl | rfl <;> decide)]

end Project
end Instrument
