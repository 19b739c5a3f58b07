import Instrument.Ignore.Layers
import Instrument.Proofs.Files.Naming

/-!
# Directories without rules

A directory is silent if it holds no rules and no faults are found there.  Where all directories
above an entry are silent, the entry is not excluded.  A directory is silent if there is nothing in
it that rules are read from.
-/

namespace Instrument
namespace Ignore

open Files (FileTree Location Shape)

/-- The layer of a directory without rules and without faults. -/
structure Layer.IsSilent (layer : Layer) : Prop where
  general : layer.general.rules = []
  versioned : layer.versioned.rules = []
  repository : layer.repository.rules = []
  reports : layer.reports = []

/-- Rules that are not there decide nothing. -/
theorem Layer.decide_of_rules {layer : Layer} {file : Layer → RuleFile}
    (none : (file layer).rules = []) (path : Location) (isDirectory : Bool) :
    layer.decide file path isDirectory = .none := by
  rw [Layer.decide, none]

theorem mem_of_mem_withinRepository {layers : List Layer} {layer : Layer}
    (member : layer ∈ withinRepository layers) : layer ∈ layers := by
  rw [withinRepository] at member
  split at member
  next =>
    rcases List.mem_append.mp member with member | member
    · exact (List.takeWhile_sublist _).subset member
    · exact List.mem_of_find?_eq_some (Option.mem_toList.mp member)
  next => cases member

theorem verdict_of_isSilent {layers : List Layer} (silent : ∀ layer ∈ layers, layer.IsSilent)
    (path : Location) (isDirectory : Bool) : verdict layers path isDirectory = none := by
  have general := List.findSome?_eq_none_iff.mpr fun layer member =>
    Layer.decide_of_rules (silent layer member).general path isDirectory
  have versioned := List.findSome?_eq_none_iff.mpr fun layer member =>
    Layer.decide_of_rules (silent layer (mem_of_mem_withinRepository member)).versioned path
      isDirectory
  have repository := List.findSome?_eq_none_iff.mpr fun layer member =>
    Layer.decide_of_rules (silent layer (mem_of_mem_withinRepository member)).repository path
      isDirectory
  rw [verdict, general, versioned, repository]
  rfl

theorem mem_layersAbove_iff {tree : FileTree} {location : Location} {layer : Layer} :
    layer ∈ layersAbove tree location ↔ ∃ above, above <+: location ∧ above ≠ location ∧
      layer = .ofDirectory tree above above := by
  rw [layersAbove, List.map_map, List.mem_map]
  constructor
  · rintro ⟨length, member, rfl⟩
    rw [List.mem_reverse, List.mem_range] at member
    refine ⟨location.take length, List.take_prefix _ _, fun same => ?_, rfl⟩
    have shorter := congrArg List.length same
    rw [List.length_take] at shorter
    omega
  · rintro ⟨above, ⟨rest, rfl⟩, proper, rfl⟩
    refine ⟨above.length, ?_, by simp⟩
    rw [List.mem_reverse, List.mem_range, List.length_append]
    have inside : rest ≠ [] := fun none => proper (by rw [none, List.append_nil])
    have positive := List.length_pos_iff.mpr inside
    omega

/-! ## Nothing to read rules from -/

variable {tree : FileTree} {here : Location}

theorem entryFrom_of_absent {name path : String}
    (absent : tree.shape? (here ++ [name]) = none) (isName : Files.isEntryName name = true)
    (first : (Files.pieces path).head? = some name) (relative : Files.isAbsolute path = false) :
    ∃ obstacle, tree.entryFrom here path = .error obstacle := by
  rcases List.head?_eq_some_iff.mp first with ⟨rest, parts⟩
  rw [FileTree.entryFrom, FileTree.resolveFrom]
  split
  next => exact ⟨_, rfl⟩
  next location reached =>
    exfalso
    split at reached
    next => cases reached
    next =>
      rw [Files.startOf, relative, parts] at reached
      rcases FileTree.leads_of_follow reached with ⟨used, -, leads⟩
      exact FileTree.not_leads_of_free isName absent leads

theorem ruleFile_of_absent {name path : String}
    (absent : tree.shape? (here ++ [name]) = none) (isName : Files.isEntryName name = true)
    (first : (Files.pieces path).head? = some name) (relative : Files.isAbsolute path = false) :
    Layer.ruleFile tree here path = .empty := by
  rcases entryFrom_of_absent absent isName first relative with ⟨obstacle, fails⟩
  rw [Layer.ruleFile, FileTree.readBytesFrom, fails]

/-- A directory in which there is nothing that rules are read from is silent. -/
theorem Layer.isSilent_of_absent (general : tree.shape? (here ++ [".ignore"]) = none)
    (versioned : tree.shape? (here ++ [".gitignore"]) = none)
    (repository : tree.shape? (here ++ [".git"]) = none) (location : Location) :
    (ofDirectory tree here location).IsSilent := by
  have noGeneral : ruleFile tree here ".ignore" = .empty :=
    ruleFile_of_absent general (by decide) (by decide) (by decide)
  have noVersioned : ruleFile tree here ".gitignore" = .empty :=
    ruleFile_of_absent versioned (by decide) (by decide) (by decide)
  have noRepository : ruleFile tree here ".git/info/exclude" = .empty :=
    ruleFile_of_absent repository (by decide) (by decide) (by decide)
  have noEntry : ∃ obstacle, tree.entryFrom here ".git" = .error obstacle :=
    entryFrom_of_absent repository (by decide) (by decide) (by decide)
  rcases noEntry with ⟨obstacle, fails⟩
  have data (shown : String) :
      repositoryData? tree here shown = some (here, ".git", Files.join shown ".git") := by
    rw [repositoryData?, fails]
  have path : Files.join ".git" "info/exclude" = ".git/info/exclude" := by decide
  rw [ofDirectory]
  simp only [data, path, noGeneral, noVersioned, noRepository]
  exact ⟨rfl, rfl, rfl, rfl⟩

/-- Whether a directory holds anything that rules are read from. -/
def holdsRules : Files.Entry → Bool
  | .directory entries =>
    entries.any fun entry => [".ignore", ".gitignore", ".git"].contains entry.1
  | _ => false

/-- In no directory is there anything that rules are read from. -/
def HasNoRules (tree : FileTree) : Prop :=
  ∀ location, ∀ name ∈ [".ignore", ".gitignore", ".git"], tree.shape? (location ++ [name]) = none

theorem HasNoRules.isSilent (noRules : HasNoRules tree) (here location : Location) :
    (Layer.ofDirectory tree here location).IsSilent :=
  Layer.isSilent_of_absent (noRules here _ (by simp)) (noRules here _ (by simp))
    (noRules here _ (by simp)) location

theorem hasNoRules_of_all (passes : tree.root.all (fun entry => !holdsRules entry) = true) :
    HasNoRules tree := by
  intro location name among
  cases found : tree.shape? (location ++ [name]) with
  | none => rfl
  | some shape =>
      rcases FileTree.shape?_eq_directory_iff.mp (FileTree.shape?_append_cons found) with
        ⟨entries, holder⟩
      have test := Files.Entry.test_of_all passes holder
      rcases List.mem_map.mp (FileTree.mem_keys_of_shape? holder found) with ⟨entry, member, rfl⟩
      have holds : holdsRules (.directory entries) = true :=
        List.any_eq_true.mpr ⟨entry, member, List.contains_iff_mem.mpr among⟩
      rw [holds] at test
      cases test

end Ignore
end Instrument
