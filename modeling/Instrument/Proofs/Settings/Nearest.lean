import Instrument.Project.Settings
import Instrument.Proofs.Files.Making
import Instrument.Proofs.Files.Writing
import Instrument.Proofs.Parsing

/-!
# The manifest that counts

The settings for a file are looked for on the way from its directory to the root of all files, and
the first manifest on this way decides.  What counts as a manifest is a file by that name, perhaps
behind links; a directory of that name is passed over, and so is a link that leads to one or to
nothing.

The settings are then a function of two things only: where the nearest manifest is, and what it
holds.  Two trees of files that agree on these two give the same settings, errors and reports, and
whatever stands in manifests further up has no influence.  This is so for a manifest that cannot be
read, and for one that does not mention the setting: neither makes the search go on.
-/

namespace Instrument
namespace Files

/-! ## The path of an entry of a directory -/

theorem relativeText_concat {path : List String} (inside : path ≠ []) (name : String) :
    relativeText (path ++ [name]) = relativeText path ++ "/" ++ name := by
  induction path with
  | nil => exact absurd rfl inside
  | cons first rest inductionHypothesis =>
      cases rest with
      | nil => simp [relativeText, String.intercalate_cons_cons]
      | cons next rest =>
          have further := inductionHypothesis (List.cons_ne_nil _ _)
          simp only [relativeText, List.cons_append] at further ⊢
          rw [String.intercalate_cons_cons, further, String.intercalate_cons_cons]
          simp only [String.append_assoc]

/-- The path of a place below the root ends in the last name on the way. -/
theorem getLast?_relativeText {path : List String} {name : String} (notBlank : name ≠ "") :
    (relativeText (path ++ [name])).toList.getLast? = name.toList.getLast? := by
  have characters : name.toList ≠ [] := by simpa using notBlank
  cases path with
  | nil => simp [relativeText]
  | cons first rest =>
      rw [relativeText_concat (List.cons_ne_nil _ _), String.toList_append, List.getLast?_append,
        List.getLast?_eq_some_getLast characters, Option.some_or]

/-- The path of an entry of a directory is its location, written as a path. -/
theorem join_absoluteText {directory : Location} (named : ∀ name ∈ directory, IsName name)
    {name : String} (relative : isAbsolute name = false) :
    join (absoluteText directory) name = absoluteText (directory ++ [name]) := by
  have notEmpty : (absoluteText directory).isEmpty = false := by simp [absoluteText]
  rw [join, relative, notEmpty, Bool.or_false, if_neg Bool.false_ne_true]
  rcases List.eq_nil_or_concat directory with rfl | ⟨above, last, rfl⟩
  · simp [absoluteText, relativeText]
  · rw [List.concat_eq_append] at named ⊢
    have isName := named last (by simp)
    have notBlank : last ≠ "" := by
      rintro rfl
      exact absurd isName.1 (by decide)
    -- The last name holds no slash, so the path of the directory does not end in one.
    have noSlash : ¬ ((absoluteText (above ++ [last])).toList.getLast? == some '/') = true := by
      rw [absoluteText, String.toList_append, List.getLast?_append, getLast?_relativeText notBlank]
      cases ends : last.toList.getLast? with
      | none => simp [List.getLast?_eq_none_iff, notBlank] at ends
      | some character =>
          have member := List.mem_of_getLast? ends
          have different : character ≠ '/' := by
            rintro rfl
            exact isName.2 member
          simpa using different
    rw [if_neg noSlash]
    simp only [absoluteText, relativeText_concat (List.append_ne_nil_of_right_ne_nil above
      (List.cons_ne_nil last [])), String.append_assoc]

/-! ## Reading what a path leads to -/

namespace FileTree

variable {tree : FileTree} {path : String}

theorem readBytes_eq_ok_iff {content : ByteArray} :
    tree.readBytes path = .ok content ↔ tree.entry path = .ok (.file content) := by
  rw [readBytes, readBytesFrom, entry]
  cases tree.entryFrom tree.current path with
  | error obstacle => simp
  | ok held => cases held <;> simp [FileTree.content]

theorem isFile_iff : tree.isFile path = true ↔ ∃ content, tree.entry path = .ok (.file content) := by
  rw [isFile]
  cases tree.entry path with
  | error obstacle => simp [Except.toOption]
  | ok held => cases held <;> simp [Except.toOption, Entry.isFile]

end FileTree
end Files

namespace Config

open Files (FileTree Location)

/-! ## Manifests by their places -/

/-- The name of the manifest leads from the directory to a file that holds the content. -/
def IsManifest (tree : FileTree) (directory : Location) (content : ByteArray) : Prop :=
  ∃ links ≤ FileTree.linkLimit, ∃ place, tree.Leads links directory [manifestName] place ∧
    tree.shape? place = some (.file content)

def HasManifest (tree : FileTree) (directory : Location) : Prop :=
  ∃ content, IsManifest tree directory content

/-- Of a directory and those above it, the first one that has a manifest. -/
structure IsNearest (tree : FileTree) (start nearest : Location) : Prop where
  above : nearest <+: start
  hasManifest : HasManifest tree nearest
  first : ∀ between, nearest <+: between → between <+: start → HasManifest tree between →
    between = nearest

/-- The settings in the content of the manifest of a directory. -/
def ofContent (directory : Location) (content : ByteArray) : Logged Config :=
  let path := Files.join (Files.absoluteText directory) manifestName
  match FileTree.decode content with
  | .ok text => ofText path text
  | .error obstacle => ⟨[], .error (.unreadable path obstacle)⟩

section Places

variable {tree : FileTree} {directory : Location}

/-- Where there is a directory, there is one at the root. -/
theorem shape?_root (holds : tree.shape? directory = some .directory) :
    tree.shape? [] = some .directory := by
  cases directory with
  | nil => exact holds
  | cons name rest => exact FileTree.shape?_append_cons holds

/-- The path of the manifest of a directory is followed to the directory first. -/
theorem leads_manifestPath (sound : tree.IsSound)
    (holds : tree.shape? directory = some .directory) :
    let path := Files.join (Files.absoluteText directory) manifestName
    path.isEmpty = false ∧ Files.startOf tree.current path = [] ∧
      ∃ front, Files.pieces path = front ++ [manifestName] ∧ tree.Leads 0 [] front directory := by
  intro path
  have named : ∀ name ∈ directory, Files.IsName name := by
    intro name member
    rcases List.append_of_mem member with ⟨before, behind, same⟩
    rw [same] at holds
    exact FileTree.isName_of_shape? sound holds
  have written : path = Files.absoluteText (directory ++ [manifestName]) :=
    Files.join_absoluteText named (by decide)
  have plain : ∀ name ∈ directory ++ [manifestName], '/' ∉ name.toList := by
    intro name member
    rcases List.mem_append.mp member with member | member
    · exact (named name member).2
    · rw [List.mem_singleton.mp member]
      decide
  refine ⟨by simp [written, Files.absoluteText], ?_, "" :: directory, ?_, ?_⟩
  · rw [Files.startOf, written, Files.isAbsolute_absoluteText, if_pos rfl]
  · rw [written, Files.pieces_absoluteText, Files.pieces_relativeText (by simp) plain]
    rfl
  · refine .stay (shape?_root holds) (.inl rfl) ?_
    exact FileTree.leads_names [] sound holds fun target same => by cases same

/-- The manifest of a directory is what is read at its path. -/
theorem isManifest_iff (sound : tree.IsSound) (holds : tree.shape? directory = some .directory)
    {content : ByteArray} :
    IsManifest tree directory content ↔
      tree.readBytes (Files.join (Files.absoluteText directory) manifestName) = .ok content := by
  rcases leads_manifestPath sound holds with ⟨notEmpty, start, front, parts, before⟩
  constructor
  · rintro ⟨links, few, place, leads, found⟩
    have whole := before.append leads
    rw [← parts, ← start, Nat.zero_add] at whole
    exact FileTree.readBytes_of_leads whole few notEmpty found
  · intro read
    rcases FileTree.entry_eq_ok_iff.mp (FileTree.readBytes_eq_ok_iff.mp read) with
      ⟨place, reached, there⟩
    rcases FileTree.leads_of_follow (FileTree.follow_of_resolve reached) with ⟨links, few, leads⟩
    rw [start, parts] at leads
    rcases FileTree.exists_of_leads_append leads with ⟨between, used, rest, sum, first, behind⟩
    rw [first.unique before] at behind
    exact ⟨rest, by omega, place, behind, FileTree.shape?_of_at? there⟩

/-- A directory has a manifest if the path of its manifest leads to a file. -/
theorem hasManifest_iff (sound : tree.IsSound)
    (holds : tree.shape? directory = some .directory) :
    hasManifest tree directory = true ↔ HasManifest tree directory := by
  rw [hasManifest, FileTree.isFile_iff]
  exact exists_congr fun content =>
    FileTree.readBytes_eq_ok_iff.symm.trans (isManifest_iff sound holds).symm

/-- The settings of a directory with a manifest are those in its content. -/
theorem load_of_isManifest (sound : tree.IsSound) {content : ByteArray}
    (manifest : IsManifest tree directory content) :
    load tree (Files.absoluteText directory) = ofContent directory content := by
  have holds : tree.shape? directory = some .directory := by
    rcases manifest with ⟨_, _, _, leads, _⟩
    exact leads.shape?_of_cons
  rw [load, ofContent, FileTree.readText, (isManifest_iff sound holds).mp manifest]
  dsimp only
  cases decoded : FileTree.decode content with
  | ok text => rfl
  | error obstacle =>
      rw [FileTree.decode] at decoded
      split at decoded
      next => cases decoded
      next => cases decoded; rfl

end Places

/-! ## The search -/

section Search

variable {tree : FileTree} {start nearest : Location}

theorem IsNearest.unique {other : Location} (isNearest : IsNearest tree start nearest)
    (isNearest' : IsNearest tree start other) : nearest = other := by
  rcases List.prefix_or_prefix_of_prefix isNearest.above isNearest'.above with within | within
  · exact (isNearest.first other within isNearest'.above isNearest'.hasManifest).symm
  · exact isNearest'.first nearest within isNearest.above isNearest.hasManifest

/-- The search from a directory goes upwards and stops at the first manifest. -/
theorem nearest?_cases (sound : tree.IsSound) (above : List String)
    (holds : tree.shape? above.reverse = some .directory) :
    (nearest? tree above = none ∧ ∀ place, place <+: above.reverse → ¬ HasManifest tree place) ∨
      ∃ nearest, nearest? tree above = some nearest ∧
        IsNearest tree above.reverse nearest := by
  have here := hasManifest_iff sound holds
  induction above with
  | nil =>
      rw [nearest?]
      split
      next present =>
          refine .inr ⟨[], rfl, List.prefix_rfl, here.mp present, fun between _ below _ => ?_⟩
          exact List.prefix_nil.mp below
      next missing =>
          refine .inl ⟨rfl, fun place below manifest => missing (here.mpr ?_)⟩
          rw [List.prefix_nil.mp below] at manifest
          exact manifest
  | cons name above inductionHypothesis =>
      rw [nearest?]
      split
      next present =>
          refine .inr ⟨_, rfl, List.prefix_rfl, here.mp present, fun between within below _ => ?_⟩
          exact below.eq_of_length_le within.length_le
      next missing =>
          -- Nothing is here, so whatever is found stands further up.
          rw [List.reverse_cons] at holds here missing ⊢
          have holdsAbove := FileTree.shape?_append_cons holds
          have upwards : ∀ place, place <+: above.reverse ++ [name] → HasManifest tree place →
              place <+: above.reverse := by
            intro place below manifest
            rcases List.prefix_concat_iff.mp below with same | below
            · exact absurd (here.mpr (same ▸ manifest)) missing
            · exact below
          rcases inductionHypothesis holdsAbove (hasManifest_iff sound holdsAbove) with
            ⟨none, absent⟩ | ⟨nearest, found, isNearest⟩
          · refine .inl ⟨none, fun place below manifest => ?_⟩
            exact absent place (upwards place below manifest) manifest
          · refine .inr ⟨nearest, found, ?_, isNearest.hasManifest, ?_⟩
            · exact isNearest.above.trans (List.prefix_append _ _)
            · intro between within below manifest
              exact isNearest.first between within (upwards between below manifest) manifest

theorem isNearest_of_nearest? (above : List String) (sound : tree.IsSound)
    (holds : tree.shape? above.reverse = some .directory)
    (found : nearest? tree above = some nearest) : IsNearest tree above.reverse nearest := by
  rcases nearest?_cases sound above holds with ⟨none, _⟩ | ⟨other, found', isNearest⟩
  · cases none.symm.trans found
  · cases found'.symm.trans found
    exact isNearest

end Search

/-! ## Where the search starts -/

section Start

variable {tree : FileTree} {location : Location}

/-- Where a path leads is never a link, if it does not start at one. -/
theorem not_link_of_leads {links : Nat} {here : Location} {path : List String}
    (leads : tree.Leads links here path location)
    (starts : ∀ target, tree.shape? here ≠ some (.link target)) :
    ∀ target, tree.shape? location ≠ some (.link target) := by
  have noLink {place : Location} (holds : tree.shape? place = some .directory) :
      ∀ target, tree.shape? place ≠ some (.link target) := by simp [holds]
  induction leads with
  | done here => exact starts
  | stay _ _ _ inductionHypothesis => exact inductionHypothesis starts
  | @up _ here _ _ holds _ inductionHypothesis =>
      refine inductionHypothesis (noLink ?_)
      rcases List.eq_nil_or_concat here with rfl | ⟨above, name, rfl⟩
      · exact holds
      · rw [List.concat_eq_append] at holds ⊢
        rw [List.dropLast_concat]
        exact FileTree.shape?_append_cons holds
  | enter _ _ found noLink _ inductionHypothesis =>
      refine inductionHypothesis fun target same => ?_
      exact noLink target (Option.some.inj (found.symm.trans same))
  | @jump _ here _ _ target _ holds _ _ _ _ inductionHypothesis =>
      refine inductionHypothesis (noLink ?_)
      rw [Files.startOf]
      split
      next => exact shape?_root holds
      next => exact holds

/-- The directory that the search starts in is one. -/
theorem shape?_directoryOf (sound : tree.IsSound) {path : String}
    (resolved : tree.resolve path = .ok location) :
    tree.shape? (directoryOf tree location) = some .directory := by
  rcases FileTree.leads_of_follow (FileTree.follow_of_resolve resolved) with ⟨links, few, leads⟩
  have starts := FileTree.shape?_startOf sound path
  rcases leads.exists_shape? starts with ⟨shape, found⟩
  have noLink := not_link_of_leads leads (by simp [starts])
  rcases Option.map_eq_some_iff.mp found with ⟨entry, there, same⟩
  cases entry with
  | link target =>
      cases same
      exact absurd found (noLink target)
  | directory entries =>
      cases same
      rw [directoryOf, there]
      exact found
  | file content =>
      cases same
      rw [directoryOf, there]
      rcases List.eq_nil_or_concat location with rfl | ⟨above, name, rfl⟩
      · rw [List.dropLast_nil]
        cases (shape?_root sound.current).symm.trans found
      · rw [List.concat_eq_append] at found ⊢
        rw [List.dropLast_concat]
        exact FileTree.shape?_append_cons found

/-- A file holds nothing, so the search loses no manifest by starting where the file is. -/
theorem prefix_directoryOf {place : Location} (within : place <+: location)
    (manifest : HasManifest tree place) : place <+: directoryOf tree location := by
  rw [directoryOf]
  split
  next content there =>
      have isFile : tree.shape? location = some (.file content) := FileTree.shape?_of_at? there
      rcases List.eq_nil_or_concat location with rfl | ⟨above, name, rfl⟩
      · exact within
      · rw [List.concat_eq_append] at within isFile ⊢
        rw [List.dropLast_concat]
        rcases List.prefix_concat_iff.mp within with rfl | within
        · rcases manifest with ⟨_, _, _, _, leads, _⟩
          cases isFile.symm.trans leads.shape?_of_cons
        · exact within
  next => exact within

theorem directoryOf_isAncestor (tree : FileTree) (location : Location) :
    directoryOf tree location <+: location := by
  rw [directoryOf]
  split
  next => exact List.dropLast_prefix location
  next => exact List.prefix_rfl

/-- What the search finds decides what the settings are. -/
theorem discover_of_isNearest (sound : tree.IsSound) {path : String} {nearest : Location}
    (resolved : tree.resolve path = .ok location)
    (isNearest : IsNearest tree (directoryOf tree location) nearest) :
    discover tree path = load tree (Files.absoluteText nearest) := by
  have holds := shape?_directoryOf sound resolved
  rw [← List.reverse_reverse (directoryOf tree location)] at isNearest holds
  rw [discover, resolved]
  dsimp only
  rcases nearest?_cases sound _ holds with ⟨_, absent⟩ | ⟨found, search, isFound⟩
  · exact absurd isNearest.hasManifest (absent nearest isNearest.above)
  · rw [search, isFound.unique isNearest]

end Start

/-! ## One manifest decides -/

/-- Two trees have the same manifests on the way from where a path leads up to a directory: the
same directories have one, and that of the last directory holds the same. -/
structure AgreeUpTo (nearest location : Location) (tree other : FileTree) : Prop where
  hasManifest_iff : ∀ between, nearest <+: between →
    between <+: directoryOf tree location ∨ between <+: directoryOf other location →
      (HasManifest tree between ↔ HasManifest other between)
  isManifest_iff : ∀ content, IsManifest tree nearest content ↔ IsManifest other nearest content

/-- The nearest manifest is the nearest in every tree that agrees up to it. -/
theorem IsNearest.of_agreeUpTo {tree other : FileTree} {location nearest : Location}
    (isNearest : IsNearest tree (directoryOf tree location) nearest)
    (agree : AgreeUpTo nearest location tree other) :
    IsNearest other (directoryOf other location) nearest := by
  have onTheWay := isNearest.above.trans (directoryOf_isAncestor tree location)
  have manifest : HasManifest other nearest :=
    (agree.hasManifest_iff nearest List.prefix_rfl (.inl isNearest.above)).mp isNearest.hasManifest
  refine ⟨prefix_directoryOf onTheWay manifest, manifest, fun between within below held => ?_⟩
  have held := (agree.hasManifest_iff between within (.inr below)).mpr held
  have onTheWay := below.trans (directoryOf_isAncestor other location)
  exact isNearest.first between within (prefix_directoryOf onTheWay held) held

/-- A text is a manifest that does not say whether to keep markers. -/
def LeavesOpen (text : String) : Prop :=
  ∃ manifest, Toml.read text = .ok manifest ∧
    ∀ settings, settings? manifest = some settings → settings.get? keepMarkerKey = none

theorem config_of_leavesOpen {text : String} (leavesOpen : LeavesOpen text) :
    (ofManifest text).config = .ok default := by
  rcases leavesOpen with ⟨manifest, read, unset⟩
  rw [ofManifest, read]
  dsimp only
  cases settings : settings? manifest with
  | none => rfl
  | some table =>
      dsimp only
      rw [ofSettings, unset table settings]

/-- The settings for what a path leads to are those of the nearest manifest, and the default if
there is none.  An error in this manifest is the result, and a manifest that leaves the setting open
gives the default.  Nothing else has an influence: another tree in which the path leads to the same
place gives the same settings, if both have the same manifests on the way up to the nearest one. -/
theorem discover_nearest {tree : FileTree} (sound : tree.IsSound) {path : String}
    {location : Location} (resolved : tree.resolve path = .ok location) :
    let start := directoryOf tree location
    ((∀ place, place <+: start → ¬ HasManifest tree place) →
        discover tree path = ⟨[], .ok default⟩) ∧
      ∀ nearest, IsNearest tree start nearest →
        discover tree path = load tree (Files.absoluteText nearest) ∧
        (∀ content text, IsManifest tree nearest content → FileTree.decode content = .ok text →
          LeavesOpen text → (discover tree path).result = .ok default) ∧
        ∀ other : FileTree, other.IsSound → other.resolve path = .ok location →
          AgreeUpTo nearest location tree other → discover other path = discover tree path := by
  intro start
  constructor
  · intro absent
    have holds := shape?_directoryOf sound resolved
    rw [← List.reverse_reverse (directoryOf tree location)] at holds
    rw [discover, resolved]
    dsimp only
    rcases nearest?_cases sound _ holds with ⟨none, _⟩ | ⟨nearest, _, isNearest⟩
    · rw [none]
    · rw [List.reverse_reverse] at isNearest
      exact absurd isNearest.hasManifest (absent nearest isNearest.above)
  · intro nearest isNearest
    have found := discover_of_isNearest sound resolved isNearest
    refine ⟨found, ?_, ?_⟩
    · intro content text manifest decoded leavesOpen
      rw [found, load_of_isManifest sound manifest, ofContent, decoded]
      simp only [ofText, config_of_leavesOpen leavesOpen]
    · intro other otherSound otherResolved agree
      obtain ⟨content, manifest⟩ := isNearest.hasManifest
      have otherManifest := (agree.isManifest_iff content).mp manifest
      have otherFound :=
        discover_of_isNearest otherSound otherResolved (isNearest.of_agreeUpTo agree)
      rw [found, otherFound, load_of_isManifest sound manifest,
        load_of_isManifest otherSound otherManifest]

/-- A tree with a program behind a link.  Next to the program is a directory with the name of a
manifest, one level up a link to a manifest that leaves the setting open, and at the root a manifest
with the given text. -/
def linkedProgram (outermost : String) : FileTree :=
  ⟨.directory
    [("Cargo.toml", .file outermost.toUTF8),
      ("shared.toml", .file "[package]\nname = \"demo\"\n".toUTF8),
      ("entry.rs", .link "app/src/main.rs"),
      ("app", .directory
        [("Cargo.toml", .link "../shared.toml"),
          ("src", .directory
            [("Cargo.toml", .directory []), ("main.rs", .file "fn main() \x7b\x7d\n".toUTF8)])])],
    []⟩

/-- The manifest behind the link decides, whether the one at the root asks to keep markers or is no
manifest at all. -/
theorem discover_nearest_linked :
    let keeps := linkedProgram "[package.metadata.method-logger]\nkeep-marker = true\n"
    let broken := linkedProgram "[package"
    keeps.resolve "entry.rs" = .ok ["app", "src", "main.rs"] ∧
      IsNearest keeps ["app", "src"] ["app"] ∧
      discover keeps "entry.rs" = load keeps "/app" ∧
      (discover keeps "entry.rs").result = .ok default ∧
      discover broken "entry.rs" = discover keeps "entry.rs" := by
  intro keeps broken
  have sound : keeps.IsSound := ⟨Files.Entry.isSound_of_all (by decide +kernel), rfl⟩
  have sound' : broken.IsSound := ⟨Files.Entry.isSound_of_all (by decide +kernel), rfl⟩
  have resolved : keeps.resolve "entry.rs" = .ok ["app", "src", "main.rs"] := by decide +kernel
  have resolved' : broken.resolve "entry.rs" = .ok ["app", "src", "main.rs"] := by decide +kernel
  have inApp : keeps.shape? ["app"] = some .directory := rfl
  have inApp' : broken.shape? ["app"] = some .directory := rfl
  have text : FileTree.decode "[package]\nname = \"demo\"\n".toUTF8 =
      .ok "[package]\nname = \"demo\"\n" := by decide +kernel
  have manifest : IsManifest keeps ["app"] "[package]\nname = \"demo\"\n".toUTF8 :=
    (isManifest_iff sound inApp).mpr rfl
  have manifest' : IsManifest broken ["app"] "[package]\nname = \"demo\"\n".toUTF8 :=
    (isManifest_iff sound' inApp').mpr rfl
  have nearest : IsNearest keeps ["app", "src"] ["app"] :=
    isNearest_of_nearest? ["src", "app"] sound rfl (by decide +kernel)
  have nearest' : IsNearest broken ["app", "src"] ["app"] :=
    isNearest_of_nearest? ["src", "app"] sound' rfl (by decide +kernel)
  have agree : AgreeUpTo ["app"] ["app", "src", "main.rs"] keeps broken := by
    constructor
    · intro between within onTheWay
      have below : between <+: ["app", "src"] := onTheWay.elim id id
      constructor
      · intro held
        rw [nearest.first between within below held]
        exact ⟨_, manifest'⟩
      · intro held
        rw [nearest'.first between within below held]
        exact ⟨_, manifest⟩
    · intro content
      rw [isManifest_iff sound inApp, isManifest_iff sound' inApp',
        (isManifest_iff sound inApp).mp manifest, (isManifest_iff sound' inApp').mp manifest']
  have leavesOpen : LeavesOpen "[package]\nname = \"demo\"\n" := by
    have read : (Toml.read "[package]\nname = \"demo\"\n").toOption.any (fun manifest =>
        (settings? manifest).isNone) = true := by decide +kernel
    obtain ⟨manifest, read, unset⟩ := exists_ok_of_any read
    refine ⟨manifest, read, fun settings found => ?_⟩
    rw [found] at unset
    cases unset
  obtain ⟨loaded, default, same⟩ := (discover_nearest sound resolved).2 ["app"] nearest
  exact ⟨resolved, nearest, loaded, default _ _ manifest text leavesOpen,
    same broken sound' resolved' agree⟩

end Config
end Instrument
