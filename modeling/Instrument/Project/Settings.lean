import Instrument.Project.Error

/-!
# Finding the settings of a project

The settings of a project are in the manifest of its root directory.  For a single file they are in
the manifest that is found first on the way from the file to the root of all files.
-/

namespace Instrument
namespace Config

open Files (FileTree Location)

def manifestName : String := "Cargo.toml"

/-- The settings in the text of the manifest at a path. -/
def ofText (path text : String) : Logged Config :=
  let reading := ofManifest text
  ⟨reading.unknown.map fun key => .unknownSetting key path,
    match reading.config with
    | .ok config => .ok config
    | .error refusal => .error (.invalidConfig path refusal)⟩

/-- The settings in the manifest of a directory; a directory without one has none. -/
def load (tree : FileTree) (directory : String) : Logged Config :=
  let path := Files.join directory manifestName
  match tree.readText path with
  | .error .notFound => ⟨[], .ok default⟩
  | .error obstacle => ⟨[], .error (.unreadable path obstacle)⟩
  | .ok text => ofText path text

/-- Whether there is a manifest in a directory. -/
def hasManifest (tree : FileTree) (directory : Location) : Bool :=
  tree.isFile (Files.join (Files.absoluteText directory) manifestName)

/-- The nearest directory with a manifest, from a directory upwards.  The names of the directory
come last first. -/
def nearest? (tree : FileTree) : List String → Option Location
  | [] => if hasManifest tree [] then some [] else none
  | name :: above =>
    if hasManifest tree (name :: above).reverse then some (name :: above).reverse
    else nearest? tree above

/-- The directory of a path: what it leads to, or if that is a file, where the file is. -/
def directoryOf (tree : FileTree) (location : Location) : Location :=
  match tree.at? location with
  | some (.file _) => location.dropLast
  | _ => location

/-- The settings that apply to what a path leads to. -/
def discover (tree : FileTree) (path : String) : Logged Config :=
  match tree.resolve path with
  | .error obstacle => ⟨[], .error (.obstructed obstacle)⟩
  | .ok location =>
    match nearest? tree (directoryOf tree location).reverse with
    | some directory => load tree (Files.absoluteText directory)
    | none => ⟨[], .ok default⟩

end Config
end Instrument
