import Instrument.Instrumentation
import Instrument.Toml.Read

/-!
# Settings of a project

A project can ask in its manifest for the markers to be kept.  The setting is one key in a table of
its own; other keys in that table are reported and have no effect.
-/

namespace Instrument

/-- The settings of a project. -/
structure Config where
  policy : MarkerPolicy
deriving DecidableEq, Repr

instance : Inhabited Config := ⟨⟨.strip⟩⟩

namespace Config

/-- The path to the table of settings in a manifest. -/
def tablePath : List String := ["package", "metadata", "method-logger"]

/-- The key of the setting that keeps markers. -/
def keepMarkerKey : String := "keep-marker"

/-- Why a manifest cannot be used. -/
inductive Refusal where
  | unreadable (failure : Toml.Failure) (text : String)
  | notBoolean
deriving DecidableEq, Repr

def Refusal.message : Refusal → String
  | unreadable failure text => failure.message text
  | notBoolean => "`" ++ keepMarkerKey ++ "` must be a boolean"

/-- The item at a path of keys. -/
def itemAt? : List String → Toml.Item → Option Toml.Item
  | [], item => some item
  | key :: path, item => (item.get? key).bind (itemAt? path)

/-- The table of settings in a manifest, or whatever stands in its place. -/
def settings? (manifest : Toml.Entries) : Option Toml.Item :=
  itemAt? tablePath (.table .defined manifest)

/-- The keys of the table of settings that have no meaning, in order. -/
def unknownKeys (settings : Toml.Item) : List String :=
  match settings.entries? with
  | some entries => entries.keys.filter (· != keepMarkerKey)
  | none => []

/-- What the table of settings asks for. -/
def ofSettings (settings : Toml.Item) : Except Refusal Config :=
  match settings.get? keepMarkerKey with
  | none => .ok default
  | some item =>
    match item.boolean? with
    | some true => .ok ⟨.retain⟩
    | some false => .ok ⟨.strip⟩
    | none => .error .notBoolean

/-- What a manifest asks for, and the keys to be reported. -/
structure Reading where
  unknown : List String
  config : Except Refusal Config

def ofManifest (text : String) : Reading :=
  match Toml.read text with
  | .error failure => ⟨[], .error (.unreadable failure text)⟩
  | .ok manifest =>
    match settings? manifest with
    | none => ⟨[], .ok default⟩
    | some settings => ⟨unknownKeys settings, ofSettings settings⟩

/-- The settings with a request on the command line to keep markers. -/
def withKeepMarker (config : Config) (keep : Bool) : Config :=
  if keep then ⟨.retain⟩ else config

end Config
end Instrument
