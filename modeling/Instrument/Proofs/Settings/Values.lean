import Instrument.Project.Settings
import Instrument.Proofs.Parsing
import Instrument.Proofs.Settings.Documents

/-!
# Settings by their values

A manifest asks for what it says at the path of the setting, whichever of the spellings of that path
it uses.
-/

namespace Instrument
namespace Config

open Toml (Content Binding Item Entries Agrees)

/-- The path to the setting that keeps markers. -/
def settingPath : List String := tablePath ++ [keepMarkerKey]

/-- There is a value, and it is not a truth value. -/
def IsWrong (value : Option Content) : Prop :=
  ∃ content, value = some content ∧ ∀ choice, content ≠ .scalar (.boolean choice)

/-- A value of the setting decides between markers that are kept and markers that are removed,
unless it is wrong. -/
structure Decides (path : String) (value : Option Content) (result : Except ProjectError Config) :
    Prop where
  fails : result = .error (.invalidConfig path .notBoolean) ↔ IsWrong value
  succeeds : ¬ IsWrong value → ∃ config, result = .ok config ∧
    config.policy = (if value = some (.scalar (.boolean true)) then .retain else .strip) ∧
    ∀ keep, (config.withKeepMarker keep).policy =
      if keep = true ∨ value = some (.scalar (.boolean true)) then .retain else .strip

/-- A log warns once about each key of the table of settings except the one that has a meaning, in
the order of the table, and about nothing else. -/
def WarnsInOrder (path : String) (bindings : List Binding) (log : List LogEvent) : Prop :=
  ∃ others : List String, log = others.map (.unknownSetting · path) ∧
    (∀ key, key ∈ others ↔
      key ≠ keepMarkerKey ∧ ∃ content, Toml.Holds bindings (tablePath ++ [key]) content) ∧
    others.Pairwise fun first second =>
      Toml.place (Toml.inside tablePath bindings) first <
        Toml.place (Toml.inside tablePath bindings) second

/-! ## The value of the setting -/

/-- What the table of settings holds for the setting. -/
def value? (settings : Option Item) : Option Content :=
  (settings.bind (·.get? keepMarkerKey)).map Item.content

section Setting

variable {bindings : List Binding} {manifest : Entries}

theorem holds_key_iff (agrees : Agrees bindings (.table .defined manifest)) (key : String)
    (content : Content) : Toml.Holds bindings (tablePath ++ [key]) content ↔
      ∃ item, (settings? manifest).bind (·.get? key) = some item ∧ item.content = content := by
  have last (item : Item) : itemAt? [key] item = item.get? key := by
    rw [Toml.itemAt?_cons]
    exact Option.bind_fun_some _
  rw [Toml.holds_iff agrees, Toml.itemAt?_append, settings?, funext last]

theorem value?_eq_some_iff (agrees : Agrees bindings (.table .defined manifest))
    (content : Content) : value? (settings? manifest) = some content ↔ Toml.Holds bindings settingPath content := by
  rw [value?, Option.map_eq_some_iff, settingPath, holds_key_iff agrees]

theorem content_eq_boolean_iff (item : Item) (choice : Bool) :
    item.content = .scalar (.boolean choice) ↔ item.boolean? = some choice := by
  cases item with
  | scalar value =>
      cases value with
      | boolean held => simp [Item.content, Item.boolean?]
      | _ => simp [Item.content, Item.boolean?]
  | _ => simp [Item.content, Item.boolean?]

variable {path text : String}

theorem decides_of_not_isWrong {value : Option Content} (right : ¬ IsWrong value) :
    Decides path value
      (.ok ⟨if value = some (.scalar (.boolean true)) then .retain else .strip⟩) where
  fails := iff_of_false nofun right
  succeeds := by
    refine fun _ => ⟨_, rfl, rfl, fun keep => ?_⟩
    cases keep <;> simp [withKeepMarker]

theorem decides_of_isWrong {value : Option Content} (wrong : IsWrong value) :
    Decides path value (.error (.invalidConfig path .notBoolean)) where
  fails := iff_of_true rfl wrong
  succeeds := fun right => absurd wrong right

theorem not_isWrong_none : ¬ IsWrong none := nofun

theorem not_isWrong_boolean (choice : Bool) : ¬ IsWrong (some (.scalar (.boolean choice))) := by
  rintro ⟨_, same, different⟩
  cases same
  exact different choice rfl

/-- What a table of settings asks for is decided by the value of the setting. -/
theorem decides_ofSettings (settings : Item) :
    Decides path (value? (some settings)) (match ofSettings settings with
      | .ok config => .ok config
      | .error refusal => .error (.invalidConfig path refusal)) := by
  rw [value?, Option.bind_some, ofSettings]
  cases settings.get? keepMarkerKey with
  | none => exact decides_of_not_isWrong not_isWrong_none
  | some item =>
      rw [Option.map_some]
      simp only
      cases choice : item.boolean? with
      | none =>
          refine decides_of_isWrong ⟨item.content, rfl, fun other same => ?_⟩
          cases choice.symm.trans ((content_eq_boolean_iff item other).mp same)
      | some value =>
          rw [(content_eq_boolean_iff item value).mpr choice]
          cases value with
          | false => exact decides_of_not_isWrong (not_isWrong_boolean false)
          | true => exact decides_of_not_isWrong (not_isWrong_boolean true)

theorem decides_ofText (done : Toml.read text = .ok manifest) :
    Decides path (value? (settings? manifest)) (ofText path text).result := by
  rw [ofText, ofManifest, done]
  simp only
  cases settings? manifest with
  | none => exact decides_of_not_isWrong not_isWrong_none
  | some settings => exact decides_ofSettings settings

/-! ## The other keys -/

/-- Every key of the table of settings has a place of its own, and so have the unknown ones. -/
theorem warnsInOrder_ofText (agrees : Agrees bindings (.table .defined manifest))
    (done : Toml.read text = .ok manifest) : WarnsInOrder path bindings (ofText path text).log := by
  rw [ofText, ofManifest, done]
  simp only
  cases found : settings? manifest with
  | none =>
      refine ⟨[], rfl, fun key => ?_, List.Pairwise.nil⟩
      simp [holds_key_iff agrees, found]
  | some settings =>
      refine ⟨unknownKeys settings, rfl, ?_⟩
      rw [unknownKeys]
      cases several : settings.entries? with
      | none =>
          refine ⟨fun key => ?_, List.Pairwise.nil⟩
          simp [holds_key_iff agrees, found, Item.get?, several]
      | some entries =>
          have fits := (agrees.inside found).fits several
          refine ⟨fun key => ?_, fits.ordered.filter _⟩
          have present : key ∈ entries.keys ↔ ∃ item, entries.get? key = some item := by
            rw [← Option.ne_none_iff_exists', Ne, Toml.Entries.get?_eq_none_iff, not_not]
          rw [List.mem_filter, bne_iff_ne, and_comm, present]
          simp [holds_key_iff agrees, found, Item.get?, several]

end Setting

/-! ## Reading a manifest -/

/-- The setting is read by its value.  A text that cannot be read is refused, and nothing is logged.
For any other text the value is what its bindings hold at the path of the setting: it decides what
the manifest asks for, and the log warns about the other keys of the table, whether the setting is
wrong or not. -/
theorem ofText_by_value (path text : String) :
    (∀ failure, Toml.read text = .error failure →
      ofText path text = ⟨[], .error (.invalidConfig path (.unreadable failure text))⟩) ∧
    ∀ manifest, Toml.read text = .ok manifest →
      ∃ (bindings : List Binding) (value : Option Content), Toml.readBindings text = .ok bindings ∧
        (∀ content, value = some content ↔ Toml.Holds bindings settingPath content) ∧
        Decides path value (ofText path text).result ∧
        WarnsInOrder path bindings (ofText path text).log := by
  constructor
  · intro failure failed
    rw [ofText, ofManifest, failed]
    rfl
  · intro manifest done
    obtain ⟨bindings, same, agrees⟩ := Toml.agrees_of_read done
    exact ⟨bindings, value? (settings? manifest), same, value?_eq_some_iff agrees,
      decides_ofText done, warnsInOrder_ofText agrees done⟩

/-- Headers, dots, quotes and braces all lead to the same setting. -/
theorem ofText_by_value_across_spellings :
    let text := "[package]\nmetadata.'method-logger' = " ++
      "\x7b \"colour\" = 1, keep-marker = true \x7d\n"
    ∃ manifest bindings, Toml.read text = .ok manifest ∧ Toml.readBindings text = .ok bindings ∧
      Toml.Holds bindings settingPath (.scalar (.boolean true)) ∧
      (∃ config, (ofText manifestName text).result = .ok config ∧ config.policy = .retain) ∧
      (ofText manifestName text).log = [.unknownSetting "colour" manifestName] := by
  intro text
  have read : (Toml.read text).toOption.any (fun _ => true) = true := by decide +kernel
  have said : (Toml.readBindings text).toOption.any (fun bindings =>
      decide (⟨settingPath, .scalar (.boolean true)⟩ ∈ bindings ∧
        ∀ binding ∈ bindings, binding.content ≠ .tables)) = true := by decide +kernel
  obtain ⟨manifest, read, _⟩ := exists_ok_of_any read
  obtain ⟨bindings, said, found⟩ := exists_ok_of_any said
  obtain ⟨member, single⟩ := of_decide_eq_true found
  obtain ⟨_, value, same, values, decides, _⟩ :=
    (ofText_by_value manifestName text).2 manifest read
  cases said.symm.trans same
  have holds := Toml.Holds.written member (Toml.not_isHidden_of_forall single settingPath)
  have set := (values _).mpr holds
  subst set
  obtain ⟨config, result, policy, _⟩ := decides.succeeds (not_isWrong_boolean true)
  exact ⟨manifest, bindings, read, said, holds, ⟨config, result, policy⟩, by decide +kernel⟩

end Config
end Instrument
