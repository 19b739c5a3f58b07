import Instrument.Config
import Instrument.Proofs.Settings.Bindings

/-!
# Tables and what is written

A table agrees with bindings if each item in it, however deep, is what is written at its path: a
scalar and an array are all that is written there, and a table has a key for whatever is written
inside it, in the order of the places of the keys.  Of the tables of a header in double brackets
nothing more is asked than that such a header is written.

This is a condition on every path apart.  An entry that is set therefore matters to the paths
through its own key and, by the place of this key, to the order of the entries around it.
-/

namespace Instrument
namespace Toml

/-! ## Keys and entries -/

namespace Entries

variable {entries : Entries} {key other : String} {item : Item}

theorem get?_cons (entry : String × Item) (rest : Entries) :
    Entries.get? (entry :: rest) other =
      if other = entry.1 then some entry.2 else Entries.get? rest other := by
  rw [get?, List.lookup_cons]
  by_cases same : other = entry.1
  · rw [if_pos same, beq_iff_eq.mpr same]
  · rw [if_neg same, beq_eq_false_iff_ne.mpr same]
    rfl

theorem get?_append (entries added : Entries) :
    Entries.get? (entries ++ added) other = (entries.get? other).or (added.get? other) := by
  induction entries with
  | nil => rfl
  | cons entry rest inductionHypothesis =>
      rw [List.cons_append, get?_cons, get?_cons, inductionHypothesis]
      split <;> rfl

theorem get?_set : (entries.set key item).get? other =
    if other = key then some item else entries.get? other := by
  induction entries with
  | nil => exact get?_cons (key, item) []
  | cons entry rest inductionHypothesis =>
      rw [set]
      by_cases same : entry.1 = key
      · rw [if_pos (beq_iff_eq.mpr same), get?_cons, get?_cons, same]
        split <;> rfl
      · rw [if_neg fun equal => same (eq_of_beq equal), get?_cons, get?_cons, inductionHypothesis]
        by_cases found : other = key
        · subst found
          rw [if_neg fun equal => same equal.symm, if_pos rfl, if_pos rfl]
        · rw [if_neg found, if_neg found]

@[simp] theorem get?_set_self : (entries.set key item).get? key = some item := by
  rw [get?_set, if_pos rfl]

@[simp] theorem set_set {later : Item} :
    (entries.set key item).set key later = entries.set key later := by
  induction entries with
  | nil => simp [set]
  | cons entry rest inductionHypothesis =>
      by_cases same : entry.1 = key
      · simp [set, same]
      · simp [set, same, inductionHypothesis]

theorem get?_erase_self : (entries.erase key).get? key = none := by
  induction entries with
  | nil => rfl
  | cons entry rest inductionHypothesis =>
      by_cases same : entry.1 = key
      · simpa [erase, same] using inductionHypothesis
      · have different : ¬ key = entry.1 := fun equal => same equal.symm
        simpa [erase, same, get?_cons, different] using inductionHypothesis

theorem get?_erase_of_ne (different : other ≠ key) :
    (entries.erase key).get? other = entries.get? other := by
  induction entries with
  | nil => rfl
  | cons entry rest inductionHypothesis =>
      by_cases same : entry.1 = key
      · have elsewhere : ¬ other = entry.1 := fun equal => different (equal.trans same)
        rw [get?_cons, if_neg elsewhere]
        simpa [erase, same] using inductionHypothesis
      · simpa [erase, same, get?_cons] using congrArg
          (fun found => if other = entry.1 then some entry.2 else found) inductionHypothesis

/-- A key that is moved to the end is looked up like one that is set. -/
theorem get?_erase_append : Entries.get? (entries.erase key ++ [(key, item)]) other =
    if other = key then some item else entries.get? other := by
  rw [get?_append, get?_cons]
  by_cases same : other = key
  · rw [if_pos same, if_pos same, same, get?_erase_self]
    rfl
  · rw [if_neg same, if_neg same, get?_erase_of_ne same]
    exact Option.or_none

theorem get?_eq_none_iff : entries.get? key = none ↔ key ∉ entries.keys := by
  induction entries with
  | nil => exact ⟨fun _ => List.not_mem_nil, fun _ => rfl⟩
  | cons entry rest inductionHypothesis =>
      rw [get?_cons, keys, List.map_cons, List.mem_cons]
      by_cases same : key = entry.1
      · simp [same]
      · rw [if_neg same, inductionHypothesis, keys]
        simp [same]

theorem set_of_none (missing : entries.get? key = none) :
    entries.set key item = entries ++ [(key, item)] := by
  induction entries with
  | nil => rfl
  | cons entry rest inductionHypothesis =>
      rw [get?_cons] at missing
      by_cases same : key = entry.1
      · rw [if_pos same] at missing
        cases missing
      · rw [if_neg same] at missing
        have different : ¬ (entry.1 == key) = true := fun equal => same (eq_of_beq equal).symm
        rw [set, if_neg different, inductionHypothesis missing, List.cons_append]

theorem erase_of_none (missing : entries.get? key = none) : entries.erase key = entries := by
  refine List.filter_eq_self.mpr fun entry member => ?_
  refine bne_iff_ne.mpr fun same => get?_eq_none_iff.mp missing ?_
  exact List.mem_map.mpr ⟨entry, member, same⟩

theorem keys_set_of_ne_none (present : entries.get? key ≠ none) :
    (entries.set key item).keys = entries.keys := by
  induction entries with
  | nil => exact absurd rfl present
  | cons entry rest inductionHypothesis =>
      rw [get?_cons] at present
      rw [set]
      by_cases same : entry.1 = key
      · simp [keys, same]
      · rw [if_neg fun equal => same equal.symm] at present
        rw [if_neg fun equal => same (eq_of_beq equal), keys, List.map_cons]
        exact congrArg (entry.1 :: ·) (inductionHypothesis present)

theorem keys_append (entries added : Entries) : Entries.keys (entries ++ added) =
    entries.keys ++ added.keys :=
  List.map_append

theorem keys_erase : (entries.erase key).keys = entries.keys.filter (· != key) := by
  rw [keys, keys, erase, List.filter_map]
  rfl

end Entries

/-! ## Agreement -/

/-- What an item is, without what is inside it. -/
def Item.content : Item → Content
  | .scalar value => .scalar value
  | .array _ => .array
  | .inline _ _ => .table
  | .table _ _ => .table
  | .tables _ => .tables

/-- The keys of a table are those that something is written inside of, in the order of their
places. -/
structure HasKeys (bindings : List Binding) (entries : Entries) : Prop where
  own : ∀ content, ⟨[], content⟩ ∈ bindings → content = .table
  missing : ∀ key, entries.get? key = none → insideKey key bindings = []
  ordered : entries.keys.Pairwise fun first second => place bindings first < place bindings second

/-- An item is what is written at its path.  A table that was only implied is not written by
itself, so it can still get a header of its own. -/
def Item.IsWrittenIn (bindings : List Binding) : Item → Prop
  | .scalar value => bindings = [⟨[], .scalar value⟩]
  | .array _ => bindings = [⟨[], .array⟩]
  | .inline _ entries => bindings ≠ [] ∧ HasKeys bindings entries
  | .table standing entries =>
    bindings ≠ [] ∧ (standing = .implied → ∀ content, ⟨[], content⟩ ∉ bindings) ∧
      HasKeys bindings entries
  | .tables _ => ∀ content, ⟨[], content⟩ ∈ bindings ↔ content = .tables

/-- Everything in an item is what is written at its path. -/
def Agrees (bindings : List Binding) (item : Item) : Prop :=
  ∀ path found, Config.itemAt? path item = some found → found.IsWrittenIn (inside path bindings)

/-- The entries of a table are what is written inside it. -/
structure Fits (bindings : List Binding) (entries : Entries) : Prop extends
    HasKeys bindings entries where
  agrees : ∀ key item, entries.get? key = some item → Agrees (insideKey key bindings) item

section Agreement

variable {bindings added : List Binding} {entries : Entries} {standing : Standing}

theorem itemAt?_cons (item : Item) (key : String) (path : List String) :
    Config.itemAt? (key :: path) item = (item.get? key).bind (Config.itemAt? path) :=
  rfl

/-- An item without entries agrees as soon as it is itself what is written. -/
theorem agrees_of_entries?_eq_none {item : Item} (single : item.entries? = none) :
    Agrees bindings item ↔ item.IsWrittenIn bindings := by
  refine ⟨fun agrees => agrees [] item rfl, fun written path found reached => ?_⟩
  cases path with
  | nil =>
      cases reached
      exact written
  | cons key path =>
      rw [itemAt?_cons, Item.get?, single] at reached
      cases reached

theorem agrees_of_entries?_eq_some {item : Item} (several : item.entries? = some entries) :
    Agrees bindings item ↔ item.IsWrittenIn bindings ∧
      ∀ key found, entries.get? key = some found → Agrees (insideKey key bindings) found := by
  have step (key : String) (path : List String) : Config.itemAt? (key :: path) item =
      (entries.get? key).bind (Config.itemAt? path) := by
    rw [itemAt?_cons, Item.get?, several]
    rfl
  constructor
  · intro agrees
    refine ⟨agrees [] item rfl, fun key found present path deeper reached => ?_⟩
    exact agrees (key :: path) deeper (by rw [step, present]; exact reached)
  · rintro ⟨written, agrees⟩ path found reached
    cases path with
    | nil =>
        cases reached
        exact written
    | cons key path =>
        rw [step] at reached
        obtain ⟨first, present, reached⟩ := Option.bind_eq_some_iff.mp reached
        exact agrees key first present path found reached

theorem agrees_table_iff : Agrees bindings (.table standing entries) ↔
    bindings ≠ [] ∧ (standing = .implied → ∀ content, ⟨[], content⟩ ∉ bindings) ∧
      Fits bindings entries := by
  rw [agrees_of_entries?_eq_some rfl]
  constructor
  · rintro ⟨⟨some, bare, keys⟩, agrees⟩
    exact ⟨some, bare, keys, agrees⟩
  · rintro ⟨some, bare, keys, agrees⟩
    exact ⟨⟨some, bare, keys⟩, agrees⟩

theorem agrees_inline_iff : Agrees bindings (.inline standing entries) ↔
    bindings ≠ [] ∧ Fits bindings entries := by
  rw [agrees_of_entries?_eq_some rfl]
  constructor
  · rintro ⟨⟨some, keys⟩, agrees⟩
    exact ⟨some, keys, agrees⟩
  · rintro ⟨some, keys, agrees⟩
    exact ⟨⟨some, keys⟩, agrees⟩

theorem agrees_tables_iff {elements : List (List (String × Item))} :
    Agrees bindings (.tables elements) ↔ ∀ content, ⟨[], content⟩ ∈ bindings ↔ content = .tables :=
  agrees_of_entries?_eq_none rfl

/-- Something is written for every item. -/
theorem Agrees.ne_nil {item : Item} (agrees : Agrees bindings item) : bindings ≠ [] := by
  have written := agrees [] item rfl
  cases item with
  | scalar value =>
      rintro rfl
      cases written
  | array elements =>
      rintro rfl
      cases written
  | inline standing entries => exact written.1
  | table standing entries => exact written.1
  | tables elements =>
      rintro rfl
      cases (written .tables).mpr rfl

theorem fits_nil : Fits [] [] where
  own := fun _ member => absurd member List.not_mem_nil
  missing := fun _ _ => rfl
  ordered := List.Pairwise.nil
  agrees := fun _ _ found => by cases found

/-! ## What holds and what is there -/

theorem itemAt?_append (item : Item) (path path' : List String) :
    Config.itemAt? (path ++ path') item =
      (Config.itemAt? path item).bind (Config.itemAt? path') := by
  induction path generalizing item with
  | nil => rfl
  | cons key path inductionHypothesis =>
      rw [List.cons_append, itemAt?_cons, itemAt?_cons, Option.bind_assoc]
      congr 1
      exact funext inductionHypothesis

/-- An item that agrees with bindings is what they say at its own path. -/
theorem holds_nil_iff {item : Item} (agrees : Agrees bindings item) (content : Content) :
    Holds bindings [] content ↔ item.content = content := by
  have written := agrees [] item rfl
  have alone (only : bindings = [⟨[], item.content⟩]) :
      Holds bindings [] content ↔ item.content = content := by
    subst only
    constructor
    · intro holds
      cases holds with
      | written member _ =>
          cases List.mem_singleton.mp member
          rfl
      | around member _ => cases List.mem_singleton.mp member
    · rintro rfl
      exact .written (List.mem_singleton_self _) not_isHidden_nil
  have table (some : bindings ≠ [])
      (own : ∀ content, ⟨[], content⟩ ∈ bindings → content = .table) :
      Holds bindings [] content ↔ Content.table = content := by
    constructor
    · intro holds
      cases holds with
      | written member _ => exact (own _ member).symm
      | around _ _ => rfl
    · rintro rfl
      exact holds_table own some
  cases item with
  | scalar value => exact alone written
  | array elements => exact alone written
  | inline standing entries => exact table written.1 written.2.own
  | table standing entries => exact table written.1 written.2.2.own
  | tables elements =>
      constructor
      · intro holds
        cases holds with
        | written member _ => exact ((written _).mp member).symm
        | around _ visible =>
            exact absurd ⟨[], List.nil_prefix, (List.cons_ne_nil _ _).symm,
              (written .tables).mpr rfl⟩ visible
      · rintro rfl
        exact .written ((written .tables).mpr rfl) not_isHidden_nil

/-- The entries of every item that has some fit what is written. -/
theorem Agrees.fits {item : Item} (agrees : Agrees bindings item)
    (several : item.entries? = some entries) : Fits bindings entries := by
  cases item with
  | inline standing held =>
      cases several
      exact (agrees_inline_iff.mp agrees).2
  | table standing held =>
      cases several
      exact (agrees_table_iff.mp agrees).2.2
  | scalar value => cases several
  | array elements => cases several
  | tables elements => cases several

/-- What a path leads to agrees with what is written inside the path. -/
theorem Agrees.inside {item found : Item} {path : List String} (agrees : Agrees bindings item)
    (reached : Config.itemAt? path item = some found) : Agrees (inside path bindings) found := by
  intro further last reached'
  rw [← inside_append_path]
  exact agrees (path ++ further) last (by rw [itemAt?_append, reached]; exact reached')

/-- Nothing holds inside an item without entries. -/
theorem not_holds_of_entries?_eq_none {item : Item} (agrees : Agrees bindings item)
    (single : item.entries? = none) (key : String) (path : List String) (content : Content) :
    ¬ Holds bindings (key :: path) content := by
  have written := agrees [] item rfl
  rintro holds
  obtain ⟨notSeveral, holds⟩ := holds_cons_iff.mp holds
  cases item with
  | scalar value =>
      cases (written : bindings = _)
      exact not_holds_nil holds
  | array elements =>
      cases (written : bindings = _)
      exact not_holds_nil holds
  | tables elements => exact notSeveral ((written .tables).mpr rfl)
  | inline standing entries => cases single
  | table standing entries => cases single

/-- What bindings hold at a path is what the path leads to in an item that agrees with them. -/
theorem holds_iff {item : Item} (agrees : Agrees bindings item) (path : List String)
    (content : Content) :
    Holds bindings path content ↔ ∃ found, Config.itemAt? path item = some found ∧
      found.content = content := by
  induction path generalizing bindings item with
  | nil =>
      rw [holds_nil_iff agrees]
      constructor
      · exact fun same => ⟨item, rfl, same⟩
      · rintro ⟨_, same, held⟩
        cases same
        exact held
  | cons key path inductionHypothesis =>
      rw [itemAt?_cons, Item.get?]
      cases several : item.entries? with
      | none =>
          refine iff_of_false (not_holds_of_entries?_eq_none agrees several key path content) ?_
          rintro ⟨_, reached, _⟩
          cases reached
      | some entries =>
          have fits := agrees.fits several
          have single : ⟨[], .tables⟩ ∉ bindings := fun member => by cases fits.own _ member
          rw [holds_cons_iff, and_iff_right single, Option.bind_some]
          cases present : entries.get? key with
          | none =>
              rw [fits.missing key present]
              refine iff_of_false not_holds_nil ?_
              rintro ⟨_, reached, _⟩
              cases reached
          | some first => exact inductionHypothesis (fits.agrees key first present)

/-! ## Setting an entry -/

variable {key : String} {item : Item}

theorem not_mem_map_under (content : Content) : ⟨[], content⟩ ∉ added.map (·.under [key]) := by
  intro member
  obtain ⟨binding, _, same⟩ := List.mem_map.mp member
  cases same

theorem insideKey_append_under (other : String) :
    insideKey other (bindings ++ added.map (·.under [key])) =
      if other = key then insideKey key bindings ++ added else insideKey other bindings := by
  rw [insideKey_append]
  split
  next same =>
      rw [same, insideKey_map_under, map_under_nil]
  next different =>
      rw [insideKey_map_under_of_ne (Ne.symm different), List.append_nil]

theorem isWritten_map_under {other : String}
    (written : IsWritten (added.map (·.under [key])) other) :
    other = key ∧ ∃ content, ⟨[], content⟩ ∈ added := by
  obtain ⟨content, member⟩ := isWritten_iff.mp written
  by_cases same : key = other
  · subst same
    rw [insideKey_map_under, map_under_nil] at member
    exact ⟨rfl, content, member⟩
  · rw [insideKey_map_under_of_ne same] at member
    cases member

namespace Fits

theorem insideKey_ne_nil (fits : Fits bindings entries) (member : key ∈ entries.keys) :
    insideKey key bindings ≠ [] := by
  cases found : entries.get? key with
  | none => exact absurd member (Entries.get?_eq_none_iff.mp found)
  | some item => exact (fits.agrees key item found).ne_nil

theorem place_append_of_ne (fits : Fits bindings entries) {other : String}
    (member : other ∈ entries.keys) (different : other ≠ key) :
    place (bindings ++ added.map (·.under [key])) other = place bindings other :=
  place_append (fits.insideKey_ne_nil member) fun written =>
    absurd (isWritten_map_under written).1 different

/-- Entries fit what is written inside a key, if they are the same for all other keys. -/
theorem of_get? {changed : Entries} (fits : Fits bindings entries) (added : List Binding)
    (same : ∀ other, changed.get? other = if other = key then some item else entries.get? other)
    (agrees : Agrees (insideKey key bindings ++ added) item)
    (ordered : changed.keys.Pairwise fun first second =>
      place (bindings ++ added.map (·.under [key])) first <
        place (bindings ++ added.map (·.under [key])) second) :
    Fits (bindings ++ added.map (·.under [key])) changed where
  own := fun content member => fits.own content
    ((List.mem_append.mp member).resolve_right (not_mem_map_under content))
  missing := by
    intro other missing
    rw [same] at missing
    split at missing
    next => cases missing
    next different =>
        rw [insideKey_append_under, if_neg different]
        exact fits.missing other missing
  ordered := ordered
  agrees := by
    intro other found reached
    rw [same] at reached
    rw [insideKey_append_under]
    split at reached
    next same =>
        cases reached
        rwa [if_pos same]
    next different =>
        rw [if_neg different]
        exact fits.agrees other found reached

/-- A key keeps its place when something is written inside it, unless this writes the key itself
for the first time. -/
theorem set (fits : Fits bindings entries) (added : List Binding)
    (present : entries.get? key ≠ none)
    (agrees : Agrees (insideKey key bindings ++ added) item)
    (settled : (∃ content, ⟨[], content⟩ ∈ added) → IsWritten bindings key) :
    Fits (bindings ++ added.map (·.under [key])) (entries.set key item) := by
  refine fits.of_get? added (fun _ => Entries.get?_set) agrees ?_
  have same : ∀ other ∈ entries.keys,
      place (bindings ++ added.map (·.under [key])) other = place bindings other :=
    fun other member => place_append (fits.insideKey_ne_nil member) fun written => by
      obtain ⟨rfl, found⟩ := isWritten_map_under written
      exact settled found
  rw [Entries.keys_set_of_ne_none present]
  refine fits.ordered.imp_of_mem fun first second order => ?_
  rwa [same _ first, same _ second]

/-- What is written inside a key for the first time leaves all other keys in order, and puts the key
behind them. -/
theorem ordered_renew (fits : Fits bindings entries) (added : List Binding)
    (unwritten : ¬ IsWritten bindings key)
    (fresh : entries.get? key = none ∨ ∃ content, ⟨[], content⟩ ∈ added) :
    (entries.keys.filter (· != key) ++ [key]).Pairwise fun first second =>
      place (bindings ++ added.map (·.under [key])) first <
        place (bindings ++ added.map (·.under [key])) second := by
  have last : bindings.length ≤ place (bindings ++ added.map (·.under [key])) key := by
    refine length_le_place_append unwritten (fresh.imp (fits.missing key) fun now => ?_)
    rwa [isWritten_iff, insideKey_map_under, map_under_nil]
  have before : ∀ other ∈ entries.keys.filter (· != key),
      other ∈ entries.keys ∧ other ≠ key := by
    intro other member
    obtain ⟨member, different⟩ := List.mem_filter.mp member
    exact ⟨member, bne_iff_ne.mp different⟩
  refine List.pairwise_append.mpr ⟨?_, List.pairwise_singleton _ _, ?_⟩
  · refine (fits.ordered.filter _).imp_of_mem fun first second order => ?_
    obtain ⟨first, apart⟩ := before _ first
    obtain ⟨second, apart'⟩ := before _ second
    rwa [fits.place_append_of_ne first apart, fits.place_append_of_ne second apart']
  · intro other member key' same
    cases List.mem_singleton.mp same
    obtain ⟨member, different⟩ := before other member
    rw [fits.place_append_of_ne member different]
    exact Nat.lt_of_lt_of_le (place_lt_length (fits.insideKey_ne_nil member)) last

/-- A key comes last when it is mentioned for the first time, or written by itself for the first
time. -/
theorem renew (fits : Fits bindings entries) (added : List Binding)
    (unwritten : ¬ IsWritten bindings key)
    (fresh : entries.get? key = none ∨ ∃ content, ⟨[], content⟩ ∈ added)
    (agrees : Agrees (insideKey key bindings ++ added) item) :
    Fits (bindings ++ added.map (·.under [key])) (entries.erase key ++ [(key, item)]) := by
  refine fits.of_get? added (fun _ => Entries.get?_erase_append) agrees ?_
  rw [Entries.keys_append, Entries.keys_erase]
  exact fits.ordered_renew added unwritten fresh

/-- A key that is not there yet. -/
theorem append (fits : Fits bindings entries) (missing : entries.get? key = none)
    (agrees : Agrees added item) :
    Fits (bindings ++ added.map (·.under [key])) (entries ++ [(key, item)]) := by
  have nothing := fits.missing key missing
  have renewed : Fits (bindings ++ added.map (·.under [key]))
      (entries.erase key ++ [(key, item)]) := by
    refine fits.renew added ?_ (.inl missing) ?_
    · rintro written
      obtain ⟨content, member⟩ := isWritten_iff.mp written
      rw [nothing] at member
      cases member
    · rwa [nothing, List.nil_append]
  rwa [Entries.erase_of_none missing] at renewed

end Fits

end Agreement

end Toml
end Instrument
