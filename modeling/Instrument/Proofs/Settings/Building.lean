import Instrument.Proofs.Settings.Tables

/-!
# Building tables from what is written

Each change that is made to tables while a document is read adds to them what the document says
there.  A change deep inside a table is a change of all tables on the way to it, so this is shown
once for a path of keys.  The open table is not part of the tree, and the order of events is not
that of the bindings: a header closes the table in front of it and takes out what its own table
holds already.  Two changes of the same table one after the other are therefore joined to one, and
what a document says is compared with the tree as it would be if the open table were closed.
-/

namespace Instrument
namespace Toml

/-- What is written inside a table. -/
structure AreInside (added : List Binding) : Prop where
  ne_nil : added ≠ []
  deeper : ∀ content, ⟨[], content⟩ ∉ added

theorem AreInside.under {added : List Binding} (areInside : AreInside added)
    (path : List String) : AreInside (added.map (·.under path)) where
  ne_nil := fun empty => areInside.ne_nil (List.map_eq_nil_iff.mp empty)
  deeper := by
    intro content member
    cases path with
    | nil =>
        rw [map_under_nil] at member
        exact areInside.deeper content member
    | cons key rest =>
        obtain ⟨_, _, same⟩ := List.mem_map.mp member
        cases same

theorem areInside_under {value : List Binding} (some : value ≠ []) (key : String) :
    AreInside (value.map (·.under [key])) where
  ne_nil := fun empty => some (List.map_eq_nil_iff.mp empty)
  deeper := not_mem_map_under

/-- Wherever a change of a table succeeds, it adds some bindings to what the table says. -/
def Adds {α : Type} (change : Change α) (added : List Binding) : Prop :=
  ∀ bindings standing entries result after, change standing entries = .ok (result, after) →
    Fits bindings entries → Fits (bindings ++ added) after

/-- Adding a key adds what its value says. -/
theorem adds_addKey {value : List Binding} {item : Item} (agrees : Agrees value item)
    (isDotted : Bool) (table : Option (List String)) (key : String) :
    Adds (addKey isDotted table key item) (value.map (·.under [key])) := by
  intro bindings standing entries result after done fits
  rw [addKey] at done
  split at done
  next => cases done
  next =>
      split at done
      next => cases done
      next missing =>
          cases done
          exact fits.append (Option.not_isSome_iff_eq_none.mp missing) agrees

/-! ## Along a path -/

section Descent

variable {α β : Type} {change : Change α} {key : String} {isDotted : Bool}
  {walked path : List String} {standing : Standing} {entries after : Entries} {result : α}

/-- The table that a path goes on in behind an item, if it is one or is to be made, and how the
item is made of this table afterwards. -/
def entrance (isDotted : Bool) : Option Item → Option (Standing × Entries × (Entries → Item))
  | none =>
    let standing := if isDotted then .dotted else .implied
    some (standing, [], .table standing)
  | some (.table standing held) =>
    if isDotted && standing == .defined then none else some (standing, held, .table standing)
  | some (.tables elements) =>
    some (.defined, elements.getLast?.getD [], fun last => .tables (elements.dropLast ++ [last]))
  | some _ => none

theorem bind_eq_ok_iff {ε : Type} {first : Except ε α} {next : α → Except ε β} {last : β} :
    (first >>= next) = .ok last ↔ ∃ value, first = .ok value ∧ next value = .ok last := by
  cases first with
  | error failure =>
      constructor
      · intro same
        cases same
      · rintro ⟨_, same, _⟩
        cases same
  | ok value =>
      constructor
      · exact fun same => ⟨value, rfl, same⟩
      · rintro ⟨_, same, last⟩
        cases same
        exact last

theorem descend_cons_eq_ok_iff :
    descend isDotted change walked (key :: path) standing entries = .ok (result, after) ↔
      ∃ inner held back, entrance isDotted (entries.get? key) = some (inner, held, back) ∧
        ∃ changed,
          descend isDotted change (walked ++ [key]) path inner held = .ok (result, changed) ∧
          entries.set key (back changed) = after := by
  have goesOn (inner : Standing) (held : Entries) (back : Entries → Item)
      (next : α × Entries → Except Conflict (α × Entries))
      (puts : ∀ found, next found = .ok (found.1, entries.set key (back found.2))) :
      (descend isDotted change (walked ++ [key]) path inner held >>= next) = .ok (result, after) ↔
      ∃ inner' held' back', some (inner, held, back) = some (inner', held', back') ∧
        ∃ changed, descend isDotted change (walked ++ [key]) path inner' held' =
          .ok (result, changed) ∧ entries.set key (back' changed) = after := by
    rw [bind_eq_ok_iff]
    constructor
    · rintro ⟨found, done, same⟩
      cases (puts found).symm.trans same
      exact ⟨_, _, _, rfl, found.2, done, rfl⟩
    · rintro ⟨_, _, _, same, changed, done, rfl⟩
      cases same
      exact ⟨_, done, puts _⟩
  rw [descend]
  cases entries.get? key with
  | none => exact goesOn _ [] _ _ fun _ => rfl
  | some item =>
      cases item with
      | table inner held =>
          dsimp only [entrance]
          split
          next => simp
          next => exact goesOn inner held _ _ fun _ => rfl
      | tables elements =>
          exact goesOn .defined _ (fun last => .tables (elements.dropLast ++ [last])) _ fun _ => rfl
      | scalar value => simp [entrance]
      | array elements => simp [entrance]
      | inline inner held => simp [entrance]

/-- Through the table that a change has put back, a path goes on as before. -/
theorem entrance_back {item : Option Item} {inner : Standing} {held changed : Entries}
    {back : Entries → Item} (goesOn : entrance isDotted item = some (inner, held, back)) :
    entrance false (some (back changed)) = some (inner, changed, back) := by
  cases item with
  | none =>
      cases goesOn
      rfl
  | some item =>
      cases item with
      | table standing held =>
          rw [entrance] at goesOn
          split at goesOn
          next => cases goesOn
          next =>
              cases goesOn
              rfl
      | tables elements =>
          cases goesOn
          simp [entrance]
      | scalar value => cases goesOn
      | array elements => cases goesOn
      | inline standing held => cases goesOn

/-- What is added to the table behind a key is added to the tables around it. -/
theorem fits_set_back {bindings added : List Binding} {inner : Standing} {held changed : Entries}
    {back : Entries → Item} (areInside : AreInside added) (fits : Fits bindings entries)
    (goesOn : entrance isDotted (entries.get? key) = some (inner, held, back))
    (step : ∀ bindings, Fits bindings held → Fits (bindings ++ added) changed) :
    Fits (bindings ++ added.map (·.under [key])) (entries.set key (back changed)) := by
  have settled : (∃ content, ⟨[], content⟩ ∈ added) → IsWritten bindings key :=
    fun ⟨content, member⟩ => absurd member (areInside.deeper content)
  have bare {standing : Standing} {before : List Binding}
      (bare : standing = .implied → ∀ content, ⟨[], content⟩ ∉ before) :
      standing = .implied → ∀ content, ⟨[], content⟩ ∉ before ++ added := by
    intro implied content member
    rcases List.mem_append.mp member with member | member
    · exact bare implied content member
    · exact areInside.deeper content member
  have some : ∀ before, before ++ added ≠ [] :=
    fun before empty => areInside.ne_nil (List.append_eq_nil_iff.mp empty).2
  cases found : entries.get? key with
  | none =>
      rw [found] at goesOn
      cases goesOn
      rw [Entries.set_of_none found]
      refine fits.append found (agrees_table_iff.mpr ⟨areInside.ne_nil, ?_, step [] fits_nil⟩)
      exact fun _ => areInside.deeper
  | some item =>
      have present : entries.get? key ≠ none := by
        rw [found]
        exact Option.some_ne_none item
      have agrees := fits.agrees key item found
      rw [found] at goesOn
      refine fits.set added present ?_ settled
      cases item with
      | table standing held =>
          rw [entrance] at goesOn
          split at goesOn
          next => cases goesOn
          next =>
              cases goesOn
              obtain ⟨_, implied, fitsInside⟩ := agrees_table_iff.mp agrees
              exact agrees_table_iff.mpr ⟨some _, bare implied, step _ fitsInside⟩
      | tables elements =>
          cases goesOn
          refine agrees_tables_iff.mpr fun content => ?_
          rw [List.mem_append, agrees_tables_iff.mp agrees]
          exact or_iff_left (areInside.deeper content)
      | scalar value => cases goesOn
      | array elements => cases goesOn
      | inline standing held => cases goesOn

/-- A change at the end of a path adds what it adds there, seen from the start of the path. -/
theorem adds_descend {added : List Binding} (areInside : AreInside added) (adds : Adds change added)
    (isDotted : Bool) (walked path : List String) :
    Adds (descend isDotted change walked path) (added.map (·.under path)) := by
  induction path generalizing walked with
  | nil =>
      intro bindings standing entries result after done fits
      rw [map_under_nil]
      exact adds bindings standing entries result after done fits
  | cons key path inductionHypothesis =>
      intro bindings standing entries result after done fits
      obtain ⟨inner, held, back, goesOn, changed, onwards, rfl⟩ := descend_cons_eq_ok_iff.mp done
      have around : added.map (·.under (key :: path)) =
          (added.map (·.under path)).map (·.under [key]) := (map_under_append [key]).symm
      rw [around]
      exact fits_set_back (areInside.under path) fits goesOn fun before =>
        inductionHypothesis (walked ++ [key]) before inner held result changed onwards

end Descent

/-! ## Tables in braces -/

section Inline

variable {α : Type} {change : Change α}

/-- A change at the end of a path through tables in braces. -/
theorem adds_descendInline {added : List Binding} (areInside : AreInside added)
    (adds : Adds change added) (walked path : List String) :
    Adds (descendInline change walked path) (added.map (·.under path)) := by
  induction path generalizing walked with
  | nil =>
      intro bindings standing entries result after done fits
      rw [map_under_nil]
      exact adds bindings standing entries result after done fits
  | cons key path inductionHypothesis =>
      intro bindings standing entries result after done fits
      have around : added.map (·.under (key :: path)) =
          (added.map (·.under path)).map (·.under [key]) := (map_under_append [key]).symm
      have areInside := areInside.under path
      rw [around]
      rw [descendInline] at done
      dsimp only at done
      split at done
      next missing =>
          obtain ⟨⟨_, changed⟩, onwards, same⟩ := bind_eq_ok_iff.mp done
          cases same
          have fitsInside := inductionHypothesis _ [] _ _ _ _ onwards fits_nil
          rw [Entries.set_of_none missing]
          exact fits.append missing (agrees_inline_iff.mpr ⟨areInside.ne_nil, fitsInside⟩)
      next standing held found =>
          split at done
          next => cases done
          next =>
              obtain ⟨⟨_, changed⟩, onwards, same⟩ := bind_eq_ok_iff.mp done
              cases same
              have present : entries.get? key ≠ none := by
                rw [found]
                exact Option.some_ne_none _
              have before := (agrees_inline_iff.mp (fits.agrees key _ found)).2
              refine fits.set _ present (agrees_inline_iff.mpr ⟨?_, ?_⟩) ?_
              · exact fun empty => areInside.ne_nil (List.append_eq_nil_iff.mp empty).2
              · exact inductionHypothesis _ _ _ _ _ _ onwards before
              · exact fun ⟨content, member⟩ => absurd member (areInside.deeper content)
      next => cases done

/-- A key with an item, and the key with what its value says. -/
def AgreePair (pair : KeyPath × Item) (said : KeyPath × List Binding) : Prop :=
  pair.1 = said.1 ∧ Agrees said.2 pair.2

theorem map_under_parts (key : KeyPath) (value : List Binding) :
    (value.map (·.under [key.last])).map (·.under key.path) = value.map (·.under key.parts) :=
  map_under_append key.path

/-- Keys with their values, one after the other, add what they say. -/
theorem fits_foldlM {pairs : List (KeyPath × Item)} {said : List (KeyPath × List Binding)}
    {bindings : List Binding} {entries after : Entries}
    (built : pairs.foldlM addInline entries = .ok after)
    (agree : List.Forall₂ AgreePair pairs said) (fits : Fits bindings entries) :
    Fits (bindings ++ said.flatMap fun pair => pair.2.map (·.under pair.1.parts)) after := by
  induction agree generalizing bindings entries with
  | nil =>
      cases built
      rwa [List.flatMap_nil, List.append_nil]
  | @cons pair boundPair rest boundRest agrees _ inductionHypothesis =>
      obtain ⟨key, item⟩ := pair
      obtain ⟨key', value⟩ := boundPair
      obtain ⟨same, agrees⟩ := agrees
      cases same
      rw [List.foldlM_cons] at built
      obtain ⟨middle, first, built⟩ := bind_eq_ok_iff.mp built
      obtain ⟨⟨_, _⟩, first, same⟩ := bind_eq_ok_iff.mp first
      cases same
      have adds := adds_descendInline (areInside_under agrees.ne_nil key.last)
        (adds_addKey agrees (!key.path.isEmpty) none key.last) [] key.path
      rw [map_under_parts] at adds
      rw [List.flatMap_cons, ← List.append_assoc]
      exact inductionHypothesis built (adds _ _ _ _ _ first fits)

theorem fits_own : Fits [⟨[], .table⟩] [] where
  own := by
    intro content member
    cases List.mem_singleton.mp member
    rfl
  missing := fun _ _ => rfl
  ordered := List.Pairwise.nil
  agrees := fun _ _ found => by cases found

/-- A table in braces agrees with its bindings if its values do. -/
theorem agrees_inlineTable {pairs : List (KeyPath × Item)} {said : List (KeyPath × List Binding)}
    {item : Item} (built : inlineTable pairs = .ok item)
    (agree : List.Forall₂ AgreePair pairs said) : Agrees (inlineBindings said) item := by
  obtain ⟨entries, filled, same⟩ := bind_eq_ok_iff.mp built
  cases same
  exact agrees_inline_iff.mpr ⟨List.cons_ne_nil _ _, fits_foldlM filled agree fits_own⟩

end Inline

/-! ## One change after the other -/

section Sequence

variable {α β : Type} {first : Change α} {second : α → Change β} {walked path : List String}
  {standing : Standing} {entries after : Entries} {result : β}

/-- A change of a table and then another one, which may depend on the result of the first. -/
def Change.andThen (first : Change α) (second : α → Change β) : Change β :=
  fun standing entries => do
    let (value, middle) ← first standing entries
    second value standing middle

/-- Going along a path twice is going along it once and making both changes there. -/
theorem descend_andThen_eq_ok_iff :
    descend false (first.andThen second) walked path standing entries = .ok (result, after) ↔
      ∃ value middle, descend false first walked path standing entries = .ok (value, middle) ∧
        descend false (second value) walked path standing middle = .ok (result, after) := by
  induction path generalizing walked standing entries after with
  | nil =>
      refine bind_eq_ok_iff.trans ⟨?_, ?_⟩
      · rintro ⟨⟨value, middle⟩, done, last⟩
        exact ⟨value, middle, done, last⟩
      · rintro ⟨value, middle, done, last⟩
        exact ⟨⟨value, middle⟩, done, last⟩
  | cons key path inductionHypothesis =>
      constructor
      · intro done
        obtain ⟨inner, held, back, goesOn, changed, onwards, rfl⟩ := descend_cons_eq_ok_iff.mp done
        obtain ⟨value, middle, earlier, later⟩ := inductionHypothesis.mp onwards
        refine ⟨value, entries.set key (back middle),
          descend_cons_eq_ok_iff.mpr ⟨inner, held, back, goesOn, middle, earlier, rfl⟩,
          descend_cons_eq_ok_iff.mpr ⟨inner, middle, back, ?_, changed, later, Entries.set_set⟩⟩
        rw [Entries.get?_set_self, entrance_back goesOn]
      · rintro ⟨value, _, done, done'⟩
        obtain ⟨inner, held, back, goesOn, middle, earlier, rfl⟩ := descend_cons_eq_ok_iff.mp done
        obtain ⟨_, _, _, goesOn', changed, later, rfl⟩ := descend_cons_eq_ok_iff.mp done'
        rw [Entries.get?_set_self, entrance_back goesOn] at goesOn'
        cases goesOn'
        refine descend_cons_eq_ok_iff.mpr ⟨inner, held, back, goesOn, changed, ?_, ?_⟩
        · exact inductionHypothesis.mpr ⟨value, middle, earlier, later⟩
        · exact Entries.set_set.symm

end Sequence

/-! ## The open table -/

section Lines

variable {builder next : Builder} {above : List String} {last : String} {after : Entries}

theorem close_eq_ok_iff (path : builder.path = above ++ [last]) :
    builder.close = .ok after ↔
      descend false (builder.put last) [] above .defined builder.root = .ok ((), after) := by
  rw [Builder.close, path, List.getLast?_concat, List.dropLast_concat]
  refine bind_eq_ok_iff.trans ⟨?_, fun done => ⟨((), after), done, rfl⟩⟩
  rintro ⟨⟨_, root⟩, done, same⟩
  cases same
  exact done

/-- A change of the open table is a change of the closed one. -/
theorem put_andThen {change : Change Unit} {current : Entries}
    (done : change .defined builder.current = .ok ((), current)) :
    (builder.put last).andThen (fun _ => descend false change [] [last]) =
      { builder with current := current }.put last := by
  funext standing entries
  have table : descend false change [] [last] standing
      (entries.set last (.table .defined builder.current)) =
        .ok ((), entries.set last (.table .defined current)) := by
    refine descend_cons_eq_ok_iff.mpr ⟨_, _, _, ?_, current, done, Entries.set_set⟩
    rw [Entries.get?_set_self]
    rfl
  have tables (elements : List (List (String × Item))) : descend false change [] [last] standing
      (entries.set last (.tables (elements ++ [builder.current]))) =
        .ok ((), entries.set last (.tables (elements ++ [current]))) := by
    refine descend_cons_eq_ok_iff.mpr ⟨.defined, builder.current,
      fun changed => .tables (elements ++ [changed]), ?_, current, done, Entries.set_set⟩
    rw [Entries.get?_set_self]
    simp [entrance]
  cases element : builder.isElement with
  | false =>
      simp only [Change.andThen, Builder.put, element]
      exact table
  | true =>
      simp only [Change.andThen, Builder.put, element, if_true]
      split
      next elements _ => exact tables elements
      next => exact tables []

/-- A table that is written by itself later says no more than before. -/
theorem Fits.write {bindings : List Binding} {entries : Entries} (fits : Fits bindings entries) :
    Fits (bindings ++ [⟨[], .table⟩]) entries where
  own := by
    intro content member
    rcases List.mem_append.mp member with member | member
    · exact fits.own content member
    · cases List.mem_singleton.mp member
      rfl
  missing := by
    intro key missing
    rw [insideKey_append, fits.missing key missing]
    rfl
  ordered := by
    have same : ∀ key ∈ entries.keys, place (bindings ++ [⟨[], .table⟩]) key = place bindings key :=
      fun key member => place_append (fits.insideKey_ne_nil member) fun ⟨_, written⟩ => by
        cases List.mem_singleton.mp written
    refine fits.ordered.imp_of_mem fun first second order => ?_
    rwa [same _ first, same _ second]
  agrees := by
    intro key item found
    rw [insideKey_append]
    exact (List.append_nil (insideKey key bindings)).symm ▸ fits.agrees key item found

/-- A table with a header of its own comes last among those around it. -/
theorem adds_take (root : Entries) (path : List String) (last : String) :
    Adds ((Builder.take path last).andThen fun current =>
      Builder.put ⟨root, current, path, false⟩ last) [⟨[last], .table⟩] := by
  intro bindings standing entries result after done fits
  obtain ⟨⟨current, rest⟩, taken, put⟩ := bind_eq_ok_iff.mp done
  cases put
  rw [Builder.take] at taken
  split at taken
  next missing =>
      cases taken
      rw [Entries.set_of_none missing]
      refine fits.append missing (agrees_table_iff.mpr ⟨List.cons_ne_nil _ _, ?_, fits_own⟩)
      exact fun implied => by cases implied
  next held found =>
      cases taken
      obtain ⟨_, bare, fitsInside⟩ := agrees_table_iff.mp (fits.agrees last _ found)
      rw [Entries.set_of_none Entries.get?_erase_self]
      refine fits.renew [⟨[], .table⟩] ?_ (.inr ⟨.table, List.mem_singleton_self _⟩)
        (agrees_table_iff.mpr ⟨?_, nofun, fitsInside.write⟩)
      · intro written
        obtain ⟨content, member⟩ := isWritten_iff.mp written
        exact bare rfl content member
      · exact List.append_ne_nil_of_right_ne_nil _ (List.cons_ne_nil _ _)
  next => cases taken

/-- A header in double brackets tells that there are such tables, and nothing more. -/
theorem adds_reserve (root : Entries) (path : List String) (last : String) :
    Adds ((Builder.reserve path last).andThen fun _ => Builder.put ⟨root, [], path, true⟩ last)
      [⟨[last], .tables⟩] := by
  intro bindings standing entries result after done fits
  obtain ⟨⟨_, rest⟩, reserved, put⟩ := bind_eq_ok_iff.mp done
  have only (content : Content) :
      ⟨[], content⟩ ∈ [(⟨[], .tables⟩ : Binding)] ↔ content = .tables := by
    simp
  rw [Builder.reserve] at reserved
  split at reserved
  next missing =>
      cases reserved
      simp only [Builder.put, if_true, Entries.get?_set_self, Entries.set_set] at put
      cases put
      rw [Entries.set_of_none missing]
      exact fits.append missing (agrees_tables_iff.mpr only)
  next elements found =>
      cases reserved
      simp only [Builder.put, if_true, found] at put
      cases put
      have before := agrees_tables_iff.mp (fits.agrees last _ found)
      refine fits.set [⟨[], .tables⟩] ?_ (agrees_tables_iff.mpr fun content => ?_) ?_
      · rw [found]
        exact Option.some_ne_none _
      · rw [List.mem_append, before, only, or_self]
      · exact fun _ => isWritten_iff.mpr ⟨.tables, (before .tables).mpr rfl⟩
  next => cases reserved

/-- A builder has made of a document what its bindings say. -/
structure Builds (builder : Builder) (sheet : Sheet) : Prop where
  path : builder.path = sheet.header
  ne_nil : sheet.bindings ≠ []
  fits : ∀ entries, builder.close = .ok entries → Fits sheet.bindings entries

variable {sheet : Sheet}

theorem builds_empty : Builds .empty Construction.bindings.empty where
  path := rfl
  ne_nil := List.cons_ne_nil _ _
  fits := by
    intro entries closed
    cases closed
    exact fits_own

/-- Adding a key to the open table. -/
theorem Builds.addPair {key : KeyPath} {item : Item} {value : List Binding}
    (builds : Builds builder sheet) (agrees : Agrees value item)
    (done : builder.addPair key item = .ok next) : Builds next (sheet.add key value) := by
  obtain ⟨⟨_, current⟩, changed, same⟩ := bind_eq_ok_iff.mp done
  cases same
  have areInside : AreInside (value.map (·.under key.parts)) := by
    rw [← map_under_parts]
    exact (areInside_under agrees.ne_nil key.last).under key.path
  have adds := adds_descend (areInside_under agrees.ne_nil key.last)
    (adds_addKey agrees (!key.path.isEmpty) (some builder.path) key.last) true [] key.path
  rw [map_under_parts] at adds
  refine ⟨builds.path, fun empty => builds.ne_nil (List.append_eq_nil_iff.mp empty).1, ?_⟩
  intro entries closed
  rw [Sheet.add, ← builds.path]
  rcases List.eq_nil_or_concat builder.path with root | ⟨above, last, path⟩
  · rw [Builder.close, root] at closed
    cases closed
    have before := builds.fits builder.current (by rw [Builder.close, root]; rfl)
    rw [root, List.nil_append]
    exact adds _ _ _ _ _ changed before
  · rw [List.concat_eq_append] at path
    have path' : ({ builder with current := current } : Builder).path = above ++ [last] := path
    rw [close_eq_ok_iff path', ← put_andThen changed, descend_andThen_eq_ok_iff] at closed
    obtain ⟨_, middle, earlier, later⟩ := closed
    have before := builds.fits middle ((close_eq_ok_iff path).mpr earlier)
    have adds := adds_descend (areInside.under [last])
      (adds_descend areInside adds false [] [last]) false [] above
    rw [map_under_append, map_under_append, ← path] at adds
    exact adds _ _ _ _ _ later before

/-- Opening the table of a header. -/
theorem Builds.openTable (builds : Builds builder sheet)
    (done : builder.openTable (above ++ [last]) last = .ok next) :
    Builds next (sheet.start (above ++ [last]) .table) := by
  obtain ⟨closed, close, done⟩ := bind_eq_ok_iff.mp done
  obtain ⟨⟨current, root⟩, taken, same⟩ := bind_eq_ok_iff.mp done
  cases same
  refine ⟨rfl, List.append_ne_nil_of_right_ne_nil _ (List.cons_ne_nil _ _), fun entries put => ?_⟩
  rw [List.dropLast_concat] at taken
  rw [close_eq_ok_iff rfl] at put
  have adds := adds_descend (areInside_under (List.cons_ne_nil ⟨[], .table⟩ []) last)
    (adds_take root (above ++ [last]) last) false [] above
  exact adds _ _ _ _ _ (descend_andThen_eq_ok_iff.mpr ⟨current, root, taken, put⟩)
    (builds.fits closed close)

/-- Opening one of the tables of a header in double brackets. -/
theorem Builds.openElement (builds : Builds builder sheet)
    (done : builder.openElement (above ++ [last]) last = .ok next) :
    Builds next (sheet.start (above ++ [last]) .tables) := by
  obtain ⟨closed, close, done⟩ := bind_eq_ok_iff.mp done
  obtain ⟨⟨_, root⟩, reserved, same⟩ := bind_eq_ok_iff.mp done
  cases same
  refine ⟨rfl, List.append_ne_nil_of_right_ne_nil _ (List.cons_ne_nil _ _), fun entries put => ?_⟩
  rw [List.dropLast_concat] at reserved
  rw [close_eq_ok_iff rfl] at put
  have adds := adds_descend (areInside_under (List.cons_ne_nil ⟨[], .tables⟩ []) last)
    (adds_reserve root (above ++ [last]) last) false [] above
  exact adds _ _ _ _ _ (descend_andThen_eq_ok_iff.mpr ⟨(), root, reserved, put⟩)
    (builds.fits closed close)

end Lines

end Toml
end Instrument
