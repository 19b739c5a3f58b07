import Instrument.Toml.Read
import Mathlib.Data.List.Basic
import Mathlib.Order.WellFounded

/-!
# What a document says at each path

A document can also be read without building tables.  What is left is a list of bindings: each says
that something is written at a path of keys, counted from the root of the document.  A binding does
not tell how its path was divided among headers, dots, quotes and braces, and nothing is put
together or refused.

What a document says at a path is then a matter of this list alone.  Something is said there that is
written there, and there is a table wherever something is written further inside.  What stands
behind a header in double brackets belongs to one of several tables with the same path, so it is
said at no path.  A key of a table comes where it is written itself, by a header of its own or with
a value, and only if it never is, where something inside it is first written.
-/

namespace Instrument
namespace Toml

/-- What is written at a path, without what is inside it. -/
inductive Content where
  | scalar (value : Scalar)
  | array
  | table
  | tables
deriving DecidableEq, Repr

/-- Something is written at a path. -/
structure Binding where
  path : List String
  content : Content
deriving DecidableEq, Repr

namespace Binding

/-- The binding as it is seen from further out. -/
def under (above : List String) (binding : Binding) : Binding :=
  ⟨above ++ binding.path, binding.content⟩

/-- The binding as it is seen from inside a key, if it stands there. -/
def inside? (key : String) : Binding → Option Binding
  | ⟨first :: path, content⟩ => if first == key then some ⟨path, content⟩ else none
  | ⟨[], _⟩ => none

end Binding

/-- All parts of a key. -/
def KeyPath.parts (key : KeyPath) : List String :=
  key.path ++ [key.last]

/-! ## Reading without building -/

/-- A document as it is written. -/
structure Sheet where
  /-- The path in the last header, or nothing in front of the first. -/
  header : List String
  bindings : List Binding

namespace Sheet

/-- Write a key and what its value says. -/
def add (sheet : Sheet) (key : KeyPath) (value : List Binding) : Sheet :=
  { sheet with bindings := sheet.bindings ++ value.map (·.under (sheet.header ++ key.parts)) }

/-- Write a header. -/
def start (sheet : Sheet) (path : List String) (content : Content) : Sheet :=
  ⟨path, sheet.bindings ++ [⟨path, content⟩]⟩

end Sheet

/-- The bindings of a table in braces. -/
def inlineBindings (pairs : List (KeyPath × List Binding)) : List Binding :=
  ⟨[], .table⟩ :: pairs.flatMap fun pair => pair.2.map (·.under pair.1.parts)

/-- A value says something at paths that start at the value itself, and a document at paths that
start at its root. -/
def Construction.bindings : Construction (List Binding) Sheet where
  scalar := fun value => [⟨[], .scalar value⟩]
  array := fun _ => [⟨[], .array⟩]
  inline := fun pairs => .ok (inlineBindings pairs)
  empty := ⟨[], [⟨[], .table⟩]⟩
  addPair := fun sheet key value => .ok (sheet.add key value)
  openTable := fun sheet path _ => .ok (sheet.start path .table)
  openElement := fun sheet path _ => .ok (sheet.start path .tables)

/-- The bindings of a text in the order in which they are written. -/
def readBindings (text : String) : Except Failure (List Binding) :=
  match document Construction.bindings text.toList with
  | .error failure => .error failure
  | .ok (sheet, _) => .ok sheet.bindings

/-! ## What bindings say -/

/-- A path leads through the tables of a header in double brackets. -/
def IsHidden (bindings : List Binding) (path : List String) : Prop :=
  ∃ above, above <+: path ∧ above ≠ path ∧ ⟨above, .tables⟩ ∈ bindings

/-- What bindings say at a path. -/
inductive Holds (bindings : List Binding) : List String → Content → Prop
  | written {path : List String} {content : Content} (member : ⟨path, content⟩ ∈ bindings)
      (visible : ¬ IsHidden bindings path) : Holds bindings path content
  | around {path inside : List String} {key : String} {content : Content}
      (member : ⟨path ++ key :: inside, content⟩ ∈ bindings)
      (visible : ¬ IsHidden bindings (path ++ key :: inside)) : Holds bindings path .table

/-- What is written inside a key. -/
def insideKey (key : String) (bindings : List Binding) : List Binding :=
  bindings.filterMap (Binding.inside? key)

/-- What is written inside a path. -/
def inside : List String → List Binding → List Binding
  | [], bindings => bindings
  | key :: path, bindings => inside path (insideKey key bindings)

/-- A key is written by itself. -/
def IsWritten (bindings : List Binding) (key : String) : Prop :=
  ∃ content, ⟨[key], content⟩ ∈ bindings

/-- Where a key comes among the keys of a table. -/
def place (bindings : List Binding) (key : String) : Nat :=
  match bindings.findIdx? fun binding => binding.path == [key] with
  | some index => index
  | none => bindings.findIdx fun binding => binding.path.head? == some key

/-! ## Bindings inside a key -/

section Inside

variable {key other : String} {bindings added : List Binding} {path : List String}
  {content : Content}

theorem mem_insideKey_iff : ⟨path, content⟩ ∈ insideKey key bindings ↔
    ⟨key :: path, content⟩ ∈ bindings := by
  rw [insideKey, List.mem_filterMap]
  constructor
  · rintro ⟨⟨path', content'⟩, member, found⟩
    cases path' with
    | nil => cases found
    | cons first rest =>
        rw [Binding.inside?] at found
        split at found
        next same =>
            cases eq_of_beq same
            cases found
            exact member
        next => cases found
  · intro member
    exact ⟨_, member, if_pos (beq_self_eq_true key)⟩

theorem isWritten_iff :
    IsWritten bindings key ↔ ∃ content, ⟨[], content⟩ ∈ insideKey key bindings :=
  exists_congr fun _ => mem_insideKey_iff.symm

@[simp] theorem insideKey_append :
    insideKey key (bindings ++ added) = insideKey key bindings ++ insideKey key added :=
  List.filterMap_append

@[simp] theorem insideKey_map_under :
    insideKey key (bindings.map (·.under (key :: path))) = bindings.map (·.under path) := by
  rw [insideKey, List.filterMap_map, ← List.filterMap_eq_map]
  refine List.filterMap_congr fun binding _ => ?_
  exact if_pos (beq_self_eq_true key)

theorem insideKey_map_under_of_ne (different : key ≠ other) :
    insideKey other (bindings.map (·.under (key :: path))) = [] := by
  rw [insideKey, List.filterMap_map, List.filterMap_eq_nil_iff]
  intro binding _
  exact if_neg fun same => different (eq_of_beq same)

theorem map_under_nil : bindings.map (·.under []) = bindings :=
  List.map_id bindings

theorem map_under_append (above : List String) :
    (bindings.map (·.under path)).map (·.under above) =
      bindings.map (·.under (above ++ path)) := by
  rw [List.map_map]
  refine List.map_congr_left fun binding _ => ?_
  rw [Function.comp_apply, Binding.under, Binding.under, Binding.under, List.append_assoc]

theorem inside_append_path (above : List String) :
    inside (above ++ path) bindings = inside path (inside above bindings) := by
  induction above generalizing bindings with
  | nil => rfl
  | cons first rest inductionHypothesis => exact inductionHypothesis

end Inside

/-! ## What is held inside a key -/

section Holds

variable {key : String} {path : List String} {bindings : List Binding} {content : Content}

theorem not_isHidden_of_forall (single : ∀ binding ∈ bindings, binding.content ≠ .tables)
    (path : List String) : ¬ IsHidden bindings path :=
  fun ⟨_, _, _, member⟩ => single _ member rfl

theorem not_isHidden_nil : ¬ IsHidden bindings [] := by
  rintro ⟨above, within, different, _⟩
  exact different (List.prefix_nil.mp within)

theorem isHidden_cons_iff : IsHidden bindings (key :: path) ↔
    ⟨[], .tables⟩ ∈ bindings ∨ IsHidden (insideKey key bindings) path := by
  constructor
  · rintro ⟨above, within, different, member⟩
    cases above with
    | nil => exact .inl member
    | cons first above =>
        obtain ⟨rfl, inside⟩ := List.cons_prefix_cons.mp within
        refine .inr ⟨above, inside, fun same => different ?_, mem_insideKey_iff.mpr member⟩
        rw [same]
  · rintro (member | ⟨above, within, different, member⟩)
    · exact ⟨[], List.nil_prefix, (List.cons_ne_nil key path).symm, member⟩
    · refine ⟨key :: above, List.cons_prefix_cons.mpr ⟨rfl, within⟩, fun same => different ?_,
        mem_insideKey_iff.mp member⟩
      exact List.tail_eq_of_cons_eq same

theorem not_holds_nil : ¬ Holds [] path content := by
  intro holds
  cases holds with
  | written member _ => cases member
  | around member _ => cases member

/-- What holds at a path holds inside its first key, unless this key belongs to one of several
tables. -/
theorem holds_cons_iff : Holds bindings (key :: path) content ↔
    ⟨[], .tables⟩ ∉ bindings ∧ Holds (insideKey key bindings) path content := by
  have visible_iff (path : List String) : ¬ IsHidden bindings (key :: path) ↔
      ⟨[], .tables⟩ ∉ bindings ∧ ¬ IsHidden (insideKey key bindings) path := by
    rw [isHidden_cons_iff, not_or]
  constructor
  · intro holds
    cases holds with
    | written member visible =>
        obtain ⟨single, visible⟩ := (visible_iff path).mp visible
        exact ⟨single, .written (mem_insideKey_iff.mpr member) visible⟩
    | around member visible =>
        obtain ⟨single, visible⟩ := (visible_iff _).mp visible
        exact ⟨single, .around (mem_insideKey_iff.mpr member) visible⟩
  · rintro ⟨single, holds⟩
    cases holds with
    | written member visible =>
        exact .written (mem_insideKey_iff.mp member) ((visible_iff path).mpr ⟨single, visible⟩)
    | around member visible =>
        have behind := mem_insideKey_iff.mp member
        rw [← List.cons_append] at behind
        exact .around behind ((visible_iff _).mpr ⟨single, visible⟩)

/-- Where anything is written inside a table, there is a table. -/
theorem holds_table (own : ∀ content, ⟨[], content⟩ ∈ bindings → content = .table)
    (some : bindings ≠ []) : Holds bindings [] .table := by
  -- A binding with a shortest path cannot be behind another one.
  obtain ⟨⟨path, content⟩, member, shortest⟩ :=
    (measure fun binding : Binding => binding.path.length).wf.has_min
      {binding | binding ∈ bindings} (List.exists_mem_of_ne_nil bindings some)
  have visible : ¬ IsHidden bindings path := by
    rintro ⟨above, within, different, member⟩
    refine shortest ⟨above, .tables⟩ member ?_
    exact lt_of_le_of_ne within.length_le fun same => different (within.eq_of_length same)
  cases path with
  | nil =>
      cases own content member
      exact .written member visible
  | cons key path => exact .around member visible

end Holds

/-! ## The place of a key -/

section Place

variable {key : String} {bindings added : List Binding}

theorem exists_head_of_insideKey (mentioned : insideKey key bindings ≠ []) :
    ∃ binding ∈ bindings, (binding.path.head? == some key) = true := by
  obtain ⟨⟨path, content⟩, member⟩ := List.exists_mem_of_ne_nil _ mentioned
  exact ⟨_, mem_insideKey_iff.mp member, beq_self_eq_true (some key)⟩

theorem head_ne_of_insideKey (unmentioned : insideKey key bindings = []) :
    ∀ binding ∈ bindings, (binding.path.head? == some key) = false := by
  rintro ⟨path, content⟩ member
  cases path with
  | nil => rfl
  | cons first rest =>
      refine beq_eq_false_iff_ne.mpr fun same => ?_
      cases Option.some.inj same
      have found := mem_insideKey_iff.mpr member
      rw [unmentioned] at found
      cases found

theorem findIdx?_eq_none_of_not_isWritten (unwritten : ¬ IsWritten bindings key) :
    bindings.findIdx? (fun binding => binding.path == [key]) = none := by
  refine List.findIdx?_eq_none_iff.mpr fun binding member => ?_
  refine beq_eq_false_iff_ne.mpr fun same => unwritten ⟨binding.content, ?_⟩
  rwa [← same]

theorem exists_findIdx?_of_isWritten (written : IsWritten bindings key) :
    ∃ index, bindings.findIdx? (fun binding => binding.path == [key]) = some index := by
  obtain ⟨content, member⟩ := written
  refine Option.isSome_iff_exists.mp ?_
  rw [List.findIdx?_isSome, List.any_eq_true]
  exact ⟨_, member, beq_self_eq_true [key]⟩

theorem place_lt_length (mentioned : insideKey key bindings ≠ []) :
    place bindings key < bindings.length := by
  rw [place]
  split
  next index found => exact (List.findIdx?_eq_some_iff_findIdx_eq.mp found).1
  next => exact List.findIdx_lt_length_of_exists (exists_head_of_insideKey mentioned)

/-- What is written later does not move a key, unless the key is only now written by itself. -/
theorem place_append (mentioned : insideKey key bindings ≠ [])
    (settled : IsWritten added key → IsWritten bindings key) :
    place (bindings ++ added) key = place bindings key := by
  have head := List.findIdx_lt_length_of_exists (exists_head_of_insideKey mentioned)
  by_cases written : IsWritten bindings key
  · obtain ⟨index, found⟩ := exists_findIdx?_of_isWritten written
    rw [place, place, List.findIdx?_append, found]
    rfl
  · have unwritten := findIdx?_eq_none_of_not_isWritten written
    have later := findIdx?_eq_none_of_not_isWritten fun now => written (settled now)
    rw [place, place, List.findIdx?_append, unwritten, later, List.findIdx_append, if_pos head]
    rfl

/-- A key that is only now mentioned, or only now written by itself, comes last. -/
theorem length_le_place_append (unwritten : ¬ IsWritten bindings key)
    (fresh : insideKey key bindings = [] ∨ IsWritten added key) :
    bindings.length ≤ place (bindings ++ added) key := by
  rw [place, List.findIdx?_append, findIdx?_eq_none_of_not_isWritten unwritten, Option.none_or]
  by_cases written : IsWritten added key
  · obtain ⟨index, found⟩ := exists_findIdx?_of_isWritten written
    rw [found]
    exact Nat.le_add_left _ _
  · have unmentioned := fresh.resolve_right written
    have absent : bindings.findIdx (fun binding => binding.path.head? == some key) =
        bindings.length := List.findIdx_eq_length.mpr (head_ne_of_insideKey unmentioned)
    rw [findIdx?_eq_none_of_not_isWritten written, Option.map_none]
    dsimp only
    rw [List.findIdx_append, absent, if_neg (Nat.lt_irrefl _)]
    exact Nat.le_add_left _ _

end Place

end Toml
end Instrument
