import Instrument.Project.Staging
import Instrument.Proofs.Files.Walking
import Instrument.Proofs.Files.Writing
import Mathlib.Data.List.Forall2

/-!
# Staging, one visit after the other

Staging goes through the visits of a walk.  A directory is made for each directory, and a file is
written for each file: the same bytes, or the instrumented text if the file mentions the marker.  As
long as the walk comes to every entry once, and to a directory before what it holds, nothing is
overwritten and nothing gets lost.
-/

namespace Instrument
namespace Project

open Files (Entry FileTree Location Shape IsName)
open Walk (Visit Ordered Covers)

/-! ## Single files -/

/-- What becomes of a file: it is copied, unless it is program text that mentions the marker. -/
inductive Treats (kind : MarkerKind) (policy : MarkerPolicy) (path : List String)
    (original : ByteArray) : StagedFile → Prop
  | copies (unmarked : Files.isSourcePath path = true → ∃ text,
      FileTree.decode original = .ok text ∧ mentions kind text = false) :
      Treats kind policy path original ⟨original, none⟩
  | instruments {text source : String} {file : SourceFile}
      (isSource : Files.isSourcePath path = true)
      (decoded : FileTree.decode original = .ok text) (mentioned : mentions kind text = true)
      (parsed : SourceFile.parse text = .ok file)
      (rendered : (file.instrument kind policy).render? text = some source) :
      Treats kind policy path original
        ⟨source.toUTF8, some ⟨path, (file.instrument kind policy).instrumented,
          (file.instrument kind policy).skipped, (kind.scan file.tree).ignored⟩⟩

variable {kind : MarkerKind} {policy : MarkerPolicy}

theorem stageMarked_result_eq_ok_iff {path : List String} {text : String} {staged : StagedFile} :
    (stageMarked kind policy path text).result = .ok staged ↔
      ∃ file source, SourceFile.parse text = .ok file ∧
        (file.instrument kind policy).render? text = some source ∧
        staged = ⟨source.toUTF8, some ⟨path, (file.instrument kind policy).instrumented,
          (file.instrument kind policy).skipped, (kind.scan file.tree).ignored⟩⟩ := by
  rw [stageMarked]
  cases parsed : SourceFile.parse text with
  | error failure => simp
  | ok file =>
      simp only [Except.ok.injEq, exists_and_left, exists_eq_left']
      cases rendered : (file.instrument kind policy).render? text with
      | none => simp
      | some source => simp [eq_comm]

theorem treats_of_stageFile {path : List String} {original : ByteArray} {staged : StagedFile}
    (finished : (stageFile kind policy path original).result = .ok staged) :
    Treats kind policy path original staged := by
  rw [stageFile] at finished
  split at finished
  next isSource =>
    rw [stageSource] at finished
    split at finished
    next => cases finished
    next text decoded =>
      split at finished
      next mentioned =>
        rcases stageMarked_result_eq_ok_iff.mp finished with ⟨file, source, parsed, rendered, rfl⟩
        exact .instruments isSource decoded mentioned parsed rendered
      next unmentioned =>
        cases finished
        exact .copies fun _ => ⟨text, decoded, Bool.eq_false_iff.mpr unmentioned⟩
  next noSource =>
    cases finished
    exact .copies fun isSource => absurd isSource noSource

theorem Treats.result_eq {path : List String} {original : ByteArray} {staged : StagedFile}
    (treats : Treats kind policy path original staged) :
    (stageFile kind policy path original).result = .ok staged := by
  cases treats with
  | copies unmarked =>
      rw [stageFile]
      split
      next isSource =>
        rcases unmarked isSource with ⟨text, decoded, unmentioned⟩
        rw [stageSource, decoded]
        dsimp only
        rw [unmentioned, if_neg (by simp)]
      next => rfl
  | instruments isSource decoded mentioned parsed rendered =>
      rw [stageFile, if_pos isSource, stageSource, decoded]
      dsimp only
      rw [if_pos mentioned]
      exact stageMarked_result_eq_ok_iff.mpr ⟨_, _, parsed, rendered, rfl⟩

theorem stageFile_result_eq_ok_iff {path : List String} {original : ByteArray}
    {staged : StagedFile} :
    (stageFile kind policy path original).result = .ok staged ↔
      Treats kind policy path original staged :=
  ⟨treats_of_stageFile, Treats.result_eq⟩

theorem Treats.unique {path : List String} {original : ByteArray} {first second : StagedFile}
    (treats : Treats kind policy path original first)
    (treats' : Treats kind policy path original second) : first = second := by
  have same := treats.result_eq
  rw [treats'.result_eq] at same
  exact (Except.ok.inj same).symm

theorem Treats.path_of_report {path : List String} {original : ByteArray} {staged : StagedFile}
    (treats : Treats kind policy path original staged) {report : FileReport}
    (reported : staged.report = some report) : report.path = path := by
  cases treats with
  | copies unmarked => cases reported
  | instruments isSource decoded mentioned parsed rendered =>
      cases reported
      rfl

/-! ## Counterparts below the output -/

/-- Below the output there is what was placed there, and elsewhere nothing has changed. -/
structure Mirrors (made : FileTree) (out : Location) (placed : List (List String × Shape))
    (tree : FileTree) : Prop where
  sound : tree.IsSound
  inside : ∀ path ∈ placed.map Prod.fst, path ≠ []
  below : ∀ path, path ≠ [] → ∀ shape,
    tree.shape? (out ++ path) = some shape ↔ (path, shape) ∈ placed
  elsewhere : ∀ location, (∀ path, path ≠ [] → location ≠ out ++ path) →
    tree.shape? location = made.shape? location

namespace Mirrors

variable {made tree : FileTree} {out : Location} {placed : List (List String × Shape)}
  {above : List String} {name : String}

theorem start (sound : made.IsSound) (empty : made.at? out = some (.directory [])) :
    Mirrors made out [] made := by
  refine ⟨sound, fun _ member => (by cases member), fun path inside shape => ?_, fun _ _ => rfl⟩
  rw [FileTree.shape?_of_empty empty inside]
  simp

theorem shape?_out (mirrors : Mirrors made out placed tree)
    (holds : made.shape? out = some .directory) : tree.shape? out = some .directory := by
  rw [mirrors.elsewhere out fun path inside same => inside (List.self_eq_append_right.mp same),
    holds]

theorem shape?_of_new (mirrors : Mirrors made out placed tree) {path : List String}
    (inside : path ≠ []) (new : path ∉ placed.map Prod.fst) : tree.shape? (out ++ path) = none := by
  cases there : tree.shape? (out ++ path) with
  | none => rfl
  | some shape =>
      have member := (mirrors.below path inside shape).mp there
      exact absurd (List.mem_map.mpr ⟨_, member, rfl⟩) new

/-- A directory that is the output or has been placed is there. -/
theorem shape?_of_known (mirrors : Mirrors made out placed tree)
    (holds : made.shape? out = some .directory)
    (known : above = [] ∨ (above, Shape.directory) ∈ placed) :
    tree.shape? (out ++ above) = some .directory := by
  rcases known with rfl | known
  · rw [List.append_nil]
    exact mirrors.shape?_out holds
  · have inside := mirrors.inside above (List.mem_map.mpr ⟨_, known, rfl⟩)
    exact (mirrors.below above inside .directory).mpr known

/-- One more counterpart is put into a directory that is the output or has been placed. -/
theorem put (mirrors : Mirrors made out placed tree) (holds : made.shape? out = some .directory)
    (known : above = [] ∨ (above, Shape.directory) ∈ placed) (isName : IsName name)
    (new : above ++ [name] ∉ placed.map Prod.fst) {entry : Entry} (bare : entry.IsBare)
    (sound : entry.IsSound) :
    Mirrors made out (placed ++ [(above ++ [name], entry.shape)])
      (tree.put (out ++ (above ++ [name])) entry) := by
  have inside : above ++ [name] ≠ [] := by simp
  have holder := mirrors.shape?_of_known holds known
  have free : tree.shape? (out ++ above ++ [name]) = none := by
    rw [List.append_assoc]
    exact mirrors.shape?_of_new inside new
  have shapes (location : Location) :
      (tree.put (out ++ (above ++ [name])) entry).shape? location =
        if location = out ++ (above ++ [name]) then some entry.shape else tree.shape? location := by
    rw [← List.append_assoc]
    exact FileTree.shape?_put holder free bare location
  -- There was nothing at the new place, and at every other place nothing changes.
  constructor
  · rw [← List.append_assoc]
    exact mirrors.sound.put isName sound holder (fun found => by cases free.symm.trans found) bare
  · intro path member
    rw [List.map_append, List.mem_append] at member
    rcases member with member | member
    · exact mirrors.inside path member
    · cases List.mem_singleton.mp member
      exact inside
  · intro path inside' shape
    rw [shapes, List.mem_append, List.mem_singleton]
    by_cases same : path = above ++ [name]
    · subst same
      rw [if_pos rfl]
      constructor
      · intro found
        cases found
        exact .inr rfl
      · rintro (member | found)
        · exact absurd (List.mem_map.mpr ⟨_, member, rfl⟩) new
        · cases found
          rfl
    · rw [if_neg fun same' => same (List.append_cancel_left same'), mirrors.below path inside']
      constructor
      · exact .inl
      · rintro (member | found)
        · exact member
        · cases found
          exact absurd rfl same
  · intro location away
    rw [shapes, if_neg (away _ inside)]
    exact mirrors.elsewhere location away

end Mirrors

/-! ## One visit after the other -/

/-- A counterpart that was made: where it is, what it is, and what is reported about it. -/
structure Placement where
  path : List String
  shape : Shape
  report : Option FileReport

namespace Placement

/-- Where the counterpart is, and what it is. -/
def counterpart (placement : Placement) : List String × Shape :=
  (placement.path, placement.shape)

/-- Whether the counterpart is a file that was copied. -/
def isCopy (placement : Placement) : Bool :=
  match placement.shape, placement.report with
  | .file _, none => true
  | _, _ => false

end Placement

/-- What a visit of the walk leads to. -/
inductive Places (kind : MarkerKind) (policy : MarkerPolicy) : Visit → Placement → Prop
  | directory (path : List String) :
      Places kind policy (.directory path) ⟨path, .directory, none⟩
  | file {path : List String} {original : ByteArray} {staged : StagedFile}
      (treats : Treats kind policy path original staged) :
      Places kind policy (.file path original) ⟨path, .file staged.content, staged.report⟩

theorem Places.path_eq {visit : Visit} {placement : Placement}
    (places : Places kind policy visit placement) : placement.path = visit.path := by
  cases places <;> rfl

theorem Places.shape_eq {visit : Visit} {placement : Placement}
    (places : Places kind policy visit placement) (path : List String)
    (same : visit = .directory path) : placement.shape = .directory := by
  cases places with
  | directory path => rfl
  | file treats => cases same

/-- What a walk hands over to staging: proper names, each once and behind the directory above. -/
structure IsItinerary (placed : List (List String × Shape)) (visits : List Visit) : Prop where
  known : Ordered (fun path => path = [] ∨ (path, Shape.directory) ∈ placed) visits
  named : ∀ visit ∈ visits, ∃ above name, visit.path = above ++ [name] ∧ IsName name
  distinct : (placed.map Prod.fst ++ visits.map Visit.path).Nodup
  noLinks : ∀ path, Visit.link path ∉ visits

namespace IsItinerary

variable {placed : List (List String × Shape)} {visit : Visit} {rest : List Visit}

theorem not_mem (itinerary : IsItinerary placed (visit :: rest)) :
    visit.path ∉ placed.map Prod.fst := fun member =>
  (List.nodup_append.mp itinerary.distinct).2.2 _ member _ (.head _) rfl

/-- Behind a visit the walk goes on with its counterpart in place. -/
theorem tail (itinerary : IsItinerary placed (visit :: rest)) {shape : Shape}
    (same : ∀ path, visit = .directory path → shape = .directory) :
    IsItinerary (placed ++ [(visit.path, shape)]) rest where
  known := itinerary.known.2.mono fun path known => by
    rcases known with (none | member) | directory
    · exact .inl none
    · exact .inr (List.mem_append_left _ member)
    · subst directory
      rw [same path rfl]
      exact .inr (by simp [Visit.path])
  named := fun other member => itinerary.named other (.tail _ member)
  distinct := by
    have distinct := itinerary.distinct
    rw [List.map_cons, List.append_cons] at distinct
    rw [List.map_append]
    exact distinct
  noLinks := fun path member => itinerary.noLinks path (.tail _ member)

theorem tail_of_places {placements : List Placement} {placement : Placement}
    (itinerary : IsItinerary (placements.map Placement.counterpart) (visit :: rest))
    (places : Places kind policy visit placement) :
    IsItinerary ((placements ++ [placement]).map Placement.counterpart) rest := by
  have behind := itinerary.tail (places.shape_eq)
  rw [← places.path_eq] at behind
  rw [List.map_append]
  exact behind

end IsItinerary

/-- What staging has done so far: the tree holds the counterparts made, and all of them are accounted
for, the last report first. -/
structure Accounts (made : FileTree) (out : Location) (placements : List Placement)
    (progress : Progress) : Prop where
  mirrors : Mirrors made out (placements.map Placement.counterpart) progress.tree
  reports : progress.reports = (placements.filterMap Placement.report).reverse
  copied : progress.copied = placements.countP Placement.isCopy

namespace Accounts

variable {made : FileTree} {out : Location} {placements : List Placement} {progress : Progress}
  {above : List String} {name : String}

theorem start (sound : made.IsSound) (empty : made.at? out = some (.directory [])) :
    Accounts made out [] ⟨made, [], [], 0⟩ :=
  ⟨.start sound empty, rfl, rfl⟩

theorem shape?_of_new (accounts : Accounts made out placements progress)
    (new : above ++ [name] ∉ (placements.map Placement.counterpart).map Prod.fst) :
    progress.tree.shape? (out ++ above ++ [name]) = none := by
  rw [List.append_assoc]
  exact accounts.mirrors.shape?_of_new (List.append_ne_nil_of_right_ne_nil _ (by simp)) new

theorem addDirectory (accounts : Accounts made out placements progress)
    (holds : made.shape? out = some .directory)
    (known : above = [] ∨ (above, Shape.directory) ∈ placements.map Placement.counterpart)
    (isName : IsName name)
    (new : above ++ [name] ∉ (placements.map Placement.counterpart).map Prod.fst) :
    ∃ next, progress.addDirectory out (above ++ [name]) = .ok next ∧
      Accounts made out (placements ++ [⟨above ++ [name], .directory, none⟩]) next := by
  have holder := accounts.mirrors.shape?_of_known holds known
  have makes := FileTree.makeDirectory_of_free accounts.mirrors.sound holder isName.1
    (accounts.shape?_of_new new)
  rw [Progress.addDirectory, makes, List.append_assoc]
  refine ⟨_, rfl, ?_, ?_, ?_⟩
  · rw [List.map_append]
    exact accounts.mirrors.put holds known isName new Entry.isBare_directory
      Entry.isSound_directory
  · rw [List.filterMap_append, accounts.reports]
    simp
  · rw [List.countP_append, accounts.copied]
    rfl

theorem addFile (accounts : Accounts made out placements progress)
    (holds : made.shape? out = some .directory)
    (known : above = [] ∨ (above, Shape.directory) ∈ placements.map Placement.counterpart)
    (isName : IsName name)
    (new : above ++ [name] ∉ (placements.map Placement.counterpart).map Prod.fst)
    (log : List LogEvent) (file : StagedFile) :
    ∃ next, progress.addFile out (above ++ [name]) log file = .ok next ∧
      Accounts made out
        (placements ++ [⟨above ++ [name], .file file.content, file.report⟩]) next := by
  have holder := accounts.mirrors.shape?_of_known holds known
  have writes := @FileTree.writeFrom_of_free _ _ _ _ file.content accounts.mirrors.sound holder
    isName.1 (accounts.shape?_of_new new)
  rw [Progress.addFile, writes, List.append_assoc]
  refine ⟨_, rfl, ?_, ?_, ?_⟩
  · rw [List.map_append]
    exact accounts.mirrors.put holds known isName new (Entry.isBare_file file.content)
      (Entry.isSound_file file.content)
  · rw [List.filterMap_append, List.reverse_append, accounts.reports]
    cases file.report <;> simp
  · rw [List.countP_append, accounts.copied]
    cases file.report <;> simp [Placement.isCopy]

/-- One visit either gets its counterpart, for which there is always room, or is a file that staging
cannot deal with. -/
theorem visit_cases (kind : MarkerKind) (policy : MarkerPolicy)
    (accounts : Accounts made out placements progress)
    (holds : made.shape? out = some .directory) {visit : Visit} {rest : List Visit}
    (itinerary : IsItinerary (placements.map Placement.counterpart) (visit :: rest)) :
    (∃ placement next, Places kind policy visit placement ∧
      Accounts made out (placements ++ [placement]) next ∧
      IsItinerary ((placements ++ [placement]).map Placement.counterpart) rest ∧
      stageVisit kind policy out progress visit = .ok next) ∨
    ∃ path original error changed, visit = .file path original ∧
      (stageFile kind policy path original).result = .error error ∧
      stageVisit kind policy out progress visit = .error changed ∧
      changed.result = .error error := by
  have new := itinerary.not_mem
  rcases itinerary.named visit (.head _) with ⟨above, name, same, isName⟩
  have known := itinerary.known.1
  rw [same, List.dropLast_concat] at known
  cases visit with
  | link path => exact absurd (.head _) (itinerary.noLinks path)
  | directory path =>
      change path = above ++ [name] at same
      subst same
      rcases accounts.addDirectory holds known isName new with ⟨next, added, further⟩
      have places : Places kind policy _ _ := .directory (above ++ [name])
      refine .inl ⟨_, next, places, further, itinerary.tail_of_places places, ?_⟩
      rw [stageVisit, added]
  | file path original =>
      change path = above ++ [name] at same
      subst same
      rw [stageVisit]
      cases staged : stageFile kind policy (above ++ [name]) original with
      | mk log result =>
          cases result with
          | error error =>
              exact .inr ⟨_, original, error, _, rfl, congrArg Logged.result staged, rfl, rfl⟩
          | ok file =>
              rcases accounts.addFile holds known isName new log file with ⟨next, added, further⟩
              have places : Places kind policy _ _ :=
                .file (treats_of_stageFile (congrArg Logged.result staged))
              refine .inl ⟨_, next, places, further, itinerary.tail_of_places places, ?_⟩
              dsimp only
              rw [added]

end Accounts

variable {made : FileTree} {out : Location}

/-- Staging that is not given up puts a counterpart in place for every visit; staging that is given
up leads to no report. -/
theorem visitAll_staging_cases (holds : made.shape? out = some .directory) {visits : List Visit}
    {progress : Progress} {placements : List Placement}
    (accounts : Accounts made out placements progress)
    (itinerary : IsItinerary (placements.map Placement.counterpart) visits) :
    (∃ further last, (staging kind policy out).visitAll progress visits = .ok last ∧
      List.Forall₂ (Places kind policy) visits further ∧
      Accounts made out (placements ++ further) last) ∨
    ∃ path original error changed, .file path original ∈ visits ∧
      (stageFile kind policy path original).result = .error error ∧
      (staging kind policy out).visitAll progress visits = .error changed ∧
      changed.result = .error error := by
  -- One visit after the other; the account of what has been made so far is the invariant.
  induction visits generalizing progress placements with
  | nil => exact .inl ⟨[], progress, rfl, .nil, by rw [List.append_nil]; exact accounts⟩
  | cons visit rest inductionHypothesis =>
      rcases accounts.visit_cases kind policy holds itinerary with
        ⟨placement, next, places, further, itinerary', goesOn⟩ |
        ⟨path, original, error, changed, rfl, unstaged, fails, same⟩
      · rw [Walk.Errand.visitAll_of_ok goesOn]
        rcases inductionHypothesis further itinerary' with
          ⟨placements', last, done, places', accounts'⟩ |
          ⟨path, original, error, changed, member, rest'⟩
        · refine .inl ⟨placement :: placements', last, done, .cons places places', ?_⟩
          rw [List.append_cons]
          exact accounts'
        · exact .inr ⟨path, original, error, changed, .tail _ member, rest'⟩
      · rw [Walk.Errand.visitAll_of_error fails]
        exact .inr ⟨path, original, error, changed, .head _, unstaged, rfl, same⟩

end Project
end Instrument
