import Instrument.Proofs.Genuine.Attributes
import Instrument.Proofs.Order.Places

/-!
# The order in which landmarks are read

A parser moves forward and reads each landmark once, so the landmarks of what it has read stand in
front of the cursor and in the order in which they were read.

`Reads` says this of a single parser: of places that were known before and are listed in order, and
of those that are added, the ones in the result are again listed in order.  As with other facts
about all rules, the facts about single steps are kept as instances, so that the proof about a rule
is a search among them that follows the text of the rule.
-/

namespace Instrument

open Instrument.Parser

set_option synthInstance.maxSize 1000000000

/-! ## Going forward -/

/-- Places that are listed in their order and lie in front of a position. -/
def Rising (places : List Nat) (position : Nat) : Prop :=
  (places ++ [position]).Pairwise (· < ·)

namespace Rising

variable {places : List Nat} {position : Nat}

theorem iff : Rising places position ↔
    places.Pairwise (· < ·) ∧ ∀ place ∈ places, place < position := by
  simp [Rising, List.pairwise_append]

theorem sublist {some : List Nat} (rising : Rising places position) (within : some.Sublist places) :
    Rising some position :=
  List.Pairwise.sublist (within.append_right [position]) rising

theorem mono {later : Nat} (rising : Rising places position) (forward : position ≤ later) :
    Rising places later := by
  rw [iff] at *
  exact ⟨rising.1, fun place member => Nat.lt_of_lt_of_le (rising.2 place member) forward⟩

end Rising

/-- No group that starts inside the group that is being read goes beyond its end. -/
def Source.Confines (source : Source) (cursor : Cursor) : Prop :=
  ∀ position, cursor.position ≤ position → position < cursor.limit →
    behindTrees source position 1 ≤ cursor.limit

/-- Of places that are known at one cursor, others are left at a later one that are in order if the
first ones were, with any places in front of them. -/
structure Follows (prior given : List Nat) (cursor behind : Cursor) : Prop where
  limit : behind.limit = cursor.limit
  forward : cursor.position ≤ behind.position
  inside : (∀ place ∈ prior, place < cursor.limit) → ∀ place ∈ given, place < cursor.limit
  rising : ∀ before, Rising (before ++ prior) cursor.position →
    Rising (before ++ given) behind.position

namespace Follows

variable {prior given : List Nat} {cursor middle behind : Cursor}

/-- Nothing is added to the places, and some may be forgotten. -/
theorem of_sublist (within : given.Sublist prior) (limit : behind.limit = cursor.limit)
    (forward : cursor.position ≤ behind.position) : Follows prior given cursor behind where
  limit := limit
  forward := forward
  inside known place member := known place (within.subset member)
  rising before rising := (rising.sublist (within.append_left before)).mono forward

theorem trans {needed found rest : List Nat} (within : (rest ++ needed).Sublist prior)
    (first : Follows needed found cursor middle)
    (second : Follows (rest ++ found) given middle behind) : Follows prior given cursor behind where
  limit := second.limit.trans first.limit
  forward := Nat.le_trans first.forward second.forward
  inside known := by
    have inRest (place : Nat) (member : place ∈ rest) : place < cursor.limit :=
      known place (within.subset (List.mem_append_left _ member))
    have inFound := first.inside fun place member =>
      known place (within.subset (List.mem_append_right _ member))
    rw [← first.limit] at inRest inFound ⊢
    exact second.inside (List.forall_mem_append.mpr ⟨inRest, inFound⟩)
  rising before rising := by
    have drawn := rising.sublist (within.append_left before)
    rw [← List.append_assoc] at drawn
    have added := first.rising (before ++ rest) drawn
    rw [List.append_assoc] at added
    exact second.rising before added

theorem confines {source : Source} (follows : Follows prior given cursor behind)
    (confines : source.Confines cursor) : source.Confines behind := by
  intro position start stop
  rw [follows.limit] at stop ⊢
  exact confines position (Nat.le_trans follows.forward start) stop

end Follows

/-- From places that are known in front of it on, a parser leads to the places in its result. -/
class Reads {α : Type} (source : Source) (prior : List Nat) (parser : Parser α)
    (given : α → List Nat) : Prop where
  ofReading : ∀ cursor value behind, source.Confines cursor →
    reading source cursor parser = .ok (value, behind) → Follows prior (given value) cursor behind

/-- What a parser of the grammar leads to, and from which places on. -/
class Takes {α : Type} (source : Source) (parser : Parser α) (needed : outParam (List Nat))
    (given : outParam (α → List Nat)) : Prop where
  reads : Reads source needed parser given

/-- What a step in a rule leads to, and which of the known places it leaves. -/
class Gives {α : Type} (source : Source) (prior : List Nat) (parser : Parser α)
    (rest : outParam (List Nat)) (given : outParam (α → List Nat)) : Prop where
  exists_reads : ∃ needed, (rest ++ needed).Sublist prior ∧ Reads source needed parser given

namespace Gives

variable {α : Type} {source : Source} {prior needed rest : List Nat} {parser : Parser α}
  {given : α → List Nat}

instance ofTakes [taken : Takes source parser needed given] [drawn : Draws prior needed rest] :
    Gives source prior parser rest given :=
  ⟨needed, drawn.sublist, taken.reads⟩

instance (priority := low) ofReads [HasPlaces α]
    [reads : Reads source [] parser source.placesIn] :
    Gives source prior parser prior source.placesIn :=
  ⟨[], by rw [List.append_nil], reads⟩

/-- A step may change what was read last. -/
instance (priority := low) ofReadsLast [HasPlaces α] {known : List Nat}
    [reads : Reads source known parser source.placesIn] :
    Gives source (prior ++ known) parser prior source.placesIn :=
  ⟨known, List.Sublist.refl _, reads⟩

end Gives

namespace Reads

variable {α β : Type} {source : Source} {prior rest : List Nat} {given : α → List Nat}
  {given' : β → List Nat}

instance pure {value : α} [drawn : Draws prior (given value) rest] :
    Reads source prior (Pure.pure value) given where
  ofReading cursor result behind _ read := by
    cases read
    exact .of_sublist ((List.sublist_append_right _ _).trans drawn.sublist) rfl (Nat.le_refl _)

/-- Of what a step reads more may be known than its places. -/
theorem andThenKnown {parser : Parser α} {next : α → Parser β} {property : α → Prop}
    (first : Gives source prior parser rest given) (known : Yields parser property)
    (second : ∀ value, property value → Reads source (rest ++ given value) (next value) given') :
    Reads source prior (parser >>= next) given' where
  ofReading cursor result behind confines read := by
    rw [reading_bind] at read
    split at read
    next value middle reached =>
        rcases first.exists_reads with ⟨needed, within, reads⟩
        have follows := reads.ofReading _ _ _ confines reached
        have holds := known _ _ _ _ reached
        exact follows.trans within
          ((second value holds).ofReading _ _ _ (follows.confines confines) read)
    next => cases read

theorem andThen {parser : Parser α} {next : α → Parser β}
    (first : Gives source prior parser rest given)
    (second : ∀ value, Reads source (rest ++ given value) (next value) given') :
    Reads source prior (parser >>= next) given' :=
  have nothing : Yields parser fun _ => True := fun _ _ _ _ _ => trivial
  andThenKnown first nothing fun value _ => second value

/-- What a step reads may be known to have no landmarks. -/
theorem bareThen {parser : Parser Node} {next : Node → Parser β}
    (first : Reads source [] parser source.placesIn) (bare : Yields parser IsBare)
    (second : ∀ value, IsBare value → Reads source prior (next value) given') :
    Reads source prior (parser >>= next) given' := by
  refine andThenKnown (@Gives.ofReads _ _ _ _ _ first) bare fun value nothing => ?_
  rw [source.placesIn_of_isBare, List.append_nil]
  exact second value nothing

instance bind {parser : Parser α} {next : α → Parser β}
    [first : Gives source prior parser rest given]
    [second : ∀ value, Reads source (rest ++ given value) (next value) given'] :
    Reads source prior (parser >>= next) given' :=
  andThen first second

/-- A step that adds no places. -/
theorem lookThen [HasPlaces α] [HasNoPlaces α] {parser : Parser α} {next : α → Parser β}
    (first : Reads source [] parser source.placesIn)
    (second : ∀ value, Reads source prior (next value) given') :
    Reads source prior (parser >>= next) given' := by
  refine andThen (@Gives.ofReads _ _ _ _ _ first) fun value => ?_
  rw [HasNoPlaces.placesIn_eq_nil, List.append_nil]
  exact second value

instance (priority := high) bindNoPlaces [HasPlaces α] [HasNoPlaces α] {parser : Parser α}
    {next : α → Parser β} [first : Reads source [] parser source.placesIn]
    [second : ∀ value, Reads source prior (next value) given'] :
    Reads source prior (parser >>= next) given' :=
  lookThen first second

/-- A value that is only given a name. -/
instance (priority := high) bindPure {value : α} {next : α → Parser β}
    [second : Reads source prior (next value) given'] :
    Reads source prior (Pure.pure value >>= next) given' :=
  second

/-- Some of the known places may be forgotten. -/
theorem forget {known : List Nat} {parser : Parser α} (within : known.Sublist prior)
    (reads : Reads source known parser given) : Reads source prior parser given where
  ofReading cursor value behind confines read := by
    have follows := reads.ofReading _ _ _ confines read
    have all : ([] ++ prior).Sublist prior := List.Sublist.refl _
    exact Follows.trans all (.of_sublist within rfl (Nat.le_refl _)) follows

/-- What is attempted either leads on or leaves everything as it was. -/
theorem attemptThen {parser : Parser α} {next : Option α → Parser β} {needed : List Nat}
    [first : Takes source parser needed given] [drawn : Draws prior needed rest]
    (found : ∀ value, Reads source (rest ++ given value) (next (some value)) given')
    (missed : Reads source prior (next none) given') :
    Reads source prior (Parser.attempt parser >>= next) given' where
  ofReading cursor result behind confines read := by
    rw [reading_bind, reading_attempt] at read
    cases reached : reading source cursor parser with
    | error failure =>
        rw [reached] at read
        exact missed.ofReading _ _ _ confines read
    | ok pair =>
        rw [reached] at read
        have follows := first.reads.ofReading _ _ _ confines reached
        exact follows.trans drawn.sublist
          ((found pair.1).ofReading _ _ _ (follows.confines confines) read)

/-- At its end a rule does what another one does. -/
instance (priority := low) last {parser : Parser α} {needed : List Nat}
    [taken : Takes source parser needed given] [drawn : Draws prior needed rest] :
    Reads source prior parser given where
  ofReading cursor value behind confines read := by
    have follows := taken.reads.ofReading _ _ _ confines read
    refine follows.trans drawn.sublist ?_
    exact .of_sublist (List.sublist_append_right _ _) rfl (Nat.le_refl _)

instance throw {failure : Failure} :
    Reads source prior (MonadExcept.throw failure : Parser α) given where
  ofReading cursor result behind _ read := by cases read

instance branch {condition : Prop} [Decidable condition] {yes no : Parser α}
    [first : Reads source prior yes given] [second : Reads source prior no given] :
    Reads source prior (if condition then yes else no) given := by
  split
  · exact first
  · exact second

theorem either {condition : Prop} [Decidable condition] {yes no : Parser α}
    (first : Reads source prior yes given) (second : Reads source prior no given) :
    Reads source prior (if condition then yes else no) given :=
  branch

/-- A parser that stops where it starts. -/
theorem of_eq [HasPlaces α] [HasNoPlaces α] {parser : Parser α}
    (stays : ∀ cursor value behind, reading source cursor parser = .ok (value, behind) →
      behind = cursor) : Reads source [] parser source.placesIn where
  ofReading cursor value behind _ read := by
    cases stays _ _ _ read
    rw [HasNoPlaces.placesIn_eq_nil]
    exact .of_sublist (List.Sublist.refl _) rfl (Nat.le_refl _)

instance failHere {cause : Cause} :
    Reads source prior (Parser.failHere cause : Parser α) given where
  ofReading cursor value behind _ read := by cases read

instance refuse {reason : String} : Reads source prior (Parser.refuse reason : Parser α) given :=
  throw

instance failExpected {alternatives : List Terminal} :
    Reads source prior (Parser.failExpected alternatives : Parser α) given where
  ofReading cursor value behind _ read := by cases read

/-- What every step adds in order is in order after any number of steps.  Every step may rely on
what all of them keep. -/
theorem iterate [HasTrail α] {property : α → Prop} {step : α → Parser (Option α)}
    (keeps : ∀ value, property value →
      Yields (step value) fun next => ∀ found ∈ next, property found)
    (adds : ∀ value, property value → Reads source ([] ++ source.trailIn value) (step value)
      fun next => source.trailIn (next.getD value)) :
    ∀ (fuel : Nat) (value : α), property value →
      Reads source (source.trailIn value) (Parser.iterate step fuel value) source.trailIn
  | 0, value, _ => ⟨fun _ _ _ _ read => by
      cases read
      exact .of_sublist (List.Sublist.refl _) rfl (Nat.le_refl _)⟩
  | fuel + 1, value, holds => by
      have first : Gives source (source.trailIn value) (step value) [] fun next =>
          source.trailIn (next.getD value) := ⟨_, List.Sublist.refl _, adds value holds⟩
      refine andThenKnown first (keeps value holds) fun next kept => ?_
      cases next with
      | none => exact @pure _ _ _ [] _ _ Draws.found
      | some next => exact iterate keeps adds fuel next (kept next rfl)

end Reads

/-! ## Going back -/

/-- Wherever a parser begins behind a cursor in the same group, it leads on from that cursor. -/
def LeadsOn {α : Type} (source : Source) (start : Cursor) (prior : List Nat) (parser : Parser α)
    (given : α → List Nat) : Prop :=
  ∀ cursor value behind, source.Confines start → cursor.limit = start.limit →
    start.position ≤ cursor.position → reading source cursor parser = .ok (value, behind) →
    Follows prior (given value) start behind

namespace LeadsOn

variable {α β : Type} {source : Source} {start : Cursor} {prior : List Nat} {given : α → List Nat}
  {given' : β → List Nat}

theorem ofReads {parser : Parser α} [reads : Reads source prior parser given] :
    LeadsOn source start prior parser given := by
  intro cursor value behind confines limit forward read
  have same : Follows prior prior start cursor := .of_sublist (List.Sublist.refl _) limit forward
  have all : ([] ++ prior).Sublist prior := List.Sublist.refl _
  exact same.trans all (reads.ofReading _ _ _ (same.confines confines) read)

theorem bind {parser : Parser α} {next : α → Parser β} {property : α → Prop} [HasPlaces α]
    [first : Reads source [] parser source.placesIn] (known : Yields parser property)
    (second : ∀ value, property value → LeadsOn source start prior (next value) given') :
    LeadsOn source start prior (parser >>= next) given' := by
  intro cursor result behind confines limit forward read
  rw [reading_bind] at read
  split at read
  next value middle reached =>
      have here : Follows [] [] start cursor := .of_sublist (List.Sublist.refl _) limit forward
      have follows := first.ofReading _ _ _ (here.confines confines) reached
      exact second value (known _ _ _ _ reached) _ _ _ confines (follows.limit.trans limit)
        (Nat.le_trans forward follows.forward) read
  next => cases read

theorem after {parser : Parser α} {next : α → Parser β} [HasPlaces α]
    [first : Reads source [] parser source.placesIn]
    (second : ∀ value, LeadsOn source start prior (next value) given') :
    LeadsOn source start prior (parser >>= next) given' :=
  have nothing : Yields parser fun _ => True := fun _ _ _ _ _ => trivial
  bind nothing fun value _ => second value

theorem either {condition : Prop} [Decidable condition] {yes no : Parser α}
    (first : LeadsOn source start prior yes given) (second : LeadsOn source start prior no given) :
    LeadsOn source start prior (if condition then yes else no) given := by
  split
  · exact first
  · exact second

/-- The parser goes back to the cursor. -/
theorem back {next : PUnit → Parser α} [reads : Reads source prior (next ⟨⟩) given] :
    LeadsOn source start prior (set start >>= next) given := by
  intro cursor value behind confines _ _ read
  exact reads.ofReading _ _ _ confines read

end LeadsOn

/-- A parser that may go back to where it is now. -/
theorem Reads.getThen {α : Type} {source : Source} {prior : List Nat} {given : α → List Nat}
    {next : Cursor → Parser α} (second : ∀ start, LeadsOn source start prior (next start) given) :
    Reads source prior (MonadState.get >>= next) given where
  ofReading cursor value behind confines read :=
    second cursor cursor value behind confines rfl (Nat.le_refl _) read

namespace Takes

variable {α : Type} [HasPlaces α] {source : Source} {prior : List Nat}

/-! ## Steps that only look -/

section Looking

variable {terminal : Terminal} {terminals : List Terminal} {text : String} {delimiter : Delimiter}
  {count : Nat}

theorem looks [HasNoPlaces α] {parser : Parser α}
    (stays : ∀ cursor value behind, reading source cursor parser = .ok (value, behind) →
      behind = cursor) : Takes source parser [] source.placesIn :=
  ⟨Reads.of_eq stays⟩

instance get : Takes source (MonadState.get : Parser Cursor) [] source.placesIn :=
  looks fun _ _ _ read => by cases read; rfl

instance read : Takes source (MonadReader.read : Parser Source) [] source.placesIn :=
  looks fun _ _ _ read => by cases read; rfl

instance peek : Takes source (Parser.peek terminal) [] source.placesIn :=
  looks fun _ _ _ read => by cases read; rfl

instance peekBehind : Takes source (Parser.peekBehind count terminal) [] source.placesIn :=
  looks fun _ _ _ read => by cases read; rfl

instance peekWord : Takes source (Parser.peekWord text) [] source.placesIn :=
  peek

instance peekMark : Takes source (Parser.peekMark text) [] source.placesIn :=
  peek

instance peekGroup : Takes source (Parser.peekGroup delimiter) [] source.placesIn :=
  peek

instance peekAny : Takes source (Parser.peekAny terminals) [] source.placesIn :=
  looks fun _ _ _ read => by cases read; rfl

instance atEnd : Takes source Parser.atEnd [] source.placesIn :=
  looks fun _ _ _ read => by cases read; rfl

instance here : Takes source Parser.here [] source.placesIn :=
  looks fun _ _ _ read => by cases read; rfl

instance remaining : Takes source Parser.remaining [] source.placesIn :=
  looks fun _ _ _ read => by cases read; rfl

instance lookAhead [HasNoPlaces α] {parser : Parser α} :
    Takes source (Parser.lookAhead parser) [] source.placesIn := by
  refine looks fun cursor => ?_
  refine Leaves.look rfl (Leaves.after fun value middle => ?_)
  intro _ _ read
  cases read
  rfl

instance succeeds {β : Type} {parser : Parser β} :
    Takes source (Parser.succeeds parser) [] source.placesIn := by
  refine looks fun cursor => ?_
  refine Leaves.look rfl (Leaves.after fun value middle => ?_)
  intro _ _ read
  cases read
  rfl

end Looking

/-! ## Single tokens -/

instance advance {count : Nat} : Takes source (Parser.advance count) [] source.placesIn where
  reads := ⟨fun cursor value behind _ read => by
    cases read
    exact .of_sublist (List.Sublist.refl _) rfl (Nat.le_add_right _ _)⟩

instance take : Takes source Parser.take [] source.placesIn := by
  unfold Parser.take
  exact ⟨inferInstance⟩

instance word {text : String} : Takes source (Parser.word text) [] source.placesIn := by
  unfold Parser.word
  exact ⟨inferInstance⟩

instance mark {text : String} : Takes source (Parser.mark text) [] source.placesIn := by
  unfold Parser.mark
  exact ⟨inferInstance⟩

instance optionalWord {text : String} :
    Takes source (Parser.optionalWord text) [] source.placesIn := by
  unfold Parser.optionalWord
  exact ⟨inferInstance⟩

instance optionalMark {text : String} :
    Takes source (Parser.optionalMark text) [] source.placesIn := by
  unfold Parser.optionalMark
  exact ⟨inferInstance⟩

instance identifier : Takes source Parser.identifier [] source.placesIn := by
  refine ⟨Reads.lookThen inferInstance fun cursor => Reads.lookThen inferInstance fun tokens => ?_⟩
  split
  next => exact inferInstance
  next => exact inferInstance

instance anyWord : Takes source Parser.anyWord [] source.placesIn := by
  unfold Parser.anyWord
  exact ⟨inferInstance⟩

instance lifetime : Takes source Parser.lifetime [] source.placesIn := by
  unfold Parser.lifetime
  exact ⟨inferInstance⟩

instance optionalLifetime : Takes source Parser.optionalLifetime [] source.placesIn := by
  unfold Parser.optionalLifetime
  exact ⟨inferInstance⟩

instance keptSince {start : Nat} : Takes source (Parser.keptSince start) [] source.placesIn := by
  unfold Parser.keptSince
  exact ⟨inferInstance⟩

end Takes

/-! ## Groups -/

/-- A group goes beyond its opening bracket, and not beyond the group it stands in. -/
class Source.IsNested (source : Source) : Prop where
  lt_behindTrees : ∀ position, position < behindTrees source position 1
  behindTrees_le : ∀ outer inner, outer < inner → inner < behindTrees source outer 1 - 1 →
    behindTrees source inner 1 ≤ behindTrees source outer 1 - 1

section Groups

variable {α : Type} {source : Source} {cursor behind : Cursor} {delimiter : Delimiter}
  {content : Parser α}

/-- The cursor at the start of the group that opens at a cursor. -/
def Cursor.entering (source : Source) (cursor : Cursor) : Cursor :=
  { cursor with position := cursor.position + 1, limit := behindTrees source cursor.position 1 - 1 }

/-- The cursor is behind the group that opens at another one. -/
structure IsBehindGroup (source : Source) (cursor behind : Cursor) : Prop where
  position : behind.position = behindTrees source cursor.position 1
  limit : behind.limit = cursor.limit
  inside : cursor.position < cursor.limit

theorem Parser.leaves_set {there : Cursor} :
    Leaves source cursor (set there) fun (_ : PUnit) behind => behind = there := by
  intro _ behind read
  cases read
  rfl

/-- What has been read as a group is its content between two tokens. -/
theorem Parser.leaves_group :
    Leaves source cursor (group delimiter content) fun found behind =>
      ∃ value inside opening closing,
        reading source (cursor.entering source) content = .ok (value, inside) ∧
          found = ⟨.leaf opening, value, .leaf closing⟩ ∧ IsBehindGroup source cursor behind := by
  refine Leaves.look rfl ?_
  split
  next present =>
      refine Leaves.look rfl (Leaves.look rfl ?_)
      refine Leaves.bind leaves_set fun _ start same => ?_
      subst same
      refine Leaves.bind (fun value inside => id) fun value inside reached => ?_
      intro found behind read
      cases read
      exact ⟨value, inside, _, _, reached, rfl, rfl, rfl, lt_limit_of_stands present⟩
  next => exact Leaves.failHere _

variable [source.IsNested]

theorem Source.confines_entering : source.Confines (cursor.entering source) := by
  intro position start stop
  exact IsNested.behindTrees_le cursor.position position start stop

/-- The places inside a group stand in front of its end. -/
theorem Follows.group {given : List Nat} {inside : Cursor} (confines : source.Confines cursor)
    (follows : Follows [] given (cursor.entering source) inside)
    (stops : IsBehindGroup source cursor behind) : Follows [] given cursor behind where
  limit := stops.limit
  forward := by
    rw [stops.position]
    exact Nat.le_of_lt (Source.IsNested.lt_behindTrees _)
  inside _ place member := by
    have bound := follows.inside nofun place member
    have ends := confines cursor.position (Nat.le_refl _) stops.inside
    change place < behindTrees source cursor.position 1 - 1 at bound
    omega
  rising before rising := by
    have beyond : cursor.position < behindTrees source cursor.position 1 :=
      Source.IsNested.lt_behindTrees _
    have read := Rising.iff.mp (follows.rising before (rising.mono (Nat.le_succ _)))
    rw [Rising.iff, stops.position]
    refine ⟨read.1, fun place member => ?_⟩
    rcases List.mem_append.mp member with known | added
    · have := (Rising.iff.mp rising).2 place (List.mem_append_left _ known)
      omega
    · have := follows.inside nofun place added
      change place < behindTrees source cursor.position 1 - 1 at this
      omega

variable {β : Type} [HasPlaces α] {prior : List Nat} {given : β → List Nat}

/-- A group whose brackets are looked at is followed by a step that is given them as leaves. -/
theorem Reads.groupThen {next : Enclosed α → Parser β}
    (inside : Reads source [] content source.placesIn)
    (second : ∀ value opening closing, Reads source (prior ++ source.placesIn value)
      (next ⟨.leaf opening, value, .leaf closing⟩) given) :
    Reads source prior (group delimiter content >>= next) given where
  ofReading cursor result behind confines read := by
    rw [reading_bind] at read
    split at read
    next found middle reached =>
        rcases leaves_group found middle reached with
          ⟨value, start, opening, closing, content, rfl, stops⟩
        have follows := (inside.ofReading _ _ _ (source.confines_entering) content).group
          confines stops
        have all : (prior ++ []).Sublist prior := by rw [List.append_nil]
        refine follows.trans all ?_
        exact (second value opening closing).ofReading _ _ _ (follows.confines confines) read
    next => cases read

instance Takes.group [inside : Reads source [] content source.placesIn] :
    Takes source (Parser.group delimiter content) [] source.placesIn where
  reads := ⟨fun cursor found behind confines read => by
    rcases leaves_group found behind read with ⟨value, start, opening, closing, content, rfl, stops⟩
    have follows := (inside.ofReading _ _ _ source.confines_entering content).group confines stops
    have same : source.placesIn (Enclosed.mk (.leaf opening) value (.leaf closing)) =
        source.placesIn value := List.append_nil _
    rw [same]
    exact follows⟩

/-- What is left of a group ends where the group does. -/
instance Takes.groupOfRest : Takes source (Parser.group delimiter keepRest) [] source.placesIn where
  reads := ⟨fun cursor found behind confines read => by
    rcases leaves_group found behind read with ⟨value, start, opening, closing, content, rfl, stops⟩
    have nothing : source.placesIn value = [] := by
      cases content
      exact (source.placesIn_of_isTransparent rfl (fun _ => rfl) _).trans
        (source.placesIn_keptBetween _ _)
    have same : source.placesIn (Enclosed.mk (.leaf opening) value (.leaf closing)) =
        source.placesIn value := List.append_nil _
    rw [same, nothing]
    refine .of_sublist (List.Sublist.refl _) stops.limit ?_
    rw [stops.position]
    exact Nat.le_of_lt (Source.IsNested.lt_behindTrees _)⟩

end Groups

namespace Takes

variable {α : Type} [HasPlaces α] {source : Source} {prior : List Nat}

/-! ## Loops -/

section Loops

variable {σ : Type} [HasTrail σ] {initial : σ} {step : σ → Parser (Option σ)}

theorem repeatedly {property : σ → Prop}
    (keeps : ∀ value, property value →
      Yields (step value) fun next => ∀ found ∈ next, property found)
    (adds : ∀ value, property value → Reads source ([] ++ source.trailIn value) (step value)
      fun next => source.trailIn (next.getD value)) (holds : property initial) :
    Takes source (Parser.repeating initial step) (source.trailIn initial) source.trailIn where
  reads := Reads.lookThen inferInstance fun count =>
    Reads.iterate keeps adds (count + 1) initial holds

instance repeating
    [adds : ∀ value, Reads source ([] ++ source.trailIn value) (step value) fun next =>
      source.trailIn (next.getD value)] :
    Takes source (Parser.repeating initial step) (source.trailIn initial) source.trailIn :=
  have nothing (value : σ) (_ : True) :
      Yields (step value) fun next => ∀ found ∈ next, True := fun _ _ _ _ _ _ _ => trivial
  repeatedly nothing (fun value _ => adds value) trivial

/-- A loop, and what follows it. -/
theorem stepsThen {β : Type} {given : β → List Nat} {next : σ → Parser β} {rest : List Nat}
    (adds : ∀ value, Reads source ([] ++ source.trailIn value) (step value) fun next =>
      source.trailIn (next.getD value))
    [drawn : Draws prior (source.trailIn initial) rest]
    (second : ∀ value, Reads source (rest ++ source.trailIn value) (next value) given) :
    Reads source prior (Parser.repeating initial step >>= next) given :=
  Reads.andThen .ofTakes second

/-- A loop whose steps rely on what all of them keep, and what follows it. -/
theorem loopThen {β : Type} {given : β → List Nat} {next : σ → Parser β} {rest : List Nat}
    {property : σ → Prop}
    (keeps : ∀ value, property value →
      Yields (step value) fun next => ∀ found ∈ next, property found)
    (adds : ∀ value, property value → Reads source ([] ++ source.trailIn value) (step value)
      fun next => source.trailIn (next.getD value)) (holds : property initial)
    [drawn : Draws prior (source.trailIn initial) rest]
    (second : ∀ value, Reads source (rest ++ source.trailIn value) (next value) given) :
    Reads source prior (Parser.repeating initial step >>= next) given :=
  have := repeatedly keeps adds holds
  Reads.andThen .ofTakes second

end Loops

section Lists

variable {condition ending : Parser Bool} {element separator : Parser Node}
  [Reads source [] condition source.placesIn] [Reads source [] ending source.placesIn]
  [Reads source [] element source.placesIn] [Reads source [] separator source.placesIn]

instance manyWhile : Takes source (Parser.manyWhile condition element) [] source.placesIn := by
  unfold Parser.manyWhile
  exact ⟨inferInstance⟩

instance separatedUntil :
    Takes source (Parser.separatedUntil ending element separator) [] source.placesIn := by
  unfold Parser.separatedUntil
  exact ⟨inferInstance⟩

instance separatedWhile {separator : String} :
    Takes source (Parser.separatedWhile ending element separator) [] source.placesIn := by
  unfold Parser.separatedWhile
  exact ⟨inferInstance⟩

instance commaSeparated : Takes source (Parser.commaSeparated element) [] source.placesIn := by
  unfold Parser.commaSeparated
  exact ⟨inferInstance⟩

end Lists
end Takes
end Instrument
