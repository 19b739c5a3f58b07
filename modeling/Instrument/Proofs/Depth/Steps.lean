import Instrument.Proofs.Order.Reading

/-!
# Depth and place

A name of a rule is interpreted to a depth, and each rule that it stands for takes one from it.  The
depth lasts because rules lead forward: at every place a fixed amount is set aside for each of the
tokens that are left, so a token that is read sets free what was set aside for it.  Between two
tokens no more names are passed than there is in reserve.

`GoAlike` compares two interpretations of one rule where the depth is enough.  They read the
same, they keep the reserve, and if they fail it is not because the depth is used up.
-/

namespace Instrument

open Instrument.Parser

/-- Besides what is set aside for the tokens that are left at a cursor, some depth is in reserve. -/
class HasReserve (source : Source) (depth reserve : Nat) (cursor : Cursor) : Prop where
  le_depth : 16 * (source.tokens.size - cursor.position) + reserve ≤ depth

section Reserves

variable {source : Source} {depth reserve : Nat} {cursor behind : Cursor}

theorem HasReserve.forward (before : HasReserve source depth reserve cursor)
    (forward : cursor.position ≤ behind.position) : HasReserve source depth reserve behind where
  le_depth := by
    have := before.le_depth
    omega

/-- A token that is read sets free what was set aside for it. -/
theorem HasReserve.beyond (before : HasReserve source depth reserve cursor)
    (inside : cursor.position < source.tokens.size) (forward : cursor.position < behind.position) :
    HasReserve source depth (reserve + 16) behind where
  le_depth := by
    have := before.le_depth
    omega

theorem HasReserve.mono {more : Nat} (before : HasReserve source depth more cursor)
    (fewer : reserve ≤ more) : HasReserve source depth reserve cursor where
  le_depth := Nat.le_trans (Nat.add_le_add_left fewer _) before.le_depth

end Reserves

/-- A cause that lies in the text. -/
class Cause.IsOfText (cause : Cause) : Prop where
  ne_exhausted : cause ≠ .exhausted

namespace Cause.IsOfText

instance expected {alternatives : List Terminal} : IsOfText (.expected alternatives) :=
  ⟨by rintro ⟨⟩⟩

instance reserved {word : String} : IsOfText (.reserved word) :=
  ⟨by rintro ⟨⟩⟩

instance missing {what : String} : IsOfText (.missing what) :=
  ⟨by rintro ⟨⟩⟩

instance unterminatedStatement : IsOfText .unterminatedStatement :=
  ⟨by rintro ⟨⟩⟩

instance refused {reason : String} : IsOfText (.refused reason) :=
  ⟨by rintro ⟨⟩⟩

end Cause.IsOfText

/-- From a cursor on, two parsers read the same and keep a reserve, or fail for the same cause in
the text. -/
structure AgreeAt {α : Type} (source : Source) (depth reserve : Nat) (cursor : Cursor)
    (first second : Parser α) : Prop where
  same : reading source cursor first = reading source cursor second
  keeps : Leaves source cursor first fun _ behind => HasReserve source depth reserve behind
  fails : ∀ failure, reading source cursor first = .error failure → failure.cause.IsOfText

/-- Two parsers read the same wherever there is a reserve, and keep it. -/
class GoAlike {α : Type} (source : Source) (depth reserve : Nat) (first second : Parser α) :
    Prop where
  agreeAt : ∀ cursor, HasReserve source depth reserve cursor →
    AgreeAt source depth reserve cursor first second

/-- A parser keeps the reserve, and fails for causes in the text alone. -/
abbrev Keeps {α : Type} (source : Source) (depth reserve : Nat) (parser : Parser α) : Prop :=
  GoAlike source depth reserve parser parser

/-- A parser that reads something reads a token. -/
class Moves {α : Type} (source : Source) (parser : Parser α) : Prop where
  leaves : ∀ cursor, Leaves source cursor parser fun _ behind =>
    cursor.position < source.tokens.size ∧ cursor.position < behind.position

/-- Where there is a token, a parser moves over it. -/
class Steps {α : Type} (source : Source) (parser : Parser α) : Prop where
  leaves : ∀ cursor, cursor.position < source.tokens.size →
    Leaves source cursor parser fun _ behind => cursor.position < behind.position

/-- A parser only looks at what follows. -/
class Looks {α : Type} (parser : Parser α) : Prop where
  stays : ∀ source cursor, ∃ value, reading source cursor parser = .ok (value, cursor)

/-- What a parser looks for is a token. -/
class Sees (source : Source) (parser : Parser Bool) : Prop where
  leaves : ∀ cursor, Leaves source cursor parser fun seen behind =>
    behind = cursor ∧ (seen = true → cursor.position < source.tokens.size)

/-! ## Looking -/

section Looking

variable {terminal : Terminal} {terminals : List Terminal} {text : String} {delimiter : Delimiter}
  {count : Nat}

namespace Looks

instance get : Looks (MonadState.get : Parser Cursor) :=
  ⟨fun _ _ => ⟨_, rfl⟩⟩

instance read : Looks (MonadReader.read : Parser Source) :=
  ⟨fun _ _ => ⟨_, rfl⟩⟩

instance pure {α : Type} {value : α} : Looks (Pure.pure value : Parser α) :=
  ⟨fun _ _ => ⟨_, rfl⟩⟩

instance peek : Looks (Parser.peek terminal) :=
  ⟨fun _ _ => ⟨_, rfl⟩⟩

instance peekBehind : Looks (Parser.peekBehind count terminal) :=
  ⟨fun _ _ => ⟨_, rfl⟩⟩

instance peekWord : Looks (Parser.peekWord text) :=
  peek

instance peekMark : Looks (Parser.peekMark text) :=
  peek

instance peekGroup : Looks (Parser.peekGroup delimiter) :=
  peek

instance peekAny : Looks (Parser.peekAny terminals) :=
  ⟨fun _ _ => ⟨_, rfl⟩⟩

instance atEnd : Looks Parser.atEnd :=
  ⟨fun _ _ => ⟨_, rfl⟩⟩

instance here : Looks Parser.here :=
  ⟨fun _ _ => ⟨_, rfl⟩⟩

instance remaining : Looks Parser.remaining :=
  ⟨fun _ _ => ⟨_, rfl⟩⟩

end Looks

variable {source : Source} {cursor : Cursor}

theorem lt_size_of_lexemeIn {position : Nat} {lexeme : Lexeme}
    (found : lexemeIn source cursor position = some lexeme) : position < source.tokens.size := by
  unfold lexemeIn at found
  split at found
  next =>
      rcases Option.map_eq_some_iff.mp found with ⟨token, there, -⟩
      exact (Array.getElem?_eq_some_iff.mp there).1
  next => cases found

theorem lt_size_of_stands {position : Nat}
    (present : stands terminal source cursor position = true) : position < source.tokens.size := by
  unfold stands at present
  cases lexeme : lexemeIn source cursor position with
  | some found => exact lt_size_of_lexemeIn lexeme
  | none =>
      rw [lexeme] at present
      cases terminal <;> cases present

namespace Sees

instance peek : Sees source (Parser.peek terminal) where
  leaves cursor := by
    rintro _ behind ⟨⟩
    exact ⟨rfl, lt_size_of_stands⟩

instance peekWord : Sees source (Parser.peekWord text) :=
  peek

instance peekMark : Sees source (Parser.peekMark text) :=
  peek

instance peekAny : Sees source (Parser.peekAny terminals) where
  leaves cursor := by
    rintro _ behind ⟨⟩
    refine ⟨rfl, fun present => ?_⟩
    rcases List.any_eq_true.mp present with ⟨terminal, -, stands⟩
    exact lt_size_of_stands stands

end Sees
end Looking

/-! ## Moving -/

/-- A punctuation mark has characters. -/
class IsMark (text : String) : Prop where
  length_pos : 0 < text.length

instance : IsMark "<" := ⟨by decide⟩

instance : IsMark "|" := ⟨by decide⟩

instance : IsMark "&" := ⟨by decide⟩

instance : IsMark "*" := ⟨by decide⟩

instance : IsMark "=" := ⟨by decide⟩

instance : IsMark "@" := ⟨by decide⟩

instance : IsMark "::" := ⟨by decide⟩

instance : IsMark ".." := ⟨by decide⟩

instance : IsMark "..=" := ⟨by decide⟩

section Moving

variable {α β : Type} {source : Source}

namespace Steps

instance advance {count : Nat} : Steps source (Parser.advance (count + 1)) where
  leaves cursor _ := by
    rintro _ behind ⟨⟩
    exact Nat.lt_add_of_pos_right (Nat.succ_pos count)

instance take : Steps source Parser.take where
  leaves cursor _ := by
    rintro _ behind ⟨⟩
    exact Nat.lt_succ_self _

end Steps

namespace Moves

instance seen {look : Parser Bool} {step : Parser α} {cause : Cause} [sees : Sees source look]
    [steps : Steps source step] :
    Moves source (look >>= fun present => if present = true then step else failHere cause) where
  leaves cursor := by
    refine Leaves.bind (sees.leaves cursor) ?_
    rintro present _ ⟨rfl, inside⟩
    split
    next there =>
        intro value behind read
        exact ⟨inside there, steps.leaves _ (inside there) value behind read⟩
    next => exact Leaves.failHere _

instance word {text : String} : Moves source (Parser.word text) := by
  unfold Parser.word
  infer_instance

instance anyWord : Moves source Parser.anyWord := by
  unfold Parser.anyWord
  infer_instance

instance lifetime : Moves source Parser.lifetime := by
  unfold Parser.lifetime
  infer_instance

instance identifier : Moves source Parser.identifier where
  leaves cursor := by
    refine Leaves.look rfl (Leaves.look rfl ?_)
    split
    next found =>
        split
        next => exact Leaves.failHere _
        next =>
            intro value behind read
            have inside := lt_size_of_lexemeIn found
            exact ⟨inside, Steps.take.leaves cursor inside value behind read⟩
    next => exact Leaves.failHere _

instance mark {text : String} [isMark : IsMark text] : Moves source (Parser.mark text) where
  leaves cursor := by
    refine Leaves.look (reading_peek _) ?_
    split
    next present =>
        have inside := lt_size_of_stands present
        split
        next =>
            intro value behind read
            exact ⟨inside, Steps.take.leaves cursor inside value behind read⟩
        next =>
            rintro value behind ⟨⟩
            exact ⟨inside, Nat.lt_add_of_pos_right isMark.length_pos⟩
    next => exact Leaves.throw _

instance group [source.IsNested] {delimiter : Delimiter} {content : Parser α} :
    Moves source (Parser.group delimiter content) where
  leaves cursor := by
    refine Leaves.look (reading_peek _) ?_
    split
    next present =>
        refine Leaves.look rfl (Leaves.look rfl (Leaves.after fun _ _ => ?_))
        refine Leaves.after fun _ _ => Leaves.after fun _ _ => ?_
        rintro found behind ⟨⟩
        exact ⟨lt_size_of_stands present, Source.IsNested.lt_behindTrees _⟩
    next => exact Leaves.failHere _

instance failExpected {alternatives : List Terminal} :
    Moves source (Parser.failExpected alternatives : Parser α) :=
  ⟨fun _ _ _ read => by cases read⟩

instance lookThen {look : Parser α} {next : α → Parser β} [looks : Looks look]
    [second : ∀ value, Moves source (next value)] : Moves source (look >>= next) where
  leaves cursor := by
    rcases looks.stays source cursor with ⟨value, stays⟩
    exact Leaves.look stays ((second value).leaves cursor)

instance branch {condition : Prop} [Decidable condition] {yes no : Parser α}
    [first : Moves source yes] [second : Moves source no] :
    Moves source (if condition then yes else no) := by
  split
  next => exact first
  next => exact second

end Moves
end Moving

/-! ## Alike -/

section Alike

variable {α β : Type} {source : Source} {depth reserve : Nat}

namespace AgreeAt

variable {cursor behind : Cursor} {first second : Parser α} {next next' : α → Parser β}

theorem of_ok {value : α} (has : HasReserve source depth reserve behind)
    (read : reading source cursor first = .ok (value, behind))
    (read' : reading source cursor second = .ok (value, behind)) :
    AgreeAt source depth reserve cursor first second := by
  refine ⟨read.trans read'.symm, fun _ _ again => ?_, fun _ again => ?_⟩
  · cases read.symm.trans again
    exact has
  · cases read.symm.trans again

theorem of_error {failure : Failure} (ofText : failure.cause.IsOfText)
    (read : reading source cursor first = .error failure)
    (read' : reading source cursor second = .error failure) :
    AgreeAt source depth reserve cursor first second := by
  refine ⟨read.trans read'.symm, fun _ _ again => ?_, fun _ again => ?_⟩
  · cases read.symm.trans again
  · cases read.symm.trans again
    exact ofText

theorem bind {more : Nat} (fewer : reserve ≤ more)
    (before : AgreeAt source depth more cursor first second)
    (after : ∀ value behind, reading source cursor first = .ok (value, behind) →
      HasReserve source depth more behind →
      AgreeAt source depth more behind (next value) (next' value)) :
    AgreeAt source depth reserve cursor (first >>= next) (second >>= next') := by
  cases read : reading source cursor first with
  | error failure =>
      refine of_error (before.fails failure read) (by rw [reading_bind, read]) ?_
      rw [reading_bind, ← before.same, read]
  | ok found =>
      have agree := after found.1 found.2 read (before.keeps _ _ read)
      have led : reading source cursor (first >>= next) = reading source found.2 (next found.1) := by
        rw [reading_bind, read]
      have led' : reading source cursor (second >>= next') =
          reading source found.2 (next' found.1) := by
        rw [reading_bind, ← before.same, read]
      refine ⟨?_, fun value behind read => ?_, fun failure read => ?_⟩
      · rw [led, led', agree.same]
      · exact (agree.keeps value behind (led ▸ read)).mono fewer
      · exact agree.fails failure (led ▸ read)

/-- What only looks is done without any change. -/
theorem look {looking : Parser α} {value : α}
    (looks : reading source cursor looking = .ok (value, cursor))
    (after : AgreeAt source depth reserve cursor (next value) (next' value)) :
    AgreeAt source depth reserve cursor (looking >>= next) (looking >>= next') := by
  refine ⟨?_, Leaves.look looks after.keeps, fun failure read => ?_⟩
  · rw [reading_bind, reading_bind, looks]
    exact after.same
  · rw [reading_bind, looks] at read
    exact after.fails failure read

end AgreeAt

namespace GoAlike

variable {first second : Parser α} {next next' : α → Parser β} {cause : Cause}

/-! ### Sequences -/

/-- What follows a step may rely on what the step yields. -/
theorem andThenKnown {property : α → Prop} [before : GoAlike source depth reserve first second]
    (known : Yields first property) (behind : ∀ value, property value →
      GoAlike source depth reserve (next value) (next' value)) :
    GoAlike source depth reserve (first >>= next) (second >>= next') where
  agreeAt cursor has := by
    refine (before.agreeAt cursor has).bind (Nat.le_refl _) fun value middle read => ?_
    exact (behind value (known _ _ _ _ read)).agreeAt middle

theorem andThen [before : GoAlike source depth reserve first second]
    (behind : ∀ value, GoAlike source depth reserve (next value) (next' value)) :
    GoAlike source depth reserve (first >>= next) (second >>= next') :=
  have nothing : Yields first fun _ => True := fun _ _ _ _ _ => trivial
  andThenKnown nothing fun value _ => behind value

instance (priority := low) bind [GoAlike source depth reserve first second]
    [behind : ∀ value, GoAlike source depth reserve (next value) (next' value)] :
    GoAlike source depth reserve (first >>= next) (second >>= next') :=
  andThen behind

/-- What follows a step that reads a token has the reserve that the token sets free. -/
instance moveThen [moves : Moves source first]
    [before : GoAlike source depth reserve first second]
    [behind : ∀ value, GoAlike source depth (reserve + 16) (next value) (next' value)] :
    GoAlike source depth reserve (first >>= next) (second >>= next') where
  agreeAt cursor has := by
    have agree := before.agreeAt cursor has
    refine AgreeAt.bind (Nat.le_add_right reserve 16) ⟨agree.same, ?_, agree.fails⟩ ?_
    · intro value middle read
      have moved := moves.leaves cursor value middle read
      exact has.beyond moved.1 moved.2
    · exact fun value middle _ => (behind value).agreeAt middle

/-- What follows a step that may have found nothing. -/
instance bindOption {first second : Parser (Option α)} {next next' : Option α → Parser β}
    [GoAlike source depth reserve first second]
    [found : ∀ value, GoAlike source depth reserve (next (some value)) (next' (some value))]
    [missed : GoAlike source depth reserve (next none) (next' none)] :
    GoAlike source depth reserve (first >>= next) (second >>= next') := by
  refine andThen fun value => ?_
  cases value with
  | none => exact missed
  | some value => exact found value

/-- The reserve is not counted beyond a token. -/
instance (priority := high) bindBeyond [GoAlike source depth (reserve + 16) first second]
    [behind : ∀ value, GoAlike source depth (reserve + 16) (next value) (next' value)] :
    GoAlike source depth (reserve + 16) (first >>= next) (second >>= next') :=
  andThen behind

instance (priority := low) look [looks : Looks first] : Keeps source depth reserve first where
  agreeAt cursor has := by
    rcases looks.stays source cursor with ⟨value, stays⟩
    exact .of_ok has stays stays

instance throw {atEnd : Bool} [ofText : cause.IsOfText] :
    Keeps source depth reserve (MonadExcept.throw ⟨atEnd, cause⟩ : Parser α) where
  agreeAt _ _ := .of_error ofText rfl rfl

instance failHere [ofText : cause.IsOfText] :
    Keeps source depth reserve (Parser.failHere cause : Parser α) where
  agreeAt _ _ := .of_error ofText rfl rfl

instance refuse {reason : String} :
    Keeps source depth reserve (Parser.refuse reason : Parser α) :=
  throw

instance failExpected {alternatives : List Terminal} :
    Keeps source depth reserve (Parser.failExpected alternatives : Parser α) := by
  unfold Parser.failExpected
  infer_instance

instance branch {condition : Prop} [Decidable condition] {yes yes' no no' : Parser α}
    [first : GoAlike source depth reserve yes yes']
    [second : GoAlike source depth reserve no no'] :
    GoAlike source depth reserve (if condition then yes else no)
      (if condition then yes' else no') := by
  split
  next => exact first
  next => exact second

theorem either {condition : Prop} [Decidable condition] {yes yes' no no' : Parser α}
    (first : GoAlike source depth reserve yes yes')
    (second : GoAlike source depth reserve no no') :
    GoAlike source depth reserve (if condition then yes else no)
      (if condition then yes' else no') :=
  branch

/-- A token that was seen is there to be moved over. -/
instance seenThen {look : Parser Bool} {other other' : Parser β} [looks : Looks look]
    [sees : Sees source look] [steps : Steps source first]
    [before : GoAlike source depth reserve first second]
    [behind : ∀ value, GoAlike source depth (reserve + 16) (next value) (next' value)]
    [otherwise : GoAlike source depth reserve other other'] :
    GoAlike source depth reserve
      (look >>= fun seen => if seen = true then first >>= next else other)
      (look >>= fun seen => if seen = true then second >>= next' else other') := by
  refine ⟨fun cursor has => ?_⟩
  rcases looks.stays source cursor with ⟨seen, stays⟩
  refine AgreeAt.look stays ?_
  split
  next there =>
      have inside := (sees.leaves cursor seen cursor stays).2 there
      have agree := before.agreeAt cursor has
      refine AgreeAt.bind (Nat.le_add_right reserve 16) ⟨agree.same, ?_, agree.fails⟩ ?_
      · intro value middle read
        exact has.beyond inside (steps.leaves cursor inside value middle read)
      · exact fun value middle _ => (behind value).agreeAt middle
  next => exact otherwise.agreeAt cursor has

/-! ### Going back -/

/-- A place where there was a reserve is remembered. -/
theorem rememberThen {next next' : Cursor → Parser β}
    (behind : ∀ start, HasReserve source depth reserve start →
      GoAlike source depth reserve (next start) (next' start)) :
    GoAlike source depth reserve (MonadState.get >>= next) (MonadState.get >>= next') where
  agreeAt cursor has := .look rfl ((behind cursor has).agreeAt cursor has)

instance set {start : Cursor} [has : HasReserve source depth reserve start] :
    Keeps source depth reserve (MonadStateOf.set start : Parser PUnit) where
  agreeAt _ _ := .of_ok has rfl rfl

instance lookAhead [before : GoAlike source depth reserve first second] :
    GoAlike source depth reserve (Parser.lookAhead first) (Parser.lookAhead second) :=
  rememberThen fun _ _ => andThen fun _ => andThen fun _ => inferInstance

instance attempt [before : GoAlike source depth reserve first second] :
    GoAlike source depth reserve (Parser.attempt first) (Parser.attempt second) where
  agreeAt cursor has := by
    have agree := before.agreeAt cursor has
    cases read : reading source cursor first with
    | error failure =>
        refine .of_ok has (by rw [reading_attempt, read]) ?_
        rw [reading_attempt, ← agree.same, read]
    | ok found =>
        refine .of_ok (agree.keeps _ _ read) (by rw [reading_attempt, read]) ?_
        rw [reading_attempt, ← agree.same, read]

instance succeeds [before : GoAlike source depth reserve first second] :
    GoAlike source depth reserve (Parser.succeeds first) (Parser.succeeds second) where
  agreeAt cursor has := by
    have agree := before.agreeAt cursor has
    cases read : reading source cursor first with
    | error failure =>
        refine .of_ok has (by rw [reading_succeeds, read]) ?_
        rw [reading_succeeds, ← agree.same, read]
    | ok found =>
        refine .of_ok has (by rw [reading_succeeds, read]) ?_
        rw [reading_succeeds, ← agree.same, read]

/-! ### Tokens -/

instance advance {count : Nat} : Keeps source depth reserve (Parser.advance count) where
  agreeAt _ has := .of_ok (has.forward (Nat.le_add_right _ count)) rfl rfl

instance take : Keeps source depth reserve Parser.take := by
  unfold Parser.take
  infer_instance

instance word {text : String} : Keeps source depth reserve (Parser.word text) := by
  unfold Parser.word
  infer_instance

instance mark {text : String} : Keeps source depth reserve (Parser.mark text) := by
  unfold Parser.mark
  infer_instance

instance optionalWord {text : String} : Keeps source depth reserve (Parser.optionalWord text) := by
  unfold Parser.optionalWord
  infer_instance

instance optionalMark {text : String} : Keeps source depth reserve (Parser.optionalMark text) := by
  unfold Parser.optionalMark
  infer_instance

instance identifier : Keeps source depth reserve Parser.identifier := by
  unfold Parser.identifier
  refine rememberThen fun cursor _ => andThen fun tokens => ?_
  split
  next => infer_instance
  next => infer_instance

instance anyWord : Keeps source depth reserve Parser.anyWord := by
  unfold Parser.anyWord
  infer_instance

instance lifetime : Keeps source depth reserve Parser.lifetime := by
  unfold Parser.lifetime
  infer_instance

instance optionalLifetime : Keeps source depth reserve Parser.optionalLifetime := by
  unfold Parser.optionalLifetime
  infer_instance

instance keptSince {start : Nat} : Keeps source depth reserve (Parser.keptSince start) := by
  unfold Parser.keptSince
  infer_instance

/-! ### Groups -/

/-- The content of a group stands behind its bracket, and what follows the group behind it. -/
instance group [source.IsNested] {delimiter : Delimiter} {content content' : Parser α}
    [inside : GoAlike source depth (reserve + 16) content content'] :
    GoAlike source depth reserve (Parser.group delimiter content)
      (Parser.group delimiter content') := by
  unfold Parser.group
  refine ⟨fun cursor has => .look (reading_peek _) ?_⟩
  split
  next present =>
      have there := lt_size_of_stands present
      have entering : HasReserve source depth (reserve + 16) (cursor.entering source) :=
        has.beyond there (Nat.lt_succ_self _)
      have leaving (leftover : Option Delimiter) : HasReserve source depth (reserve + 16)
          ⟨behindTrees source cursor.position 1, cursor.limit, leftover⟩ :=
        has.beyond there (Source.IsNested.lt_behindTrees _)
      refine .look rfl (.look rfl (.bind (Nat.le_add_right reserve 16) (.of_ok entering rfl rfl) ?_))
      refine fun _ middle _ => (?_ : GoAlike source depth (reserve + 16) _ _).agreeAt middle
      infer_instance
  next => exact failHere.agreeAt cursor has

/-- What is left of a group is kept without asking where it ends. -/
instance groupOfRest [source.IsNested] {delimiter : Delimiter} :
    Keeps source depth reserve (Parser.group delimiter keepRest) := by
  unfold Parser.group
  refine ⟨fun cursor has => .look (reading_peek _) ?_⟩
  split
  next =>
      refine .of_ok ?_ rfl rfl
      exact has.forward (Nat.le_of_lt (Source.IsNested.lt_behindTrees _))
  next => exact failHere.agreeAt cursor has

/-! ### Loops -/

section Loops

variable {initial : α} {step step' : α → Parser (Option α)}

theorem iterate (steps : ∀ value, GoAlike source depth reserve (step value) (step' value))
    (fuel : Nat) (value : α) : GoAlike source depth reserve (Parser.iterate step fuel value)
      (Parser.iterate step' fuel value) := by
  induction fuel generalizing value with
  | zero => exact inferInstanceAs (GoAlike source depth reserve (pure value) (pure value))
  | succ fuel inductionHypothesis =>
      have := steps value
      refine andThen fun next => ?_
      cases next with
      | none => exact look
      | some next => exact inductionHypothesis next

theorem loop (steps : ∀ value, GoAlike source depth reserve (step value) (step' value)) :
    GoAlike source depth reserve (Parser.repeating initial step)
      (Parser.repeating initial step') :=
  andThen fun _ => iterate steps _ initial

instance repeating
    [steps : ∀ value, GoAlike source depth reserve (step value) (step' value)] :
    GoAlike source depth reserve (Parser.repeating initial step)
      (Parser.repeating initial step') :=
  loop steps

/-- A loop, and what follows it. -/
theorem loopThen {next next' : α → Parser β}
    (steps : ∀ value, GoAlike source depth reserve (step value) (step' value))
    (behind : ∀ value, GoAlike source depth reserve (next value) (next' value)) :
    GoAlike source depth reserve (Parser.repeating initial step >>= next)
      (Parser.repeating initial step' >>= next') :=
  andThen behind

end Loops

section Lists

variable {condition condition' ending ending' : Parser Bool}
  {element element' separator separator' : Parser Node} {sign : String}
  [GoAlike source depth reserve condition condition']
  [GoAlike source depth reserve ending ending']
  [GoAlike source depth reserve element element']
  [GoAlike source depth reserve separator separator']

instance manyWhile : GoAlike source depth reserve (Parser.manyWhile condition element)
    (Parser.manyWhile condition' element') := by
  unfold Parser.manyWhile
  infer_instance

instance separatedUntil :
    GoAlike source depth reserve (Parser.separatedUntil ending element separator)
      (Parser.separatedUntil ending' element' separator') := by
  unfold Parser.separatedUntil
  infer_instance

instance commaSeparated :
    GoAlike source depth reserve (Parser.commaSeparated element)
      (Parser.commaSeparated element') := by
  unfold Parser.commaSeparated
  infer_instance

instance separatedWhile :
    GoAlike source depth reserve (Parser.separatedWhile ending element sign)
      (Parser.separatedWhile ending' element' sign) := by
  unfold Parser.separatedWhile
  infer_instance

end Lists
/-! ### Names -/

/-- One name more takes one from the reserve and from the depth. -/
theorem deeper (alike : GoAlike source depth reserve first second) :
    GoAlike source (depth + 1) (reserve + 1) first second where
  agreeAt cursor has := by
    have agree := alike.agreeAt cursor ⟨Nat.le_of_succ_le_succ has.le_depth⟩
    refine ⟨agree.same, fun value behind read => ⟨?_⟩, agree.fails⟩
    exact Nat.succ_le_succ (agree.keeps value behind read).le_depth

end GoAlike
end Alike

end Instrument
