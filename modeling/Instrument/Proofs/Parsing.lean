import Instrument.Grammar.Parse

/-!
# What a parser reads

A parser is a sequence of steps, and a property of what it reads is proved along these steps.
`Yields` is this property of a single parser: it says nothing about which sources are read, only
what the result is when one is.  `Leaves` also tells where the parser stops, given where it starts.
`Fails` says of a place in a source that the parser reads nothing there.  For each of them there is
one lemma for each way in which parsers are put together, so that a proof about a rule of the
grammar follows the text of the rule.

The names that the rules refer to are interpreted to a depth, and at depth zero no name is.  A
property that the rule of a name has under every interpretation of the other names therefore holds
of the name at every depth.
-/

namespace Instrument

/-- A result that passes a test is there. -/
theorem exists_ok_of_any {ε α : Type} {result : Except ε α} {test : α → Bool}
    (passes : result.toOption.any test = true) : ∃ value, result = .ok value ∧ test value = true := by
  cases result with
  | error failure => cases passes
  | ok value => exact ⟨value, rfl, passes⟩

namespace Parser

section Steps

variable {α β : Type} (source : Source) (cursor : Cursor)

/-- The result of a parser at a place in a source, and the place behind it. -/
def reading (parser : Parser α) : Except Failure (α × Cursor) :=
  (parser.run source).run cursor

theorem reading_bind (parser : Parser α) (next : α → Parser β) :
    reading source cursor (parser >>= next) =
      match reading source cursor parser with
      | .ok (value, behind) => reading source behind (next value)
      | .error failure => .error failure := by
  unfold reading
  rw [ReaderT.run_bind, StateT.run_bind]
  cases (parser.run source).run cursor <;> rfl

theorem reading_orElse (first second : Parser α) :
    reading source cursor (first <|> second) =
      match reading source cursor first with
      | .ok result => .ok result
      | .error _ => reading source cursor second := by
  change Except.tryCatch (reading source cursor first) (fun _ => reading source cursor second) = _
  cases reading source cursor first <;> rfl

/-- What is attempted and fails leaves no trace. -/
theorem reading_attempt (parser : Parser α) :
    reading source cursor (attempt parser) =
      match reading source cursor parser with
      | .ok (value, behind) => .ok (some value, behind)
      | .error _ => .ok (none, cursor) := by
  rw [attempt, reading_orElse, reading_bind]
  cases reading source cursor parser <;> rfl

/-- Trying whether a parser succeeds leaves no trace. -/
theorem reading_succeeds (parser : Parser α) :
    reading source cursor (succeeds parser) =
      match reading source cursor parser with
      | .ok _ => .ok (true, cursor)
      | .error _ => .ok (false, cursor) := by
  have here : reading source cursor (MonadState.get : Parser Cursor) = .ok (cursor, cursor) := rfl
  rw [succeeds, reading_bind, here]
  dsimp only
  rw [reading_bind, reading_orElse, reading_bind]
  cases reading source cursor parser <;> rfl

end Steps

/-- Whatever a parser reads has a property. -/
def Yields {α : Type} (parser : Parser α) (property : α → Prop) : Prop :=
  ∀ source cursor value behind,
    reading source cursor parser = .ok (value, behind) → property value

namespace Yields

variable {α β : Type} {property : α → Prop} {other : β → Prop}

theorem pure {value : α} (holds : property value) : Yields (Pure.pure value) property := by
  intro source cursor result behind read
  cases read
  exact holds

theorem bind {parser : Parser α} {next : α → Parser β} (first : Yields parser property)
    (second : ∀ value, property value → Yields (next value) other) :
    Yields (parser >>= next) other := by
  intro source cursor result behind read
  rw [reading_bind] at read
  split at read
  next value middle reached =>
      exact second value (first source cursor value middle reached) source middle result behind read
  next => cases read

/-- What follows a step that need not be known has the property by itself. -/
theorem after {parser : Parser α} {next : α → Parser β}
    (second : ∀ value, Yields (next value) other) : Yields (parser >>= next) other := by
  have anything : Yields parser fun _ => True := fun _ _ _ _ _ => trivial
  exact bind anything fun value _ => second value

theorem throw (failure : Failure) : Yields (MonadExcept.throw failure) property := by
  intro source cursor result behind read
  cases read

theorem failHere (cause : Cause) : Yields (Parser.failHere cause) property :=
  after fun _ => throw _

theorem ite {condition : Bool} {yes no : Parser α} (first : Yields yes property)
    (second : Yields no property) :
    Yields (if condition = true then yes else no) property := by
  split
  next => exact first
  next => exact second

/-- The content of a group is read by the parser of the content. -/
theorem group {delimiter : Delimiter} {content : Parser α} (inside : Yields content property) :
    Yields (Parser.group delimiter content) fun found => property found.content := by
  refine after fun present => ite ?_ (failHere _)
  refine after fun outside => after fun source => after fun _ => ?_
  refine bind inside fun value holds => ?_
  exact after fun cursor => after fun _ => pure holds

/-- The brackets of a group are single tokens. -/
theorem brackets {delimiter : Delimiter} {content : Parser α} :
    Yields (Parser.group delimiter content) fun found =>
      (∃ citation, found.opening = .leaf citation) ∧ ∃ citation, found.closing = .leaf citation := by
  refine after fun present => ite ?_ (failHere _)
  refine after fun outside => after fun source => after fun _ => after fun value => ?_
  exact after fun cursor => after fun _ => pure ⟨⟨_, rfl⟩, _, rfl⟩

/-- What is read second of two. -/
theorem pair {first : Parser α} {parser : Parser β} (inside : Yields parser other) :
    Yields (do let before ← first; Pure.pure (before, ← parser)) fun both => other both.2 :=
  after fun _ => bind inside fun _ holds => pure holds

/-- What every step keeps is kept by any number of steps. -/
theorem iterate {step : α → Parser (Option α)}
    (keeps : ∀ value, property value →
      Yields (step value) fun next => ∀ found ∈ next, property found)
    (fuel : Nat) (value : α) (holds : property value) :
    Yields (Parser.iterate step fuel value) property := by
  induction fuel generalizing value with
  | zero => exact pure holds
  | succ fuel inductionHypothesis =>
      refine bind (keeps value holds) fun next kept => ?_
      cases next with
      | none => exact pure holds
      | some next => exact inductionHypothesis next (kept next rfl)

theorem repeating {step : α → Parser (Option α)} {initial : α}
    (keeps : ∀ value, property value →
      Yields (step value) fun next => ∀ found ∈ next, property found)
    (holds : property initial) : Yields (Parser.repeating initial step) property :=
  after fun count => iterate keeps (count + 1) initial holds

/-- What the first step leads to, and every further step keeps. -/
theorem repeating_of_first {step : α → Parser (Option α)} {initial : α}
    (first : Yields (step initial) fun next => ∃ found ∈ next, property found)
    (keeps : ∀ value, property value →
      Yields (step value) fun next => ∀ found ∈ next, property found) :
    Yields (Parser.repeating initial step) property := by
  refine after fun count => bind first ?_
  rintro _ ⟨found, ⟨⟩, holds⟩
  exact iterate keeps count found holds

/-- Elements are read by the parser of an element, each of them. -/
theorem manyWhile {condition : Parser Bool} {element : Parser Node} {property : Node → Prop}
    (inside : Yields element property) :
    Yields (Parser.manyWhile condition element) fun found => ∀ part ∈ found, property part := by
  have all : Yields (Parser.repeating [] fun found => do
      if ← condition then return some ((← element) :: found) else return none)
      fun found => ∀ part ∈ found, property part := by
    refine repeating (fun found all => after fun goesOn => ite ?_ (pure nofun)) nofun
    refine bind inside fun part holds => pure ?_
    rintro _ ⟨⟩
    exact List.forall_mem_cons.mpr ⟨holds, all⟩
  exact bind all fun found all => pure fun part member => all part (List.mem_reverse.mp member)

end Yields

/-- From a place in a source on, a parser reads a value and stops at a place that have a property
together. -/
def Leaves {α : Type} (source : Source) (cursor : Cursor) (parser : Parser α)
    (property : α → Cursor → Prop) : Prop :=
  ∀ value behind, reading source cursor parser = .ok (value, behind) → property value behind

namespace Leaves

variable {α β : Type} {source : Source} {cursor : Cursor} {property : α → Cursor → Prop}
  {other : β → Cursor → Prop}

theorem pure {value : α} (holds : property value cursor) :
    Leaves source cursor (Pure.pure value) property := by
  intro result behind read
  cases read
  exact holds

theorem bind {parser : Parser α} {next : α → Parser β} (first : Leaves source cursor parser property)
    (second : ∀ value middle, property value middle → Leaves source middle (next value) other) :
    Leaves source cursor (parser >>= next) other := by
  intro result behind read
  rw [reading_bind] at read
  split at read
  next value middle reached => exact second value middle (first value middle reached) _ _ read
  next => cases read

/-- A step that only looks at the source stops where it starts. -/
theorem look {parser : Parser α} {next : α → Parser β} {value : α}
    (looks : reading source cursor parser = .ok (value, cursor))
    (second : Leaves source cursor (next value) other) :
    Leaves source cursor (parser >>= next) other := by
  intro result behind read
  rw [reading_bind, looks] at read
  exact second _ _ read

theorem throw (failure : Failure) : Leaves source cursor (MonadExcept.throw failure) property := by
  intro result behind read
  cases read

theorem failHere (cause : Cause) : Leaves source cursor (Parser.failHere cause) property :=
  look rfl (throw _)

/-- A step of which nothing need be known. -/
theorem after {parser : Parser α} {next : α → Parser β}
    (second : ∀ value middle, Leaves source middle (next value) other) :
    Leaves source cursor (parser >>= next) other := by
  have anything : Leaves source cursor parser fun _ _ => True := fun _ _ _ => trivial
  exact bind anything fun value middle _ => second value middle

/-- What every step keeps, also where the steps stop, is kept by any number of steps. -/
theorem iterate {step : α → Parser (Option α)}
    (keeps : ∀ value cursor, property value cursor → Leaves source cursor (step value)
      fun next behind => match next with
        | some next => property next behind
        | none => property value behind)
    (fuel : Nat) (value : α) (holds : property value cursor) :
    Leaves source cursor (Parser.iterate step fuel value) property := by
  induction fuel generalizing value cursor with
  | zero => exact pure holds
  | succ fuel inductionHypothesis =>
      refine bind (keeps value cursor holds) fun next middle kept => ?_
      cases next with
      | none => exact pure kept
      | some next => exact inductionHypothesis next kept

theorem repeating {step : α → Parser (Option α)} {initial : α}
    (keeps : ∀ value cursor, property value cursor → Leaves source cursor (step value)
      fun next behind => match next with
        | some next => property next behind
        | none => property value behind)
    (holds : property initial cursor) :
    Leaves source cursor (Parser.repeating initial step) property :=
  look rfl (iterate keeps _ initial holds)

/-- Elements are read by the parser of an element, wherever it is. -/
theorem manyWhile {condition : Parser Bool} {element : Parser Node} {property : Node → Prop}
    (inside : ∀ cursor, Leaves source cursor element fun part _ => property part) :
    Leaves source cursor (Parser.manyWhile condition element)
      fun found _ => ∀ part ∈ found, property part := by
  refine bind (?_ : Leaves source cursor _ fun found _ => ∀ part ∈ found, property part) ?_
  · refine repeating (fun found cursor all => after fun goesOn middle => ?_) nofun
    split
    next => exact bind (inside middle) fun part _ holds => pure (List.forall_mem_cons.mpr ⟨holds, all⟩)
    next => exact pure all
  · exact fun found middle all => pure fun part member => all part (List.mem_reverse.mp member)

theorem group {delimiter : Delimiter} {content : Parser α}
    (inside : ∀ start : Cursor, start.limit = behindTrees source cursor.position 1 - 1 →
      Leaves source start content property) :
    Leaves source cursor (Parser.group delimiter content) fun found _ =>
      stands (.group delimiter) source cursor cursor.position = true ∧
        ∃ middle, property found.content middle := by
  refine look rfl ?_
  split
  next present =>
      refine look rfl (look rfl ?_)
      refine bind (?_ : Leaves source cursor _ fun _ start =>
        start.limit = behindTrees source cursor.position 1 - 1) fun _ start limit => ?_
      · intro _ start read
        cases read
        rfl
      refine bind (inside start limit) fun value middle holds => ?_
      exact after fun _ _ => after fun _ _ => pure ⟨present, middle, holds⟩
  next => exact failHere _

end Leaves

/-- A parser reads nothing at a place in a source. -/
def Fails {α : Type} (source : Source) (cursor : Cursor) (parser : Parser α) : Prop :=
  ∃ failure, reading source cursor parser = .error failure

section Failing

variable {α β : Type} {source : Source} {cursor : Cursor}

theorem reading_peek (terminal : Terminal) :
    reading source cursor (peek terminal) =
      .ok (stands terminal source cursor cursor.position, cursor) :=
  rfl

theorem reading_peekBehind (count : Nat) (terminal : Terminal) :
    reading source cursor (peekBehind count terminal) =
      .ok (stands terminal source cursor (behindTrees source cursor.position count), cursor) :=
  rfl

/-- Punctuation of one character is read by moving over it. -/
theorem reading_mark {text : String} (single : text.length = 1)
    (present : stands (.mark text) source cursor cursor.position = true) :
    reading source cursor (mark text) =
      .ok (.leaf (.read cursor.position), { cursor with position := cursor.position + 1 }) := by
  rw [mark, peekMark, reading_bind, reading_peek]
  dsimp only
  rw [present, single]
  rfl

namespace Fails

theorem bind {parser : Parser α} {next : α → Parser β} (first : Fails source cursor parser) :
    Fails source cursor (parser >>= next) := by
  obtain ⟨failure, fails⟩ := first
  exact ⟨failure, by rw [reading_bind, fails]⟩

theorem bind_of_reading {parser : Parser α} {next : α → Parser β} {value : α} {behind : Cursor}
    (read : reading source cursor parser = .ok (value, behind))
    (second : Fails source behind (next value)) : Fails source cursor (parser >>= next) := by
  obtain ⟨failure, fails⟩ := second
  exact ⟨failure, by rw [reading_bind, read]; exact fails⟩

theorem group {delimiter : Delimiter} {content : Parser α}
    (missing : stands (.group delimiter) source cursor cursor.position = false) :
    Fails source cursor (Parser.group delimiter content) := by
  refine bind_of_reading (reading_peek _) ?_
  rw [missing]
  exact bind_of_reading rfl ⟨_, rfl⟩

/-- Elements cannot be read where one has to be read and cannot be. -/
theorem manyWhile {condition : Parser Bool} {element : Parser Node}
    (holds : reading source cursor condition = .ok (true, cursor))
    (fails : Fails source cursor element) :
    Fails source cursor (Parser.manyWhile condition element) := by
  refine bind (bind_of_reading rfl (bind ?_))
  exact bind_of_reading holds (bind fails)

end Fails
end Failing
end Parser

/-! ## All tokens -/

namespace Grammar

open Instrument.Parser

/-- A source is read if a parser reads it and stops at its end, with no group left early. -/
theorem cite_eq_ok_iff {start : [Rules] → Parser Node} {source : Source} {tree : Node} :
    cite start source = .ok tree ↔
      ∃ behind, reading source ⟨0, source.tokens.size, none⟩
          (@start (rulesFor source.tokens.size)) = .ok (tree, behind) ∧
        behind.leftover = none ∧ source.tokens.size ≤ behind.position := by
  have run : ((@start (rulesFor source.tokens.size)).run source).run ⟨0, source.tokens.size, none⟩ =
      reading source ⟨0, source.tokens.size, none⟩ (@start (rulesFor source.tokens.size)) := rfl
  unfold cite
  dsimp only
  rw [run]
  cases reading source ⟨0, source.tokens.size, none⟩ (@start (rulesFor source.tokens.size)) with
  | error failure => simp
  | ok result =>
      obtain ⟨found, position, limit, leftover⟩ := result
      cases leftover with
      | some delimiter => simp
      | none =>
          by_cases early : position < source.tokens.size
          · simp [early]
          · simp only [early, if_false]
            constructor
            · rintro ⟨⟩
              exact ⟨_, rfl, rfl, Nat.le_of_not_lt early⟩
            · rintro ⟨_, ⟨⟩, _⟩
              rfl

/-- Tokens are parsed by looking up what a tree cites. -/
theorem parseTokens_eq_ok_iff {start : [Rules] → Parser Node} {tokens : List Token}
    {tree : Tree Token} :
    parseTokens start tokens = .ok tree ↔
      ∃ cited, cite start (Source.ofTokens tokens) = .ok cited ∧
        tree = cited.map (Citation.token (Source.ofTokens tokens)) := by
  unfold parseTokens
  dsimp only
  cases cite start (Source.ofTokens tokens) with
  | error failure => simp
  | ok cited => simp [eq_comm]

end Grammar
end Instrument
