import Instrument.Proofs.Settings.Building
import Mathlib.Data.List.Forall2

/-!
# Two readings of a document

A document that can be read as tables can be read as bindings, and both readings go through the text
in the same steps.  The only way for them to part is a table in braces that cannot be built.  Where
it is the value of a key, the document cannot be read at all.  In an array the failure is open, so
the reading as tables takes the array to end in front of the brace; but it does not end there, and
so the document cannot be read either.
-/

namespace Instrument
namespace Toml

open Instrument.Toml.Parser

/-! ## Parsers side by side -/

section Parsers

variable {α β γ δ : Type} {related : α → β → Prop} {related' : γ → δ → Prop}
  {blocked blocked' : List Char → Prop} {first : Parser α} {second : Parser β}

/-- Whatever the first parser reads, the second one reads as well, and what they make of it is
related. -/
def Reads (related : α → β → Prop) (first : Parser α) (second : Parser β) : Prop :=
  ∀ text value rest, first text = .ok (value, rest) →
    ∃ value', second text = .ok (value', rest) ∧ related value value'

/-- The second parser reads what the first one reads, and where the first one leaves other readings
open, so does the second one, unless the text is one of those that may block the first one. -/
structure Follows (blocked : List Char → Prop) (related : α → β → Prop) (first : Parser α)
    (second : Parser β) : Prop where
  reads : Reads related first second
  fails : ∀ text failure, first text = .error failure → failure.isFinal = false →
    blocked text ∨ ∃ failure', second text = .error failure' ∧ failure'.isFinal = false

/-- The first parser is blocked by no text. -/
abbrev Freely (related : α → β → Prop) (first : Parser α) (second : Parser β) : Prop :=
  Follows (fun _ => False) related first second

/-- Every failure of a parser rules out other readings. -/
def IsDecided (parser : Parser α) : Prop :=
  ∀ text failure, parser text = .error failure → failure.isFinal = true

section Bind

variable {parser : Parser α} {next : α → Parser γ} {text rest : List Char} {result : γ}
  {failure : Failure}

theorem parser_bind (parser : Parser α) (next : α → Parser γ) (text : List Char) :
    (parser >>= next) text =
      match parser text with
      | .ok (value, rest) => next value rest
      | .error failure => .error failure :=
  rfl

theorem parser_bind_eq_ok_iff : (parser >>= next) text = .ok (result, rest) ↔
    ∃ value middle, parser text = .ok (value, middle) ∧
      next value middle = .ok (result, rest) := by
  rw [parser_bind]
  split
  next value middle read =>
      rw [read]
      constructor
      · exact fun last => ⟨value, middle, rfl, last⟩
      · rintro ⟨_, _, same, last⟩
        cases same
        exact last
  next failure failed =>
      rw [failed]
      simp

theorem parser_bind_eq_error_iff : (parser >>= next) text = .error failure ↔
    parser text = .error failure ∨ ∃ value middle, parser text = .ok (value, middle) ∧
      next value middle = .error failure := by
  rw [parser_bind]
  split
  next value middle read =>
      rw [read]
      constructor
      · exact fun last => .inr ⟨value, middle, rfl, last⟩
      · rintro (same | ⟨_, _, same, last⟩)
        · cases same
        · cases same
          exact last
  next failure failed =>
      rw [failed]
      simp

theorem final_eq_ok_iff {value : α} {middle : List Char} :
    final parser text = .ok (value, middle) ↔ parser text = .ok (value, middle) := by
  rw [final]
  split
  next read => rw [read]
  next failed => simp [failed]

theorem label_eq_ok_iff {name : String} {value : α} {middle : List Char} :
    label name parser text = .ok (value, middle) ↔ parser text = .ok (value, middle) := by
  rw [label]
  split
  next read => rw [read]
  next failed => simp [failed]

theorem expecting_eq_ok_iff {names : List String} {value : α} {middle : List Char} :
    expecting names parser text = .ok (value, middle) ↔ parser text = .ok (value, middle) := by
  rw [expecting]
  split
  next read => rw [read]
  next failed => simp [failed]

theorem meaning_eq_ok_iff {interpret : α → Except Conflict γ} :
    meaning parser interpret text = .ok (result, rest) ↔
      ∃ value, parser text = .ok (value, rest) ∧ interpret value = .ok result := by
  rw [meaning, checked]
  cases read : parser text with
  | error failure => simp
  | ok found =>
      obtain ⟨value, middle⟩ := found
      cases meant : interpret value with
      | error conflict =>
          simp only [meant]
          refine ⟨nofun, ?_⟩
          rintro ⟨_, same, meant'⟩
          cases same
          cases meant.symm.trans meant'
      | ok result' =>
          simp only [meant, Except.ok.injEq, Prod.mk.injEq]
          constructor
          · rintro ⟨rfl, rfl⟩
            exact ⟨value, ⟨rfl, rfl⟩, meant⟩
          · rintro ⟨_, ⟨rfl, rfl⟩, same⟩
            exact ⟨Except.ok.inj (meant.symm.trans same), rfl⟩

end Bind

namespace Reads

theorem refl (parser : Parser α) : Reads (· = ·) parser parser :=
  fun _ value _ read => ⟨value, read, rfl⟩

theorem pure {value : α} {value' : β} (same : related value value') :
    Reads related (Pure.pure value) (Pure.pure value') := by
  intro text _ rest read
  cases read
  exact ⟨value', rfl, same⟩

theorem bind {next : α → Parser γ} {next' : β → Parser δ} (reads : Reads related first second)
    (onwards : ∀ value value', related value value' → Reads related' (next value) (next' value')) :
    Reads related' (first >>= next) (second >>= next') := by
  intro text result rest read
  obtain ⟨value, middle, read, last⟩ := parser_bind_eq_ok_iff.mp read
  obtain ⟨value', read', same⟩ := reads text value middle read
  obtain ⟨result', last', same'⟩ := onwards value value' same middle result rest last
  exact ⟨result', parser_bind_eq_ok_iff.mpr ⟨value', middle, read', last'⟩, same'⟩

/-- The same parser in front of both. -/
theorem after {next : γ → Parser α} {next' : γ → Parser β} (parser : Parser γ)
    (onwards : ∀ value, Reads related (next value) (next' value)) :
    Reads related (parser >>= next) (parser >>= next') :=
  (refl parser).bind fun value value' same => by
    cases same
    exact onwards value

theorem final (reads : Reads related first second) :
    Reads related (Parser.final first) (Parser.final second) := by
  intro text value rest read
  obtain ⟨value', read', same⟩ := reads text value rest (final_eq_ok_iff.mp read)
  exact ⟨value', final_eq_ok_iff.mpr read', same⟩

theorem label (name : String) (reads : Reads related first second) :
    Reads related (Parser.label name first) (Parser.label name second) := by
  intro text value rest read
  obtain ⟨value', read', same⟩ := reads text value rest (label_eq_ok_iff.mp read)
  exact ⟨value', label_eq_ok_iff.mpr read', same⟩

/-- What was read is given a meaning, which the second reading can always give. -/
theorem meaning {interpret : α → Except Conflict γ} {interpret' : β → Except Conflict δ}
    (reads : Reads related first second)
    (agree : ∀ value value' result, related value value' → interpret value = .ok result →
      ∃ result', interpret' value' = .ok result' ∧ related' result result') :
    Reads related' (Parser.meaning first interpret) (Parser.meaning second interpret') := by
  intro text result rest read
  obtain ⟨value, read, meant⟩ := meaning_eq_ok_iff.mp read
  obtain ⟨value', read', same⟩ := reads text value rest read
  obtain ⟨result', meant', same'⟩ := agree value value' result same meant
  exact ⟨result', meaning_eq_ok_iff.mpr ⟨value', read', meant'⟩, same'⟩

end Reads

namespace Follows

theorem refl (parser : Parser α) : Freely (· = ·) parser parser where
  reads := Reads.refl parser
  fails := fun _ failure failed isOpen => .inr ⟨failure, failed, isOpen⟩

theorem mono (follows : Follows blocked related first second)
    (only : ∀ text, blocked text → blocked' text) : Follows blocked' related first second where
  reads := follows.reads
  fails := fun text failure failed isOpen =>
    (follows.fails text failure failed isOpen).imp_left (only text)

theorem pure {value : α} {value' : β} (same : related value value') :
    Follows blocked related (Pure.pure value) (Pure.pure value') where
  reads := Reads.pure same
  fails := fun _ _ failed _ => by cases failed

/-- The first of two parsers may be blocked, or the second one behind it. -/
theorem bind {next : α → Parser γ} {next' : β → Parser δ}
    (follows : Follows blocked related first second)
    (onwards : ∀ value value', related value value' →
      Follows blocked' related' (next value) (next' value')) :
    Follows (fun text => blocked text ∨
        ∃ value rest, first text = .ok (value, rest) ∧ blocked' rest)
      related' (first >>= next) (second >>= next') where
  reads := follows.reads.bind fun value value' same => (onwards value value' same).reads
  fails := by
    intro text failure failed isOpen
    rcases parser_bind_eq_error_iff.mp failed with failed | ⟨value, middle, read, failed⟩
    · refine (follows.fails text failure failed isOpen).imp .inl ?_
      rintro ⟨failure', failed', isOpen'⟩
      exact ⟨failure', parser_bind_eq_error_iff.mpr (.inl failed'), isOpen'⟩
    · obtain ⟨value', read', same⟩ := follows.reads text value middle read
      refine ((onwards value value' same).fails middle failure failed isOpen).imp ?_ ?_
      · exact fun inside => .inr ⟨value, middle, read, inside⟩
      · rintro ⟨failure', failed', isOpen'⟩
        exact ⟨failure', parser_bind_eq_error_iff.mpr (.inr ⟨value', middle, read', failed'⟩),
          isOpen'⟩

/-- The same parser in front of both. -/
theorem after {next : γ → Parser α} {next' : γ → Parser β} (parser : Parser γ)
    (onwards : ∀ value, Follows blocked related (next value) (next' value)) :
    Follows (fun text => ∃ value rest, parser text = .ok (value, rest) ∧ blocked rest)
      related (parser >>= next) (parser >>= next') := by
  have same (value value' : γ) (same : value = value') :
      Follows blocked related (next value) (next' value') := same ▸ onwards value
  exact ((refl parser).bind same).mono fun text inside => inside.resolve_left id

/-- Behind a parser that may be blocked, no other one is. -/
theorem andThen {next : α → Parser γ} {next' : β → Parser δ}
    (follows : Follows blocked related first second)
    (onwards : ∀ value value', related value value' →
      Freely related' (next value) (next' value')) :
    Follows blocked related' (first >>= next) (second >>= next') :=
  (follows.bind onwards).mono fun _ inside => inside.resolve_right fun ⟨_, _, _, no⟩ => no

theorem of_isDecided (reads : Reads related first second) (decided : IsDecided first) :
    Freely related first second where
  reads := reads
  fails := fun text failure failed isOpen => by
    rw [decided text failure failed] at isOpen
    cases isOpen

theorem of_reads (reads : Reads related first second) :
    Follows (fun _ => True) related first second where
  reads := reads
  fails := fun _ _ _ _ => .inl trivial

/-- What is read depends on the next character, and so does what blocks it. -/
theorem peek (blocked : Char → Prop) {next : Char → Parser α} {next' : Char → Parser β}
    (follows : ∀ first, Follows (fun _ => blocked first) related (next first) (next' first)) :
    Follows (fun text => ∃ first, text.head? = some first ∧ blocked first) related
      (Parser.peek >>= next) (Parser.peek >>= next') where
  reads := Reads.after Parser.peek fun first => (follows first).reads
  fails := by
    intro text failure failed isOpen
    cases text with
    | nil => exact .inr ⟨_, rfl, rfl⟩
    | cons first rest =>
        refine ((follows first).fails _ failure failed isOpen).imp_left fun stuck => ?_
        exact ⟨first, rfl, stuck⟩

end Follows

theorem isDecided_final (parser : Parser α) : IsDecided (final parser) := by
  intro text failure failed
  rw [final] at failed
  split at failed
  next => cases failed
  next =>
      cases failed
      rfl

theorem isDecided_pure (value : α) : IsDecided (pure value : Parser α) := by
  intro text failure failed
  cases failed

theorem IsDecided.bind {parser : Parser α} {next : α → Parser γ} (decided : IsDecided parser)
    (onwards : ∀ value, IsDecided (next value)) : IsDecided (parser >>= next) := by
  intro text failure failed
  rcases parser_bind_eq_error_iff.mp failed with failed | ⟨value, middle, _, failed⟩
  · exact decided text failure failed
  · exact onwards value middle failure failed

theorem IsDecided.label {parser : Parser α} (decided : IsDecided parser) (name : String) :
    IsDecided (label name parser) := by
  intro text failure failed
  rw [Parser.label] at failed
  split at failed
  next => cases failed
  next failure' failed' =>
      cases failed
      exact decided text failure' failed'

theorem IsDecided.expecting {parser : Parser α} (decided : IsDecided parser)
    (names : List String) : IsDecided (expecting names parser) := by
  intro text failure failed
  rw [Parser.expecting] at failed
  split at failed
  next => cases failed
  next failure' failed' =>
      cases failed
      exact decided text failure' failed'

/-- Behind the same parser, where every failure is final, it is enough to compare what is read. -/
theorem Follows.of_isDecided_after {parser : Parser γ} {next : γ → Parser α} {next' : γ → Parser β}
    (reads : Reads related (parser >>= next) (parser >>= next'))
    (decided : ∀ value, IsDecided (next value)) :
    Freely related (parser >>= next) (parser >>= next') where
  reads := reads
  fails := by
    intro text failure failed isOpen
    rcases parser_bind_eq_error_iff.mp failed with failed | ⟨value, middle, _, failed⟩
    · exact .inr ⟨failure, parser_bind_eq_error_iff.mpr (.inl failed), isOpen⟩
    · rw [decided value middle failure failed] at isOpen
      cases isOpen

/-! ## Repetition -/

theorem isDecided_optional (parser : Parser α) : IsDecided (optional parser) := by
  intro text failure failed
  rw [Parser.optional] at failed
  split at failed
  next => cases failed
  next =>
      split at failed
      next isFinal =>
          cases failed
          exact isFinal
      next => cases failed

theorem optional_eq_ok_iff {parser : Parser α} {text rest : List Char} {found : Option α} :
    optional parser text = .ok (found, rest) ↔
      (∃ value, found = some value ∧ parser text = .ok (value, rest)) ∨
        (found = none ∧ rest = text ∧
          ∃ failure, parser text = .error failure ∧ failure.isFinal = false) := by
  rw [Parser.optional]
  split
  next value middle read =>
      rw [read]
      constructor
      · intro same
        cases same
        exact .inl ⟨value, rfl, rfl⟩
      · rintro (⟨_, rfl, same⟩ | ⟨_, _, _, same, _⟩)
        · cases same
          rfl
        · cases same
  next failure failed =>
      rw [failed]
      cases isFinal : failure.isFinal with
      | true => simp [isFinal]
      | false =>
          constructor
          · intro same
            cases same
            exact .inr ⟨rfl, rfl, failure, rfl, isFinal⟩
          · rintro (⟨_, _, same⟩ | ⟨rfl, rfl, _⟩)
            · cases same
            · rfl

theorem isDecided_iterate (step : α → Parser α) (fuel : Nat) (value : α) :
    IsDecided (iterate step fuel value) := by
  induction fuel generalizing value with
  | zero => exact isDecided_pure value
  | succ fuel inductionHypothesis =>
      refine (isDecided_optional (step value)).bind fun found => ?_
      cases found with
      | none => exact isDecided_pure value
      | some next => exact inductionHypothesis next

theorem isDecided_many (parser : Parser α) : IsDecided (many parser) := by
  refine IsDecided.bind (fun text => ?_) fun found => isDecided_pure found.reverse
  exact isDecided_iterate _ text.length [] text

namespace Follows

/-- Steps are repeated alongside each other, until both parsers stop or the first one is blocked. -/
theorem iterate {step : α → Parser α} {step' : β → Parser β}
    (follows : ∀ value value', related value value' →
      Follows blocked related (step value) (step' value'))
    {fuel : Nat} {value result : α} {value' : β} {text rest : List Char}
    (same : related value value') (read : iterate step fuel value text = .ok (result, rest)) :
    blocked rest ∨ ∃ result', Parser.iterate step' fuel value' text = .ok (result', rest) ∧
      related result result' := by
  induction fuel generalizing value value' text with
  | zero =>
      cases read
      exact .inr ⟨value', rfl, same⟩
  | succ fuel inductionHypothesis =>
      obtain ⟨found, middle, tried, last⟩ := parser_bind_eq_ok_iff.mp read
      rcases optional_eq_ok_iff.mp tried with
        ⟨next, rfl, read⟩ | ⟨rfl, rfl, failure, failed, isOpen⟩
      · obtain ⟨next', read', same⟩ := (follows value value' same).reads text next middle read
        refine (inductionHypothesis same last).imp_right fun ⟨result', last', same'⟩ => ?_
        refine ⟨result', parser_bind_eq_ok_iff.mpr ⟨some next', middle, ?_, last'⟩, same'⟩
        exact optional_eq_ok_iff.mpr (.inl ⟨next', rfl, read'⟩)
      · cases last
        refine ((follows _ value' same).fails _ failure failed isOpen).imp_right ?_
        rintro ⟨failure', failed', isOpen'⟩
        refine ⟨value', parser_bind_eq_ok_iff.mpr ⟨none, _, ?_, rfl⟩, same⟩
        exact optional_eq_ok_iff.mpr (.inr ⟨rfl, rfl, failure', failed', isOpen'⟩)

theorem many {text rest : List Char} {values : List α}
    (follows : Follows blocked related first second)
    (read : many first text = .ok (values, rest)) :
    blocked rest ∨ ∃ values', Parser.many second text = .ok (values', rest) ∧
      List.Forall₂ related values values' := by
  obtain ⟨found, middle, found, last⟩ := parser_bind_eq_ok_iff.mp read
  cases last
  have step (earlier : List α) (earlier' : List β) (same : List.Forall₂ related earlier earlier') :
      Follows blocked (List.Forall₂ related) (do return (← first) :: earlier)
        (do return (← second) :: earlier') :=
    follows.andThen fun value value' related => Follows.pure (List.Forall₂.cons related same)
  refine (Follows.iterate step List.Forall₂.nil found).imp_right fun ⟨found', read', same⟩ => ?_
  exact ⟨found'.reverse, parser_bind_eq_ok_iff.mpr ⟨found', rest, read', rfl⟩,
    List.rel_reverse same⟩

/-- Values with separators are read alongside each other, until the first parser is blocked in front
of the first value or behind a separator. -/
theorem separatedOrNone {text rest : List Char} {values : List α} (separator : Parser γ)
    (follows : Follows blocked related first second)
    (read : separatedOrNone separator first text = .ok (values, rest)) :
    (∃ values', Parser.separatedOrNone separator second text = .ok (values', rest) ∧
        List.Forall₂ related values values') ∨
      (values = [] ∧ blocked rest) ∨
      (values ≠ [] ∧ ∃ mark behind, separator rest = .ok (mark, behind) ∧ blocked behind) := by
  have whole (found : Option (List β)) (tried : optional (separated separator second) text =
      .ok (found, rest)) : Parser.separatedOrNone separator second text =
        .ok (found.getD [], rest) := parser_bind_eq_ok_iff.mpr ⟨found, rest, tried, rfl⟩
  obtain ⟨found, middle, tried, last⟩ := parser_bind_eq_ok_iff.mp read
  cases last
  rcases optional_eq_ok_iff.mp tried with ⟨values, rfl, all⟩ | ⟨rfl, rfl, failure, failed, isOpen⟩
  · obtain ⟨value, middle, here, more⟩ := parser_bind_eq_ok_iff.mp all
    obtain ⟨values, middle', more, last⟩ := parser_bind_eq_ok_iff.mp more
    cases last
    obtain ⟨value', here', same⟩ := follows.reads text value middle here
    have behind : Follows (fun text => ∃ mark behind, separator text = .ok (mark, behind) ∧
        blocked behind) related (do let _ ← separator; first) (do let _ ← separator; second) :=
      Follows.after separator fun _ => follows
    rcases Follows.many behind more with stuck | ⟨values', more', same'⟩
    · exact .inr (.inr ⟨List.cons_ne_nil _ _, stuck⟩)
    · refine .inl ⟨value' :: values', whole (some (value' :: values')) ?_,
        List.Forall₂.cons same same'⟩
      refine optional_eq_ok_iff.mpr (.inl ⟨_, rfl, ?_⟩)
      refine parser_bind_eq_ok_iff.mpr ⟨value', middle, here', ?_⟩
      exact parser_bind_eq_ok_iff.mpr ⟨values', rest, more', rfl⟩
  · rcases parser_bind_eq_error_iff.mp failed with failed | ⟨_, middle, _, more⟩
    · rcases follows.fails _ failure failed isOpen with stuck | ⟨failure', failed', isOpen'⟩
      · exact .inr (.inl ⟨rfl, stuck⟩)
      · refine .inl ⟨[], whole none ?_, List.Forall₂.nil⟩
        refine optional_eq_ok_iff.mpr (.inr ⟨rfl, rfl, failure', ?_, isOpen'⟩)
        exact parser_bind_eq_error_iff.mpr (.inl failed')
    · have decided := ((isDecided_many _).bind fun _ => isDecided_pure _) middle failure more
      rw [decided] at isOpen
      cases isOpen

end Follows

theorem Reads.separatedOrNone (separator : Parser γ) (follows : Freely related first second) :
    Reads (List.Forall₂ related) (Parser.separatedOrNone separator first)
      (Parser.separatedOrNone separator second) := by
  intro text values rest read
  rcases Follows.separatedOrNone separator follows read with done | ⟨_, no⟩ | ⟨_, _, _, _, no⟩
  · exact done
  · exact no.elim
  · exact no.elim

end Parsers
end Toml
end Instrument
