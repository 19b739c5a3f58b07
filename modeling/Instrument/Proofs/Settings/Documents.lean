import Instrument.Proofs.Settings.Alongside

/-!
# Documents and their bindings

Rule by rule of the grammar: where a document can be read as tables, it can be read as bindings, and
the tables agree with the bindings.
-/

namespace Instrument
namespace Toml

open Instrument.Toml.Parser

/-! ## Arrays -/

/-- A table in braces comes next.  It is the only value that may fail to be built. -/
def AtBrace (text : List Char) : Prop :=
  text.head? = some '\x7b'

section Arrays

variable {α β : Type} {related : α → β → Prop} {first : Parser α} {second : Parser β}
  {text rest : List Char}

/-- An element is blocked where the blanks in front of it lead to a brace. -/
theorem follows_arrayElement (follows : Follows AtBrace related first second) :
    Follows (fun text => ∃ blanks rest, blankOrComments text = .ok (blanks, rest) ∧ AtBrace rest)
      related (arrayElement first) (arrayElement second) := by
  refine Follows.after blankOrComments fun _ => follows.andThen fun value value' same => ?_
  exact (Follows.refl blankOrComments).andThen fun _ _ _ => Follows.pure same

theorem elementsEnd_of_comma {mark : Char} {behind : List Char}
    (comma : char ',' text = .ok (mark, behind)) :
    elementsEnd false text = blankOrComments behind := by
  have taken : optional (char ',') text = .ok (some mark, behind) :=
    optional_eq_ok_iff.mpr (.inl ⟨mark, rfl, comma⟩)
  exact (parser_bind _ _ text).trans (by rw [taken])

/-- Elements are read alongside each other, or stop in front of a brace. -/
theorem arrayElements_or_atBrace {elements : List α}
    (follows : Follows AtBrace related first second)
    (read : arrayElements first text = .ok (elements, rest)) :
    (∃ elements', arrayElements second text = .ok (elements', rest)) ∨ AtBrace rest := by
  rw [arrayElements] at read
  obtain ⟨closing, middle, tried, read⟩ := parser_bind_eq_ok_iff.mp read
  cases closed : closing.isSome with
  | true =>
      rw [if_pos closed] at read
      cases read
      refine .inl ⟨[], parser_bind_eq_ok_iff.mpr ⟨closing, _, tried, ?_⟩⟩
      rw [if_pos closed]
      rfl
  | false =>
      rw [if_neg (Bool.eq_false_iff.mp closed)] at read
      obtain ⟨values, behind, found, read⟩ := parser_bind_eq_ok_iff.mp read
      obtain ⟨_, _, ended, same⟩ := parser_bind_eq_ok_iff.mp read
      cases same
      rcases Follows.separatedOrNone (char ',') (follows_arrayElement follows) found with
        ⟨values', found', same⟩ | ⟨rfl, blanks, _, before, brace⟩ |
          ⟨some, mark, _, comma, blanks, _, before, brace⟩
      · refine .inl ⟨values', parser_bind_eq_ok_iff.mpr ⟨closing, middle, tried, ?_⟩⟩
        rw [if_neg (Bool.eq_false_iff.mp closed)]
        refine parser_bind_eq_ok_iff.mpr ⟨values', behind, found', ?_⟩
        have isEmpty : values'.isEmpty = elements.isEmpty := by
          cases same <;> rfl
        rw [isEmpty]
        exact parser_bind_eq_ok_iff.mpr ⟨_, _, ended, rfl⟩
      · cases before.symm.trans ended
        exact .inr brace
      · rw [List.isEmpty_eq_false_iff.mpr some, elementsEnd_of_comma comma] at ended
        cases before.symm.trans ended
        exact .inr brace

end Arrays

/-! ## Values -/

/-- An item agrees with what its value says. -/
abbrev AgreesWith (item : Item) (said : List Binding) : Prop :=
  Agrees said item

section Values

variable {inside : Option (Parser Item)} {inside' : Option (Parser (List Binding))}

theorem isDecided_nested {α γ : Type} {inside : Option (Parser α)} {content : Parser α → Parser γ}
    (decided : ∀ value, IsDecided (content value)) : IsDecided (nested inside content) := by
  cases inside with
  | none =>
      rw [nested]
      exact isDecided_final _
  | some value => exact decided value

/-- Elements that stop in front of a brace do not stop at the end of an array, so an array is read
alongside. -/
theorem reads_arrayWith (follows : Option.Rel (Follows AtBrace AgreesWith) inside inside') :
    Reads AgreesWith (arrayWith .tables inside) (arrayWith .bindings inside') := by
  refine Reads.after _ fun _ text item rest read => ?_
  obtain ⟨elements, middle, content, closing⟩ := parser_bind_eq_ok_iff.mp read
  obtain ⟨_, behind, close, same⟩ := parser_bind_eq_ok_iff.mp closing
  cases same
  cases follows with
  | none => cases content
  | some follows =>
      rcases arrayElements_or_atBrace follows (final_eq_ok_iff.mp content) with
        ⟨said, content'⟩ | brace
      · refine ⟨[⟨[], .array⟩], parser_bind_eq_ok_iff.mpr ⟨said, middle, ?_, ?_⟩, ?_⟩
        · exact final_eq_ok_iff.mpr content'
        · exact parser_bind_eq_ok_iff.mpr ⟨_, _, close, rfl⟩
        · exact (agrees_of_entries?_eq_none rfl).mpr rfl
      · have close := final_eq_ok_iff.mp (label_eq_ok_iff.mp (expecting_eq_ok_iff.mp close))
        cases middle with
        | nil => cases brace
        | cons first more =>
            cases brace
            cases close

theorem follows_arrayWith (follows : Option.Rel (Follows AtBrace AgreesWith) inside inside') :
    Freely AgreesWith (arrayWith .tables inside) (arrayWith .bindings inside') := by
  refine Follows.of_isDecided_after (reads_arrayWith follows) fun _ => ?_
  refine (isDecided_nested fun value => isDecided_final _).bind fun elements => ?_
  exact (((isDecided_final _).label _).expecting _).bind fun _ => isDecided_pure _

theorem follows_inlinePair {first : Parser Item} {second : Parser (List Binding)}
    (reads : Reads AgreesWith first second) :
    Freely AgreePair (inlinePair first) (inlinePair second) := by
  refine Follows.of_isDecided_after (Reads.after keyPath fun path => Reads.final ?_) fun _ =>
    isDecided_final _
  refine Reads.after equals fun _ => Reads.after spaces fun _ => ?_
  exact reads.bind fun item said agrees => Reads.after spaces fun _ => Reads.pure ⟨rfl, agrees⟩

theorem reads_inlinePairs {first : Parser Item} {second : Parser (List Binding)}
    (reads : Reads AgreesWith first second) :
    Reads (List.Forall₂ AgreePair) (inlinePairs first) (inlinePairs second) :=
  (Reads.separatedOrNone (char ',') (follows_inlinePair reads)).bind fun _ _ agree =>
    Reads.after spaces fun _ => Reads.pure agree

/-- A table in braces may fail to be built, but if it is, it is read alongside. -/
theorem reads_inlineWith (follows : Option.Rel (Follows AtBrace AgreesWith) inside inside') :
    Reads AgreesWith (inlineWith .tables inside) (inlineWith .bindings inside') := by
  refine Reads.after _ fun _ => Reads.bind ?_ fun item said agrees => Reads.after _ fun _ =>
    Reads.pure agrees
  cases follows with
  | none =>
      intro text item rest read
      cases read
  | some follows =>
      exact (Reads.final (reads_inlinePairs follows.reads)).meaning fun _ said _ agree built =>
        ⟨inlineBindings said, rfl, agrees_inlineTable built agree⟩

theorem follows_valueWith (follows : Option.Rel (Follows AtBrace AgreesWith) inside inside') :
    Follows AtBrace AgreesWith (valueWith .tables inside) (valueWith .bindings inside') := by
  refine (Follows.peek (· = '\x7b') fun first => ?_).mono ?_
  · by_cases array : first == '['
    · rw [if_pos array, if_pos array]
      exact (follows_arrayWith follows).mono fun _ => False.elim
    rw [if_neg array, if_neg array]
    by_cases braces : first == '\x7b'
    · rw [if_pos braces, if_pos braces]
      exact (Follows.of_reads (reads_inlineWith follows)).mono fun _ _ => eq_of_beq braces
    rw [if_neg braces, if_neg braces]
    have scalars : Freely AgreesWith (do return Construction.tables.scalar (← scalarValue first))
        (do return Construction.bindings.scalar (← scalarValue first)) := by
      refine (Follows.refl (scalarValue first)).andThen fun value _ same => ?_
      cases same
      exact Follows.pure ((agrees_of_entries?_eq_none rfl).mpr rfl)
    exact scalars.mono fun _ => False.elim
  · rintro text ⟨first, next, rfl⟩
    exact next

theorem follows_valueWithin (levels : Nat) : Follows AtBrace AgreesWith
    (valueWithin .tables levels) (valueWithin .bindings levels) := by
  induction levels with
  | zero => exact follows_valueWith .none
  | succ levels inductionHypothesis => exact follows_valueWith (.some inductionHypothesis)

theorem reads_value : Reads AgreesWith (value .tables) (value .bindings) :=
  (follows_valueWithin deepest).reads

end Values

/-! ## Lines -/

section Lines

variable {builder : Builder} {sheet : Sheet}

theorem reads_pairLine (builds : Builds builder sheet) :
    Reads Builds (pairLine .tables builder) (pairLine .bindings sheet) := by
  have pair : Reads AgreePair
      (do let path ← keyPath; final do
            equals; spaces; let item ← value .tables; restOfLine; return (path, item))
      (do let path ← keyPath; final do
            equals; spaces; let said ← value .bindings; restOfLine; return (path, said)) := by
    refine Reads.after keyPath fun path => Reads.final ?_
    refine Reads.after equals fun _ => Reads.after spaces fun _ => ?_
    refine reads_value.bind fun item said agrees => Reads.after restOfLine fun _ => ?_
    exact Reads.pure ⟨rfl, agrees⟩
  refine pair.meaning ?_
  rintro ⟨key, item⟩ ⟨_, said⟩ result ⟨rfl, agrees⟩ added
  exact ⟨_, rfl, builds.addPair agrees added⟩

/-- A key has at least one part. -/
theorem key_ne_nil {text rest : List Char} {parts : List String}
    (read : key text = .ok (parts, rest)) : parts ≠ [] := by
  obtain ⟨parts, read, meant⟩ := meaning_eq_ok_iff.mp read
  obtain ⟨first, _, _, more⟩ := parser_bind_eq_ok_iff.mp (label_eq_ok_iff.mp read)
  obtain ⟨others, _, _, same⟩ := parser_bind_eq_ok_iff.mp more
  cases same
  split at meant
  next => cases meant
  next =>
      cases meant
      exact List.cons_ne_nil first others

theorem reads_headerLine {start : List String → String → Except Conflict Builder}
    {content : Content} (opening closing : String)
    (starts : ∀ above last next, start (above ++ [last]) last = .ok next →
      Builds next (sheet.start (above ++ [last]) content)) :
    Reads Builds (headerLine opening closing start)
      (headerLine opening closing fun path _ => .ok (sheet.start path content)) := by
  have path : Reads (fun path path' => path = path' ∧ path ≠ []) (final key) (final key) :=
    fun text path rest read => ⟨path, read, rfl, key_ne_nil (final_eq_ok_iff.mp read)⟩
  refine Reads.meaning (Reads.after _ fun _ => path.bind fun path _ same => Reads.after _ fun _ =>
    Reads.after _ fun _ => Reads.pure same) ?_
  rintro path _ next ⟨rfl, some⟩ started
  refine ⟨_, rfl, ?_⟩
  obtain ⟨above, last, rfl⟩ := (List.eq_nil_or_concat path).resolve_left some
  rw [List.concat_eq_append] at started ⊢
  rw [List.getLast?_concat] at started
  exact starts above last next started

theorem reads_header (builds : Builds builder sheet) :
    Reads Builds (header .tables builder) (header .bindings sheet) := by
  refine Reads.label _ (Reads.after Parser.rest fun text => ?_)
  split
  · exact reads_headerLine "[[" "]]" fun _ _ _ => builds.openElement
  · exact reads_headerLine "[" "]" fun _ _ _ => builds.openTable
  · intro _ _ _ read
    cases read

theorem follows_lineStartingWith (first : Char) (builds : Builds builder sheet) :
    Freely Builds (lineStartingWith .tables first builder)
      (lineStartingWith .bindings first sheet) := by
  have newlines : Freely Builds (do newline; return builder) (do newline; return sheet) :=
    (Follows.refl newline).andThen fun _ _ _ => Follows.pure builds
  have comments : Reads Builds (do comment; lineEnding; return builder)
      (do comment; lineEnding; return sheet) :=
    Reads.after comment fun _ => Reads.after lineEnding fun _ => Reads.pure builds
  rw [lineStartingWith, lineStartingWith]
  split
  · exact Follows.of_isDecided comments.final (isDecided_final _)
  split
  · exact Follows.of_isDecided (reads_header builds).final (isDecided_final _)
  split
  · exact newlines
  · exact Follows.of_isDecided (reads_pairLine builds).final (isDecided_final _)

theorem follows_line (builds : Builds builder sheet) :
    Freely Builds (line .tables builder) (line .bindings sheet) := by
  refine (Follows.peek (fun _ => False) fun first => ?_).mono fun _ ⟨_, _, no⟩ => no
  refine (follows_lineStartingWith first builds).andThen fun next next' builds => ?_
  exact (Follows.refl spaces).andThen fun _ _ _ => Follows.pure builds

theorem reads_document : Reads Builds (document .tables) (document .bindings) := by
  have lines : Reads Builds (repeating Construction.tables.empty (line .tables))
      (repeating Construction.bindings.empty (line .bindings)) := by
    intro text builder rest read
    exact (Follows.iterate (fun _ _ => follows_line) builds_empty read).resolve_left id
  refine Reads.after _ fun _ => Reads.after spaces fun _ => lines.bind fun builder sheet builds => ?_
  exact Reads.after atEnd fun _ => Reads.pure builds

end Lines

/-- What is read as tables can be read as bindings, and they agree. -/
theorem agrees_of_read {text : String} {manifest : Entries} (done : read text = .ok manifest) :
    ∃ bindings, readBindings text = .ok bindings ∧ Agrees bindings (.table .defined manifest) := by
  rw [read] at done
  split at done
  next => cases done
  next builder rest built =>
      split at done
      next entries closed =>
          cases done
          obtain ⟨sheet, said, builds⟩ := reads_document _ _ _ built
          refine ⟨sheet.bindings, by rw [readBindings, said], ?_⟩
          exact agrees_table_iff.mpr ⟨builds.ne_nil, nofun, builds.fits manifest closed⟩
      next => cases done

end Toml
end Instrument
