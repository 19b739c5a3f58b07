import Instrument.Project.Staging
import Instrument.Proofs.Lexing
import Instrument.Proofs.Parsing

/-!
# What stands in front of program text

A file may start with a byte order mark and with a line that names a program.  `SourceFile.parse`
takes them off, and `SourceFile.parseProgram` only the mark.  On a text without a further heading
the two are the same.  On a text with one, `parseProgram` always fails: a second byte order mark is
no token, and `#!` without a bracket behind it starts nothing that a file can start with.

A text is instrumented by itself as program text, and as a part of a project as a file.  So the two
ways agree exactly on the texts without a heading, and on those that are no file either.
-/

namespace Instrument

open Lexer Instrument.Parser

/-! ## Headings -/

namespace SourceFile

/-- Something stands in front of the program text that does not belong to it: a second byte order
mark, or a line that names a program. -/
def hasHeading (text : String) : Bool :=
  let characters := withoutMark text.toList
  characters.head? == some byteOrderMark || (splitShebang characters).1.isSome

theorem tokens?_eq (text : String) :
    tokens? text =
      scanFrom (withoutMark text.toList).length [] 1 (withoutMark text.toList) :=
  rfl

theorem withoutMark_eq_self {characters : List Char}
    (noMark : (characters.head? == some byteOrderMark) = false) :
    withoutMark characters = characters := by
  cases characters with
  | nil => rfl
  | cons first rest => exact if_neg (Bool.eq_false_iff.mp noMark)

/-- Either nothing is taken off a text, or it starts with `#!` and no attribute follows. -/
theorem splitShebang_cases (characters : List Char) :
    splitShebang characters = (none, characters) ∨
      ∃ rest, characters = '#' :: '!' :: rest ∧
        (∀ behind, skipBlank rest.length rest ≠ '[' :: behind) ∧
        (splitShebang characters).1.isSome = true := by
  unfold splitShebang
  split
  next rest =>
      split
      next => exact .inl rfl
      next noBracket => exact .inr ⟨rest, rfl, fun behind equal => noBracket behind equal, rfl⟩
  next => exact .inl rfl

theorem parse_eq {text : String} {shebang : Option (List Char)} {program : List Char}
    (heading : splitShebang (withoutMark text.toList) = (shebang, program)) :
    parse text = (parseProgram (String.ofList program)).map fun file =>
      ⟨shebang.map String.ofList, file.tree⟩ := by
  unfold parse
  rw [heading]
  dsimp only
  cases parseProgram (String.ofList program) <;> rfl

/-- Program text has no line in front of it. -/
theorem shebang_of_parseProgram {text : String} {file : SourceFile}
    (parsed : parseProgram text = .ok file) : file.shebang = none := by
  unfold parseProgram at parsed
  split at parsed <;> cases parsed
  rfl

/-- Without a heading a file is its program text. -/
theorem parse_eq_parseProgram {text : String} (noHeading : hasHeading text = false) :
    parse text = parseProgram text := by
  obtain ⟨noMark, noLine⟩ := Bool.or_eq_false_iff.mp noHeading
  have nothing : splitShebang (withoutMark text.toList) = (none, withoutMark text.toList) := by
    rcases splitShebang_cases (withoutMark text.toList) with nothing | ⟨_, _, _, line⟩
    · exact nothing
    · rw [line] at noLine
      cases noLine
  have whole : tokens? (String.ofList (withoutMark text.toList)) = tokens? text := by
    rw [tokens?_eq, tokens?_eq, String.toList_ofList, withoutMark_eq_self noMark]
  have same : parseProgram (String.ofList (withoutMark text.toList)) = parseProgram text := by
    rw [parseProgram, Grammar.parseText, whole]
    rfl
  rw [parse_eq nothing, same]
  cases parsed : parseProgram text with
  | error failure => rfl
  | ok file =>
      have noShebang := shebang_of_parseProgram parsed
      cases file
      cases noShebang
      rfl

end SourceFile

/-! ## Program text behind a heading -/

namespace Grammar

variable (line : Nat) (joint : Bool) (behind : List Token)

theorem stands_hashBang (position : Nat) :
    let source := Source.ofTokens (hashBang line joint behind)
    let cursor : Cursor := ⟨position, (hashBang line joint behind).length, none⟩
    stands (.mark "#") source cursor 0 = true ∧ stands (.mark "!") source cursor 1 = true ∧
      behindTrees source 0 1 = 1 := by
  simp [stands, lexemeIn, Source.ofTokens, marksAt, hashBang, behindTrees, Source.endsFrom]

variable {line joint behind}

theorem stands_group_hashBang (position : Nat) {delimiter : Delimiter}
    (noBracket : ∀ token ∈ behind.head?, token.lexeme ≠ .opening delimiter) :
    stands (.group delimiter) (Source.ofTokens (hashBang line joint behind))
      ⟨position, (hashBang line joint behind).length, none⟩ 2 = false := by
  cases behind with
  | nil => simp [stands, lexemeIn, hashBang]
  | cons token more =>
      have other := noBracket token rfl
      have found : lexemeIn (Source.ofTokens (hashBang line joint (token :: more)))
          ⟨position, (hashBang line joint (token :: more)).length, none⟩ 2 =
            some token.lexeme := by
        simp [lexemeIn, Source.ofTokens, hashBang]
      unfold stands
      rw [found]
      cases lexeme : token.lexeme with
      | opening opened =>
          rw [lexeme] at other
          exact beq_eq_false_iff_ne.mpr fun same => other (congrArg Lexeme.opening same)
      | _ => rfl

/-- A file that starts with `#!` has to go on with the bracket of an attribute. -/
theorem fails_file [Rules] (noBracket : ∀ token ∈ behind.head?, token.lexeme ≠ .opening .bracket) :
    Fails (Source.ofTokens (hashBang line joint behind))
      ⟨0, (hashBang line joint behind).length, none⟩ file := by
  obtain ⟨hash, bang, next⟩ := stands_hashBang line joint behind 0
  have attributeFails : Fails (Source.ofTokens (hashBang line joint behind))
      ⟨0, (hashBang line joint behind).length, none⟩ innerAttribute := by
    refine Fails.bind_of_reading (reading_mark rfl hash) ?_
    refine Fails.bind_of_reading (reading_mark rfl (stands_hashBang line joint behind 1).2.1) ?_
    exact Fails.bind (Fails.group (stands_group_hashBang 2 noBracket))
  refine Fails.bind (Fails.manyWhile ?_ attributeFails)
  rw [reading_bind, peekMark, reading_peek, hash]
  dsimp only
  rw [reading_bind, reading_peekBehind, next, bang]
  rfl

theorem parseTokens_hashBang
    (noBracket : ∀ token ∈ behind.head?, token.lexeme ≠ .opening .bracket) :
    ∃ failure, parseTokens file (hashBang line joint behind) = .error failure := by
  have count : (Source.ofTokens (hashBang line joint behind)).tokens.size =
      (hashBang line joint behind).length := rfl
  obtain ⟨failure, fails⟩ := @fails_file line joint behind
    (rulesFor (hashBang line joint behind).length) noBracket
  refine ⟨failure, ?_⟩
  unfold parseTokens cite
  dsimp only
  rw [count]
  unfold reading at fails
  rw [fails]

end Grammar

namespace SourceFile

/-- A text with a heading is no program text. -/
theorem parseProgram_of_hasHeading {text : String} (heading : hasHeading text = true) :
    ∃ failure, parseProgram text = .error failure := by
  have noTokens (none : tokens? text = none) : ∃ failure, parseProgram text = .error failure :=
    ⟨_, by rw [parseProgram, Grammar.parseText, none]⟩
  rcases Bool.or_eq_true_iff.mp heading with mark | line
  · obtain ⟨rest, starts⟩ := List.head?_eq_some_iff.mp (beq_iff_eq.mp mark)
    refine noTokens ?_
    rw [tokens?_eq, starts]
    exact scanFrom_byteOrderMark _ 1 [] rest
  · rcases splitShebang_cases (withoutMark text.toList) with
      nothing | ⟨rest, starts, noAttribute, _⟩
    · rw [nothing] at line
      cases line
    · cases scanned : tokens? text with
      | none => exact noTokens scanned
      | some tokens =>
          have steps := scanned
          rw [tokens?_eq, starts] at steps
          obtain ⟨fewer, joint, behind, reached, rfl⟩ := scanFrom_hashBang steps
          have noBracket : ∀ token ∈ behind.head?, token.lexeme ≠ .opening .bracket := by
            intro token first bracket
            obtain ⟨more, rfl⟩ := List.head?_eq_some_iff.mp first
            obtain ⟨behind, starts⟩ := skipBlank_of_scanFrom reached (Nat.le_refl _) bracket
            exact noAttribute behind starts
          obtain ⟨failure, fails⟩ := Grammar.parseTokens_hashBang noBracket
          refine ⟨failure, ?_⟩
          rw [parseProgram, Grammar.parseText, scanned]
          dsimp only
          rw [fails]

end SourceFile

/-! ## Files of a project and texts by themselves -/

namespace Project

theorem decode_toUTF8 (text : String) : Files.FileTree.decode text.toUTF8 = .ok text := by
  have decoded : String.fromUTF8? text.toUTF8 = some text := dif_pos text.isValidUTF8
  rw [Files.FileTree.decode, decoded]

/-- Instrumenting a text by itself and staging the file that holds it come to the same end: both
find that it does not parse, or that it cannot be printed, or the new text is the same, and so are
the reports. -/
inductive Agree : Except InstrumentationFailure InstrumentedSource →
    Except ProjectError StagedFile → Prop
  | unparsed (failure failure' : Failure) (shown : String) :
      Agree (.error (.unparsed failure)) (.error (.unparsed shown failure'))
  | unprintable : Agree (.error .unprintable) (.error .unprintable)
  | done {result : InstrumentedSource} {report : FileReport}
      (instrumented : report.instrumented = result.instrumented)
      (skipped : report.skipped = result.skipped) :
      Agree (.ok result) (.ok ⟨result.source.toUTF8, some report⟩)

variable (kind : MarkerKind) (policy : MarkerPolicy) (path : List String) {text : String}

theorem stageFile_of_mentions (isSource : Files.isSourcePath path = true)
    (mentioned : mentions kind text = true) :
    stageFile kind policy path text.toUTF8 = stageMarked kind policy path text := by
  rw [stageFile, if_pos isSource, stageSource, decode_toUTF8]
  exact if_pos mentioned

/-- As soon as the text is read in the same way, both ways come to the same end. -/
theorem agree_stageMarked (same : SourceFile.parse text = SourceFile.parseProgram text) :
    Agree (instrumentSource kind policy text) (stageMarked kind policy path text).result := by
  rw [instrumentSource, stageMarked, same]
  cases SourceFile.parseProgram text with
  | error failure => exact .unparsed failure failure _
  | ok file =>
      dsimp only
      rw [instrumentParsed]
      cases (file.instrument kind policy).render? text with
      | none => exact .unprintable
      | some source => exact .done rfl rfl

/-- Instrumenting a text by itself and staging the file that holds it agree exactly if the text has
no heading, or is no file behind the heading either. -/
theorem agree_instrumentSource_stageFile_iff (isSource : Files.isSourcePath path = true)
    (mentioned : mentions kind text = true) :
    Agree (instrumentSource kind policy text)
        (stageFile kind policy path text.toUTF8).result ↔
      SourceFile.hasHeading text = false ∨
        ∃ failure, SourceFile.parse text = .error failure := by
  rw [stageFile_of_mentions kind policy path isSource mentioned]
  cases heading : SourceFile.hasHeading text with
  | false =>
      have agree := agree_stageMarked kind policy path (SourceFile.parse_eq_parseProgram heading)
      exact ⟨fun _ => .inl rfl, fun _ => agree⟩
  | true =>
      obtain ⟨failure, fails⟩ := SourceFile.parseProgram_of_hasHeading heading
      have unparsed : instrumentSource kind policy text = .error (.unparsed failure) := by
        rw [instrumentSource, fails]
      rw [unparsed]
      constructor
      · intro agree
        refine .inr ?_
        cases parsed : SourceFile.parse text with
        | error failure => exact ⟨failure, rfl⟩
        | ok file =>
            rw [stageMarked, parsed] at agree
            dsimp only at agree
            split at agree <;> cases agree
      · rintro (none | ⟨failure', fails'⟩)
        · cases none
        · rw [stageMarked, fails']
          exact .unparsed failure failure' _

/-- A file that starts with a byte order mark and an attribute has no heading: both ways agree on
it. -/
theorem agree_instrumentSource_stageFile_attribute :
    let text := "\ufeff#! /* all */ [allow(unused)]\n#[method_logger]\nfn main() \x7b\x7d\n"
    Files.isSourcePath ["src", "main.rs"] = true ∧ mentions .methodLogger text = true ∧
      Agree (instrumentSource .methodLogger .strip text)
        (stageFile .methodLogger .strip ["src", "main.rs"] text.toUTF8).result := by
  intro text
  have isSource : Files.isSourcePath ["src", "main.rs"] = true := by decide +kernel
  have mentioned : mentions .methodLogger text = true := by decide +kernel
  have noHeading : SourceFile.hasHeading text = false := by decide +kernel
  exact ⟨isSource, mentioned, (agree_instrumentSource_stageFile_iff .methodLogger .strip
    ["src", "main.rs"] isSource mentioned).mpr (.inl noHeading)⟩

theorem Agree.isOk_eq {single : Except InstrumentationFailure InstrumentedSource}
    {staged : Except ProjectError StagedFile} (agree : Agree single staged) :
    single.isOk = staged.isOk := by
  cases agree <;> rfl

/-- A file that starts with the line that names a program is staged, but is not instrumented by
itself. -/
theorem not_agree_shebang :
    let text := "#!/usr/bin/env run-cargo-script\n#[method_logger]\nfn main() \x7b\x7d\n"
    ¬ Agree (instrumentSource .methodLogger .strip text)
      (stageFile .methodLogger .strip ["main.rs"] text.toUTF8).result := by
  intro text agree
  have isSource : Files.isSourcePath ["main.rs"] = true := by decide +kernel
  have mentioned : mentions .methodLogger text = true := by decide +kernel
  rw [stageFile_of_mentions .methodLogger .strip ["main.rs"] isSource mentioned] at agree
  have single : (instrumentSource .methodLogger .strip text).isOk = false := by decide +kernel
  have staged : (stageMarked .methodLogger .strip ["main.rs"] text).result.isOk = true := by
    decide +kernel
  rw [agree.isOk_eq, staged] at single
  cases single

end Project
end Instrument
