import Instrument.SourceFile

/-!
# Reading a text step by step

A step of the lexer either passes over a blank or a comment and finds nothing, or it finds tokens at
the front of the text.  What has been skipped in front of a token is therefore what is skipped in
front of a file to find out whether a bracket follows: both pass over the same blanks and comments.
-/

namespace Instrument
namespace Lexer

open Text Token

/-! ## Comments -/

theorem blockRest?_isSuffix {depth : Nat} {characters behind : List Char}
    (found : blockRest? depth characters = some behind) : behind <:+ characters := by
  fun_induction blockRest? depth characters with
  | case1 => cases found
  | case2 depth rest inductionHypothesis =>
      exact (inductionHypothesis found).trans ⟨['/', '*'], rfl⟩
  | case3 rest =>
      cases found
      exact ⟨['*', '/'], rfl⟩
  | case4 depth rest inductionHypothesis =>
      exact (inductionHypothesis found).trans ⟨['*', '/'], rfl⟩
  | case5 depth first rest _ _ _ inductionHypothesis =>
      exact (inductionHypothesis found).trans (List.suffix_cons first rest)

theorem afterComment?_isSuffix {first : Char} {rest behind : List Char}
    (found : afterComment? (first :: rest) = some behind) : behind <:+ rest := by
  unfold afterComment? at found
  split at found
  next => cases found
  next inside equal =>
      cases equal
      cases found
      exact (List.dropWhile_suffix _).trans ⟨['/', '/', '/'], rfl⟩
  next => cases found
  next inside _ _ equal =>
      cases equal
      cases found
      exact (List.dropWhile_suffix _).trans ⟨['/'], rfl⟩
  next => cases found
  next equal =>
      cases equal
      cases found
      exact ⟨['*', '*', '/'], rfl⟩
  next inside equal =>
      cases equal
      exact (blockRest?_isSuffix found).trans ⟨['*'], rfl⟩
  next => cases found
  next equal =>
      cases equal
      exact (blockRest?_isSuffix found).trans ⟨['*'], rfl⟩
  next => cases found

/-! ## One step -/

theorem docTokens_head (comment : DocComment) (line : Nat) :
    ∃ more, docTokens comment line = ⟨.mark "#" false, line⟩ :: more :=
  ⟨_, rfl⟩

theorem lexeme_ne_opening (form : Form) (text : String) (rest : List Char) (delimiter : Delimiter) :
    lexeme form text rest ≠ .opening delimiter := by
  cases form <;> exact fun equal => nomatch equal

theorem eq_of_delimiter? {first : Char} {rest : List Char}
    (found : delimiter? (first :: rest) = some (true, .bracket)) : first = '[' := by
  unfold delimiter? at found
  split at found
  next => split at found <;> cases found
  next equal => exact (List.cons.inj equal).1
  all_goals cases found

/-- Where neither a blank nor a comment stands at the front, there are tokens.  The first of them
opens an attribute only if its bracket stands there. -/
theorem head_of_step? {opened : List Delimiter} {line : Nat} {first : Char} {rest : List Char}
    {step : Step} (visible : isBlank first = false)
    (noComment : afterComment? (first :: rest) = none)
    (found : step? opened line (first :: rest) = some step) :
    ∃ token more, step.tokens = token :: more ∧
      (token.lexeme = .opening .bracket → first = '[') := by
  unfold step? at found
  rw [noComment] at found
  dsimp only at found
  rw [visible, if_neg Bool.false_ne_true] at found
  split at found
  next comment _ =>
      -- A documentation comment stands for an attribute, but not for its bracket alone.
      cases found
      obtain ⟨more, tokens⟩ := docTokens_head comment line
      exact ⟨_, more, tokens, fun bracket => nomatch bracket⟩
  next =>
      split at found
      next delimiter opening =>
          cases found
          refine ⟨_, [], rfl, fun bracket => ?_⟩
          cases bracket
          exact eq_of_delimiter? opening
      next delimiter closing =>
          cases opened with
          | nil => cases found
          | cons innermost outer =>
              dsimp only at found
              split at found <;> cases found
              exact ⟨_, [], rfl, fun bracket => nomatch bracket⟩
      next =>
          split at found <;> cases found
          exact ⟨_, [], rfl, fun bracket => absurd bracket (lexeme_ne_opening _ _ _ _)⟩

/-- A step either passes over a blank or a comment and finds nothing, or it finds tokens. -/
theorem step?_cases {opened : List Delimiter} {line : Nat} {first : Char} {rest : List Char}
    {step : Step} (found : step? opened line (first :: rest) = some step) :
    (isBlank first = true ∧ step = ⟨[], opened, 1⟩) ∨
      (isBlank first = false ∧ ∃ behind, afterComment? (first :: rest) = some behind ∧
        step = ⟨[], opened, (first :: rest).length - behind.length⟩) ∨
      (∃ token more, step.tokens = token :: more ∧
        (token.lexeme = .opening .bracket → first = '[')) := by
  cases blank : isBlank first with
  | true =>
      unfold step? at found
      dsimp only at found
      rw [blank, if_pos rfl] at found
      exact .inl ⟨rfl, (Option.some.inj found).symm⟩
  | false =>
      cases comment : afterComment? (first :: rest) with
      | none => exact .inr (.inr (head_of_step? blank comment found))
      | some behind =>
          unfold step? at found
          rw [comment] at found
          dsimp only at found
          rw [blank, if_neg Bool.false_ne_true] at found
          exact .inr (.inl ⟨rfl, behind, rfl, (Option.some.inj found).symm⟩)

/-! ## All steps -/

/-- There is nothing to be read in an empty text. -/
theorem scanFrom_nil {fuel line : Nat} {opened : List Delimiter} {tokens : List Token}
    (scanned : scanFrom fuel opened line [] = some tokens) : tokens = [] := by
  have empty : scanFrom fuel opened line [] = if opened = [] then some [] else none := by
    cases fuel <;> cases opened <;> rfl
  rw [empty] at scanned
  split at scanned <;> cases scanned
  rfl

theorem scanFrom_zero (line : Nat) (opened : List Delimiter) (first : Char) (rest : List Char) :
    scanFrom 0 opened line (first :: rest) = none := by
  cases opened <;> rfl

theorem scanFrom_succ (fewer line : Nat) (opened : List Delimiter) (first : Char)
    (rest : List Char) :
    scanFrom (fewer + 1) opened line (first :: rest) =
      match step? opened line (first :: rest) with
      | none => none
      | some step =>
        match scanFrom fewer step.opened (line + lineEnds ((first :: rest).take step.used))
          ((first :: rest).drop step.used) with
        | some tokens => some (step.tokens ++ tokens)
        | none => none := by
  cases opened <;> rfl

/-- A text that is not empty is read step by step. -/
theorem scanFrom_cons {fuel line : Nat} {opened : List Delimiter} {first : Char}
    {rest : List Char} {tokens : List Token}
    (scanned : scanFrom fuel opened line (first :: rest) = some tokens) :
    ∃ fewer step behind, step? opened line (first :: rest) = some step ∧
      scanFrom fewer step.opened (line + lineEnds ((first :: rest).take step.used))
        ((first :: rest).drop step.used) = some behind ∧
      tokens = step.tokens ++ behind := by
  cases fuel with
  | zero =>
      rw [scanFrom_zero] at scanned
      cases scanned
  | succ fewer =>
      rw [scanFrom_succ] at scanned
      split at scanned
      next => cases scanned
      next step found =>
          split at scanned
          next behind reached =>
              exact ⟨fewer, step, behind, found, reached, (Option.some.inj scanned).symm⟩
          next => cases scanned

/-- What holds of the empty text, and of a text with the tokens of a step in front if it holds
behind the step, holds of every text that is read. -/
theorem scan_induction {motive : Nat → List Char → List Token → Prop}
    (nil : ∀ line, motive line [] [])
    (step : ∀ opened line characters step behind, step? opened line characters = some step →
      motive (line + lineEnds (characters.take step.used)) (characters.drop step.used) behind →
      motive line characters (step.tokens ++ behind))
    {fuel line : Nat} {opened : List Delimiter} {characters : List Char} {tokens : List Token}
    (scanned : scanFrom fuel opened line characters = some tokens) :
    motive line characters tokens := by
  induction fuel generalizing opened line characters tokens with
  | zero =>
      cases characters with
      | nil =>
          rw [scanFrom_nil scanned]
          exact nil line
      | cons first rest =>
          rw [scanFrom_zero] at scanned
          cases scanned
  | succ fuel inductionHypothesis =>
      cases characters with
      | nil =>
          rw [scanFrom_nil scanned]
          exact nil line
      | cons first rest =>
          rw [scanFrom_succ] at scanned
          split at scanned
          next => cases scanned
          next found =>
              split at scanned
              next reached =>
                  cases scanned
                  exact step _ _ _ _ _ found (inductionHypothesis reached)
              next => cases scanned

/-- A text whose first token opens an attribute starts, behind blanks and comments, with the bracket
of the attribute. -/
theorem skipBlank_of_scanFrom {fuel enough line : Nat} {opened : List Delimiter}
    {characters : List Char} {token : Token} {behind : List Token}
    (scanned : scanFrom fuel opened line characters = some (token :: behind))
    (long : characters.length ≤ enough) (bracket : token.lexeme = .opening .bracket) :
    ∃ rest, SourceFile.skipBlank enough characters = '[' :: rest := by
  -- Both functions take the same steps.  The lexer comes with fuel of its own, which it need not
  -- use up, so the induction is on the fuel of `skipBlank`.
  induction enough generalizing fuel line opened characters with
  | zero =>
      obtain rfl := List.length_eq_zero_iff.mp (Nat.le_zero.mp long)
      cases scanFrom_nil scanned
  | succ enough inductionHypothesis =>
      cases characters with
      | nil => cases scanFrom_nil scanned
      | cons first rest =>
          have shorter : rest.length ≤ enough := Nat.le_of_succ_le_succ long
          obtain ⟨fewer, step, behind', found, reached, tokens⟩ := scanFrom_cons scanned
          unfold SourceFile.skipBlank
          rcases step?_cases found with ⟨blank, rfl⟩ | ⟨visible, left, comment, rfl⟩ |
            ⟨first', more, own, opens⟩
          · rw [if_pos blank]
            cases tokens
            exact inductionHypothesis reached shorter
          · have suffix := afterComment?_isSuffix comment
            have dropped : (first :: rest).drop ((first :: rest).length - left.length) = left :=
              List.suffix_iff_eq_drop.mp (suffix.trans (List.suffix_cons first rest)) |>.symm
            rw [visible, comment]
            cases tokens
            rw [dropped] at reached
            exact inductionHypothesis reached (Nat.le_trans suffix.length_le shorter)
          · rw [own] at tokens
            cases tokens
            cases opens bracket
            exact ⟨rest, rfl⟩

/-! ## Byte order marks -/

theorem afterWord?_of_not_start {first : Char} (notStart : isIdentifierStart first = false)
    (rest : List Char) : afterWord? (first :: rest) = none := by
  unfold afterWord?
  split
  next equal =>
      cases equal
      cases notStart
  next => rfl
  next equal =>
      cases equal
      rw [notStart]
      rfl
  next => rfl

theorem isIdentifierStart_byteOrderMark : isIdentifierStart byteOrderMark = false := by
  have outside : identifierStartRanges.toList.any (fun range =>
      range.1 ≤ byteOrderMark.toNat && byteOrderMark.toNat ≤ range.2) = false := by
    decide +kernel
  have notAscii : ¬ byteOrderMark.toNat < 128 := by decide
  rw [isIdentifierStart, if_neg notAscii, inRanges, ← Array.any_toList]
  exact outside

/-- A byte order mark is not the start of anything. -/
theorem step?_byteOrderMark (opened : List Delimiter) (line : Nat) (rest : List Char) :
    step? opened line (byteOrderMark :: rest) = none := by
  have noText : text? (byteOrderMark :: rest) = none := rfl
  have noCharacter : character1? (byteOrderMark :: rest) = none := rfl
  have noFloat : floatDigits? (byteOrderMark :: rest) = none := rfl
  have noInteger : integer? (byteOrderMark :: rest) = none := rfl
  have noLiteral : literal? (byteOrderMark :: rest) = none := by
    rw [literal?, noText, noCharacter, noFloat, noInteger]
    rfl
  have noWord := afterWord?_of_not_start isIdentifierStart_byteOrderMark rest
  have noForm : form? (byteOrderMark :: rest) = none := by
    unfold form?
    rw [noLiteral]
    dsimp only
    split
    next equal => cases equal
    next =>
        rw [noWord]
        rfl
  have noBlank : isBlank byteOrderMark = false := rfl
  have noComment : afterComment? (byteOrderMark :: rest) = none := rfl
  have noDoc : docComment? (byteOrderMark :: rest) = none := rfl
  have noBracket : delimiter? (byteOrderMark :: rest) = none := rfl
  unfold step?
  rw [noForm, noComment, noDoc, noBracket]
  dsimp only
  rw [noBlank]
  rfl

/-- A text that starts with a byte order mark has no tokens. -/
theorem scanFrom_byteOrderMark (fuel line : Nat) (opened : List Delimiter) (rest : List Char) :
    scanFrom fuel opened line (byteOrderMark :: rest) = none := by
  cases fuel with
  | zero => exact scanFrom_zero line opened _ rest
  | succ fewer => rw [scanFrom_succ, step?_byteOrderMark]

/-! ## Number signs and exclamation marks -/

/-- A number sign and an exclamation mark are tokens of their own. -/
theorem step?_mark {first : Char} (isMark : first = '#' ∨ first = '!')
    (opened : List Delimiter) (line : Nat) (rest : List Char) :
    step? opened line (first :: rest) =
      some ⟨[⟨.mark (String.singleton first) (startsWithPunctuation rest), line⟩], opened, 1⟩ := by
  have one (read : Char) : (read :: rest).length - rest.length = 1 := by
    rw [List.length_cons]
    omega
  have cut (read : Char) : some (Step.mk [⟨lexeme .mark
        (String.ofList ((read :: rest).take ((read :: rest).length - rest.length))) rest, line⟩]
        opened ((read :: rest).length - rest.length)) =
      some ⟨[⟨.mark (String.singleton read) (startsWithPunctuation rest), line⟩], opened, 1⟩ := by
    rw [one]
    rfl
  rcases isMark with rfl | rfl
  · exact (show step? opened line ('#' :: rest) = _ from rfl).trans (cut '#')
  · exact (show step? opened line ('!' :: rest) = _ from rfl).trans (cut '!')

/-- The tokens of `#!`, with the marks as close as they are written, and what follows them. -/
def hashBang (line : Nat) (joint : Bool) (behind : List Token) : List Token :=
  ⟨.mark "#" true, line⟩ :: ⟨.mark "!" joint, line⟩ :: behind

/-- The tokens of a text that starts with a number sign and an exclamation mark. -/
theorem scanFrom_hashBang {fuel line : Nat} {rest : List Char} {tokens : List Token}
    (scanned : scanFrom fuel [] line ('#' :: '!' :: rest) = some tokens) :
    ∃ fewer joint behind, scanFrom fewer [] line rest = some behind ∧
      tokens = hashBang line joint behind := by
  obtain ⟨fewer, step, left, found, reached, rfl⟩ := scanFrom_cons scanned
  rw [step?_mark (.inl rfl)] at found
  cases found
  obtain ⟨fewer, step, behind, found, reachedBehind, rfl⟩ := scanFrom_cons reached
  rw [step?_mark (.inr rfl)] at found
  cases found
  exact ⟨fewer, _, behind, reachedBehind, rfl⟩

end Lexer
end Instrument
