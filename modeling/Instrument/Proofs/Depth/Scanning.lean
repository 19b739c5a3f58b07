import Instrument.Proofs.Lexing
import Instrument.Token.Value

/-!
# Steps of the lexer

Each lexical form leaves less of a text than it found, so a step of the lexer uses at least one
character.  A text has therefore no more steps than characters, and the number of its characters
bounds the steps without cutting any of them off.
-/

namespace Instrument

open Text

/-! ## Literals -/

namespace Token

variable {family : TextFamily} {characters behind : List Char}

theorem length_lt_of_unicodeEscape? {value digits : Nat} {character : Char}
    (found : unicodeEscape? value digits characters = some (character, behind)) :
    behind.length < characters.length := by
  fun_induction unicodeEscape? value digits characters <;> grind [Option.map_eq_some_iff]

theorem length_lt_of_cooked? (found : cooked? family characters = some behind) :
    behind.length < characters.length := by
  fun_induction cooked? family characters <;> grind

theorem length_lt_of_raw? {hashes : List Char}
    (found : raw? family hashes characters = some behind) :
    behind.length < characters.length := by
  fun_induction raw? family hashes characters <;> grind

theorem length_lt_of_rawAfterLetters? (found : rawAfterLetters? family characters = some behind) :
    behind.length < characters.length := by
  unfold rawAfterLetters? at found
  dsimp only at found
  split at found
  next rest quoted =>
      split at found
      next => cases found
      next =>
          have shorter := length_lt_of_raw? found
          have dropped := congrArg List.length quoted
          rw [List.length_drop, List.length_cons] at dropped
          omega
  next => cases found

theorem length_lt_of_text? (found : text? characters = some behind) :
    behind.length < characters.length := by
  unfold text? at found
  grind [→ length_lt_of_cooked?, → length_lt_of_rawAfterLetters?]

theorem length_lt_of_quotedCharacter? (found : quotedCharacter? family characters = some behind) :
    behind.length < characters.length := by
  unfold quotedCharacter? at found
  grind [→ length_lt_of_unicodeEscape?, Option.map_eq_some_iff]

theorem length_lt_of_character1? (found : character1? characters = some behind) :
    behind.length < characters.length := by
  unfold character1? at found
  grind [→ length_lt_of_quotedCharacter?]

theorem length_afterIdentifier_le (characters : List Char) :
    (afterIdentifier characters).length ≤ characters.length := by
  unfold afterIdentifier
  grind [List.dropWhile_suffix, → List.IsSuffix.length_le]

theorem length_le_of_mantissa? {hasDot : Bool} {mantissa : Mantissa}
    (found : mantissa? hasDot characters = some mantissa) :
    mantissa.rest.length ≤ characters.length := by
  fun_induction mantissa? hasDot characters <;> grind

theorem length_le_of_exponent? {before : Option (List Char)} {hasSign hasDigit : Bool}
    {limit : Nat} (fits : ∀ rest ∈ before, rest.length ≤ limit)
    (within : characters.length ≤ limit)
    (found : exponent? before hasSign hasDigit characters = some behind) :
    behind.length ≤ limit := by
  fun_induction exponent? before hasSign hasDigit characters <;> grind

theorem length_lt_of_floatDigits? (found : floatDigits? characters = some behind) :
    behind.length < characters.length := by
  unfold floatDigits? at found
  split at found
  next first rest =>
      split at found
      next => cases found
      next =>
          split at found
          next => cases found
          next mantissa read =>
              have shorter := length_le_of_mantissa? read
              refine Nat.lt_succ_of_le (Nat.le_trans ?_ shorter)
              split at found
              next =>
                  refine length_le_of_exponent? (fun whole stops => ?_) ?_ found
                  · split at stops <;> cases stops
                    exact Nat.le_refl _
                  · rw [List.length_tail]
                    exact Nat.sub_le _ 1
              next =>
                  split at found <;> cases found
                  exact Nat.le_refl _
  next => cases found

theorem length_of_integerDigits? {base : Nat} {noDigit : Bool}
    (found : integerDigits? base noDigit characters = some behind) :
    behind.length ≤ characters.length ∧
      (noDigit = true → behind.length < characters.length) := by
  fun_induction integerDigits? base noDigit characters <;> grind

theorem length_lt_of_integer? (found : integer? characters = some behind) :
    behind.length < characters.length := by
  have shorter := (length_of_integerDigits? found).2 rfl
  have announced : (baseOf characters).2.length ≤ characters.length := by
    fun_cases baseOf characters <;> grind [baseOf]
  exact Nat.lt_of_lt_of_le shorter announced

theorem length_le_of_numberEnd? (found : numberEnd? characters = some behind) :
    behind.length ≤ characters.length := by
  have shorter := length_afterIdentifier_le characters
  unfold numberEnd? at found
  grind

theorem length_lt_of_literal? (found : literal? characters = some behind) :
    behind.length < characters.length := by
  unfold literal? at found
  split at found
  next rest text =>
      cases found
      exact Nat.lt_of_le_of_lt (length_afterIdentifier_le rest) (length_lt_of_text? text)
  next =>
      split at found
      next rest character =>
          cases found
          exact Nat.lt_of_le_of_lt (length_afterIdentifier_le rest)
            (length_lt_of_character1? character)
      next =>
          split at found
          next rest number =>
              cases found
              obtain ⟨digits, float, ends⟩ := Option.bind_eq_some_iff.mp number
              exact Nat.lt_of_le_of_lt (length_le_of_numberEnd? ends)
                (length_lt_of_floatDigits? float)
          next =>
              obtain ⟨digits, integer, ends⟩ := Option.bind_eq_some_iff.mp found
              exact Nat.lt_of_le_of_lt (length_le_of_numberEnd? ends)
                (length_lt_of_integer? integer)

/-! ## Values of literals -/

/-- A number of steps that suffices for a text is as good as any greater one. -/
theorem cookedValue_of_le {enough more : Nat} (fits : characters.length ≤ enough)
    (atLeast : enough ≤ more) : cookedValue more characters = cookedValue enough characters := by
  induction enough generalizing more characters with
  | zero =>
      cases List.eq_nil_of_length_eq_zero (Nat.le_zero.mp fits)
      cases more <;> rfl
  | succ enough inductionHypothesis =>
      cases more with
      | zero => cases atLeast
      | succ more =>
          have shorter {rest : List Char} (left : rest.length ≤ enough) :
              cookedValue more rest = cookedValue enough rest :=
            inductionHypothesis left (Nat.le_of_succ_le_succ atLeast)
          unfold cookedValue
          split <;>
            grind [List.dropWhile_suffix, → List.IsSuffix.length_le,
              → length_lt_of_unicodeEscape?]

end Token

/-! ## Tokens -/

namespace Lexer

open Token

variable {characters behind : List Char}

theorem length_lt_of_afterComment? (found : afterComment? characters = some behind) :
    behind.length < characters.length := by
  cases characters with
  | nil => cases found
  | cons first rest => exact Nat.lt_succ_of_le (afterComment?_isSuffix found).length_le

theorem length_le_of_blockDoc? {isInner : Bool} {comment : DocComment}
    (found : blockDoc? isInner characters = some comment) :
    comment.rest.length ≤ characters.length := by
  unfold blockDoc? at found
  split at found <;> cases found
  next rest read => exact (blockRest?_isSuffix read).length_le

theorem length_lineDoc_le (isInner : Bool) (characters : List Char) :
    (lineDoc isInner characters).rest.length ≤ characters.length := by
  unfold lineDoc
  exact (List.drop_suffix _ _).length_le

theorem length_lt_of_docComment? {comment : DocComment}
    (found : docComment? characters = some comment) : comment.rest.length < characters.length := by
  unfold docComment? at found
  grind [length_lineDoc_le, → length_le_of_blockDoc?]

theorem length_lt_of_afterWord? (found : afterWord? characters = some behind) :
    behind.length < characters.length := by
  unfold afterWord? at found
  grind [List.dropWhile_suffix, → List.IsSuffix.length_le]

theorem length_lt_of_afterLifetime? (found : afterLifetime? characters = some behind) :
    behind.length < characters.length := by
  unfold afterLifetime? at found
  grind [→ length_lt_of_afterWord?]

theorem length_lt_of_form? {form : Form} (found : form? characters = some (form, behind)) :
    behind.length < characters.length := by
  have nonempty : 0 < characters.length := by
    cases characters with
    | nil => cases found
    | cons => exact Nat.succ_pos _
  have marked : 0 < failureMark.length := by decide
  unfold form? at found
  split at found
  next rest literal =>
      cases found
      exact length_lt_of_literal? literal
  next =>
      split at found
      next =>
          obtain ⟨rest, lifetime, equal⟩ := Option.map_eq_some_iff.mp found
          cases equal
          exact length_lt_of_afterLifetime? lifetime
      next => grind [→ length_lt_of_afterWord?]

/-- A step uses at least one character. -/
theorem used_pos_of_step? {opened : List Delimiter} {line : Nat} {step : Step}
    (found : step? opened line characters = some step) : 0 < step.used := by
  unfold step? at found
  grind [→ length_lt_of_afterComment?, → length_lt_of_docComment?, → length_lt_of_form?]

/-- A number of steps that suffices for a text is as good as any greater one. -/
theorem scanFrom_of_le {enough more line : Nat} {opened : List Delimiter}
    (fits : characters.length ≤ enough) (atLeast : enough ≤ more) :
    scanFrom more opened line characters = scanFrom enough opened line characters := by
  induction enough generalizing more line opened characters with
  | zero =>
      cases List.eq_nil_of_length_eq_zero (Nat.le_zero.mp fits)
      cases more <;> cases opened <;> rfl
  | succ enough inductionHypothesis =>
      cases more with
      | zero => cases atLeast
      | succ more =>
          cases characters with
          | nil => cases opened <;> rfl
          | cons first rest =>
              rw [scanFrom_succ, scanFrom_succ]
              cases found : step? opened line (first :: rest) with
              | none => rfl
              | some step =>
                  have left : ((first :: rest).drop step.used).length ≤ enough := by
                    have used := used_pos_of_step? found
                    rw [List.length_drop]
                    omega
                  dsimp only
                  rw [inductionHypothesis left (Nat.le_of_succ_le_succ atLeast)]

end Lexer
end Instrument
