import Instrument.Text.Terminal
import Mathlib.Data.List.Basic

/-!
# Which texts stay as they are

Taking the control sequences out of a text leaves it as it is exactly if it holds no control
character but blanks.  A control character is taken out wherever it stands, and without one no
sequence ever starts: a character beyond the first 128 starts with a byte that is text by itself, and
what follows it is text because it stands behind text.
-/

namespace Instrument
namespace Text

open Sequence (isBlankByte isBetween)

/-- Whether a character is no control character, or a blank. -/
def isShown (character : Char) : Bool :=
  let code := character.val.toNat
  code == 9 || code == 10 || code == 12 || code == 13 || (32 ≤ code && code != 127)

/-- Whether a byte is never part of a plain text. -/
def isTaken (byte : UInt8) : Bool :=
  (byte < 0x20 && !isBlankByte byte) || byte == 0x7f

variable {inText : Bool} {sequence : Sequence} {byte : UInt8} {rest bytes : List UInt8}

/-! ## One byte after the other -/

/-- A byte is kept or taken out, and reading goes on behind it. -/
theorem exists_plainBytes_cons (inText : Bool) (sequence : Sequence) (byte : UInt8)
    (rest : List UInt8) : ∃ inText' sequence',
      plainBytes inText sequence (byte :: rest) = byte :: plainBytes inText' sequence' rest ∨
        plainBytes inText sequence (byte :: rest) = plainBytes inText' sequence' rest := by
  rw [plainBytes]
  split
  next => exact ⟨_, _, .inl rfl⟩
  next =>
    split
    next => exact ⟨_, _, .inl rfl⟩
    next =>
      split
      next => exact ⟨_, _, .inl rfl⟩
      next => exact ⟨_, _, .inr rfl⟩

theorem length_plainBytes_le (inText : Bool) (sequence : Sequence) (bytes : List UInt8) :
    (plainBytes inText sequence bytes).length ≤ bytes.length := by
  induction bytes generalizing inText sequence with
  | nil => exact Nat.le_refl _
  | cons byte rest inductionHypothesis =>
      rcases exists_plainBytes_cons inText sequence byte rest with ⟨inText', sequence', same | same⟩
      · rw [same]
        exact Nat.succ_le_succ (inductionHypothesis inText' sequence')
      · rw [same]
        exact Nat.le_succ_of_le (inductionHypothesis inText' sequence')

/-- A control character other than a blank is taken out, whatever has been read before. -/
theorem exists_plainBytes_of_isTaken (inText : Bool) (sequence : Sequence)
    (taken : isTaken byte = true) (rest : List UInt8) :
    ∃ next, plainBytes inText sequence (byte :: rest) = plainBytes false next rest := by
  have small : byte.toNat < 32 ∧ isBlankByte byte = false ∨ byte.toNat = 127 := by
    simpa [isTaken, UInt8.lt_iff_toNat_lt, ← UInt8.toNat_inj] using taken
  have notBeyond : ¬ byte ≥ 0x80 := by
    rw [ge_iff_le, UInt8.le_iff_toNat_le]
    have bound : (0x80 : UInt8).toNat = 128 := rfl
    omega
  have notText : isBetween 0x20 0x7e byte = false := by
    simp only [isBetween, Bool.and_eq_false_iff, decide_eq_false_iff_not, UInt8.le_iff_toNat_le]
    have lower : (0x20 : UInt8).toNat = 32 := rfl
    have upper : (0x7e : UInt8).toNat = 126 := rfl
    omega
  have notBlank : isBlankByte byte = false := by
    rcases small with small | delete
    · exact small.2
    · have same : byte = 0x7f := UInt8.toNat_inj.mp delete
      rw [same]
      rfl
  have notLead : isBetween 0xc2 0xf4 byte = false := by
    simp only [isBetween, Bool.and_eq_false_iff, decide_eq_false_iff_not, UInt8.le_iff_toNat_le]
    have lower : (0xc2 : UInt8).toNat = 194 := rfl
    omega
  have notRead : (sequence.read byte).2 = false := by
    unfold Sequence.read
    split_ifs <;> simp [notBlank, notText, notLead]
  rw [plainBytes, if_neg (by simp [notBeyond]), if_neg (by simp [notText, notBlank])]
  cases read : sequence.read byte with
  | mk next kept =>
      rw [read] at notRead
      cases notRead
      exact ⟨next, rfl⟩

/-- If only one byte has to be taken out, the text gets shorter. -/
theorem length_plainBytes_lt (inText : Bool) (sequence : Sequence) (member : byte ∈ bytes)
    (taken : isTaken byte = true) : (plainBytes inText sequence bytes).length < bytes.length := by
  induction bytes generalizing inText sequence with
  | nil => cases member
  | cons first rest inductionHypothesis =>
      rcases List.mem_cons.mp member with rfl | member
      · rcases exists_plainBytes_of_isTaken inText sequence taken rest with ⟨next, same⟩
        rw [same]
        exact Nat.lt_succ_of_le (length_plainBytes_le false next rest)
      · rcases exists_plainBytes_cons inText sequence first rest with
          ⟨inText', sequence', same | same⟩
        · rw [same]
          exact Nat.succ_lt_succ (inductionHypothesis inText' sequence' member)
        · rw [same]
          exact Nat.lt_succ_of_lt (inductionHypothesis inText' sequence' member)

/-! ## One character after the other -/

theorem utf8EncodeChar_of_ascii {character : Char} (ascii : character.val.toNat ≤ 127) :
    String.utf8EncodeChar character = [UInt8.ofNat character.val.toNat] := by
  rw [String.utf8EncodeChar, if_pos ascii]

/-- The first byte of a character beyond the first 128 is text by itself; the others are beyond the
first 128 as well. -/
theorem exists_utf8EncodeChar {character : Char} (beyond : ¬ character.val.toNat ≤ 127) :
    ∃ lead further, String.utf8EncodeChar character = lead :: further ∧
      isBetween 0xc2 0xf4 lead = true ∧ ∀ byte ∈ further, byte ≥ 0x80 := by
  have valid : character.val.toNat < 1114112 := by
    rcases character.valid with low | high
    · exact Nat.lt_trans low (by decide)
    · exact high.2
  have isLead {code : Nat} (lower : 194 ≤ code) (upper : code ≤ 244) :
      isBetween 0xc2 0xf4 (UInt8.ofNat code) = true := by
    have same : (UInt8.ofNat code).toNat = code := UInt8.toNat_ofNat_of_lt' (Nat.lt_of_le_of_lt upper (by decide))
    simp only [isBetween, Bool.and_eq_true, decide_eq_true_eq, UInt8.le_iff_toNat_le, same]
    exact ⟨lower, upper⟩
  have isFurther (code : Nat) : UInt8.ofNat (code % 64 + 128) ≥ 0x80 := by
    have same : (UInt8.ofNat (code % 64 + 128)).toNat = code % 64 + 128 :=
      UInt8.toNat_ofNat_of_lt' (Nat.lt_of_lt_of_le (by omega : _ < 192) (by decide))
    rw [ge_iff_le, UInt8.le_iff_toNat_le, same]
    exact Nat.le_add_left 128 _
  unfold String.utf8EncodeChar
  dsimp only
  rw [if_neg beyond]
  split
  next =>
    exact ⟨_, _, rfl, isLead (by omega) (by omega), List.forall_mem_singleton.mpr (isFurther _)⟩
  next =>
    split
    next =>
      exact ⟨_, _, rfl, isLead (by omega) (by omega),
        List.forall_mem_cons.mpr ⟨isFurther _, List.forall_mem_singleton.mpr (isFurther _)⟩⟩
    next =>
      exact ⟨_, _, rfl, isLead (by omega) (by omega),
        List.forall_mem_cons.mpr ⟨isFurther _, List.forall_mem_cons.mpr
          ⟨isFurther _, List.forall_mem_singleton.mpr (isFurther _)⟩⟩⟩

/-- Behind text, bytes beyond the first 128 are text. -/
theorem plainBytes_append_of_beyond (beyond : ∀ byte ∈ bytes, byte ≥ 0x80) (rest : List UInt8) :
    plainBytes true .none (bytes ++ rest) = bytes ++ plainBytes true .none rest := by
  induction bytes with
  | nil => rfl
  | cons byte bytes inductionHypothesis =>
      rcases List.forall_mem_cons.mp beyond with ⟨first, further⟩
      rw [List.cons_append, plainBytes, if_pos (by simpa using first),
        inductionHypothesis further, List.cons_append]

/-- As long as no sequence has started, a printable character is text, and so is the first byte of a
character beyond the first 128. -/
theorem read_none_of_isBetween
    (isText : (isBetween 0x20 0x7e byte || isBetween 0xc2 0xf4 byte) = true) :
    Sequence.read .none byte = (.none, true) := by
  have lower : 32 ≤ byte.toNat := by
    simp only [isBetween, Bool.or_eq_true, Bool.and_eq_true, decide_eq_true_eq,
      UInt8.le_iff_toNat_le] at isText
    have first : (0x20 : UInt8).toNat = 32 := rfl
    have second : (0xc2 : UInt8).toNat = 194 := rfl
    omega
  have different {other : UInt8} (below : other.toNat < 32) : (byte == other) = false := by
    rw [beq_eq_false_iff_ne, ne_eq, ← UInt8.toNat_inj]
    omega
  have notControl : Sequence.isControlByte byte = false := by
    rw [Sequence.isControlByte, decide_eq_false_iff_not, UInt8.lt_iff_toNat_lt]
    exact Nat.not_lt.mpr lower
  rw [Sequence.read, different (by decide), different (by decide), different (by decide),
    notControl, isText]
  rfl

/-- As long as no sequence has started, a blank is text. -/
theorem read_none_of_isBlankByte (blank : isBlankByte byte = true) :
    Sequence.read .none byte = (.none, true) := by
  simp only [isBlankByte, Bool.or_eq_true, beq_iff_eq] at blank
  rcases blank with (((rfl | rfl) | rfl) | rfl) | rfl <;> rfl

/-- A character that is shown and is one of the first 128 is printable or a blank. -/
theorem kept_of_isShown {character : Char} (shown : isShown character = true)
    (ascii : character.val.toNat ≤ 127) :
    (isBetween 0x20 0x7e (UInt8.ofNat character.val.toNat) ||
      isBlankByte (UInt8.ofNat character.val.toNat)) = true := by
  have same : (UInt8.ofNat character.val.toNat).toNat = character.val.toNat :=
    UInt8.toNat_ofNat_of_lt' (Nat.lt_of_le_of_lt ascii (by decide))
  simp only [isShown, Bool.or_eq_true, beq_iff_eq, Bool.and_eq_true, decide_eq_true_eq,
    bne_iff_ne] at shown
  rcases shown with (((tab | feed) | page) | carriage) | printable
  · rw [tab]; rfl
  · rw [feed]; rfl
  · rw [page]; rfl
  · rw [carriage]; rfl
  · have lower : (0x20 : UInt8).toNat = 32 := rfl
    have upper : (0x7e : UInt8).toNat = 126 := rfl
    simp only [isBetween, Bool.or_eq_true, Bool.and_eq_true, decide_eq_true_eq,
      UInt8.le_iff_toNat_le, same]
    omega

/-- As long as no sequence has started, a character that is shown is text. -/
theorem plainBytes_utf8EncodeChar_append {character : Char} (shown : isShown character = true)
    (inText : Bool) (rest : List UInt8) :
    plainBytes inText .none (String.utf8EncodeChar character ++ rest) =
      String.utf8EncodeChar character ++ plainBytes true .none rest := by
  by_cases ascii : character.val.toNat ≤ 127
  · have kept := kept_of_isShown shown ascii
    rw [utf8EncodeChar_of_ascii ascii, List.singleton_append, List.singleton_append, plainBytes]
    split
    next => rfl
    next =>
      split
      next => rfl
      next =>
        rcases Bool.or_eq_true_iff.mp kept with printable | blank
        · rw [read_none_of_isBetween (by rw [printable]; rfl)]
        · rw [read_none_of_isBlankByte blank]
  · rcases exists_utf8EncodeChar ascii with ⟨lead, further, same, isLead, beyond⟩
    have isBeyond : lead ≥ 0x80 := by
      simp only [isBetween, Bool.and_eq_true, decide_eq_true_eq] at isLead
      exact UInt8.le_trans (by decide) isLead.1
    rw [same, List.cons_append, List.cons_append, ← plainBytes_append_of_beyond beyond, plainBytes]
    split
    next => rfl
    next =>
      split
      next => rfl
      next => rw [read_none_of_isBetween (by rw [isLead, Bool.or_true])]

/-- The bytes of a text. -/
theorem bytes_eq_flatMap (text : String) :
    text.toUTF8.data.toList = text.toList.flatMap String.utf8EncodeChar := by
  have same : text.toUTF8 = text.toList.utf8Encode := by
    conv => lhs; rw [← String.ofList_toList (s := text)]
    exact String.toByteArray_ofList
  rw [same, List.utf8Encode]
  simp

theorem plainBytes_flatMap {characters : List Char}
    (shown : ∀ character ∈ characters, isShown character = true) (inText : Bool) :
    plainBytes inText .none (characters.flatMap String.utf8EncodeChar) =
      characters.flatMap String.utf8EncodeChar := by
  induction characters generalizing inText with
  | nil => rfl
  | cons character characters inductionHypothesis =>
      rcases List.forall_mem_cons.mp shown with ⟨first, further⟩
      rw [List.flatMap_cons, plainBytes_utf8EncodeChar_append first,
        inductionHypothesis further true]

/-- A character that is not shown is written as a byte that is taken out. -/
theorem exists_isTaken {character : Char} (hidden : isShown character = false) :
    ∃ byte ∈ String.utf8EncodeChar character, isTaken byte = true := by
  have codes : character.val.toNat < 32 ∧ character.val.toNat ≠ 9 ∧ character.val.toNat ≠ 10 ∧
      character.val.toNat ≠ 12 ∧ character.val.toNat ≠ 13 ∨ character.val.toNat = 127 := by
    simp only [isShown, Bool.or_eq_false_iff, beq_eq_false_iff_ne, Bool.and_eq_false_iff,
      decide_eq_false_iff_not, bne_eq_false_iff_eq] at hidden
    omega
  have ascii : character.val.toNat ≤ 127 := by omega
  have same : (UInt8.ofNat character.val.toNat).toNat = character.val.toNat :=
    UInt8.toNat_ofNat_of_lt' (Nat.lt_of_le_of_lt ascii (by decide))
  rw [utf8EncodeChar_of_ascii ascii]
  refine ⟨_, List.mem_singleton_self _, ?_⟩
  rcases codes with ⟨control, tab, feed, page, carriage⟩ | delete
  · have small : UInt8.ofNat character.val.toNat < 0x20 := by
      rw [UInt8.lt_iff_toNat_lt, same]
      exact control
    have notBlank : isBlankByte (UInt8.ofNat character.val.toNat) = false := by
      have different (other : UInt8) (code : character.val.toNat ≠ other.toNat) :
          (UInt8.ofNat character.val.toNat == other) = false := by
        rw [beq_eq_false_iff_ne, ne_eq, ← UInt8.toNat_inj, same]
        exact code
      rw [isBlankByte, different 0x20 (Nat.ne_of_lt control), different 0x09 tab,
        different 0x0a feed, different 0x0c page, different 0x0d carriage]
      rfl
    rw [isTaken, notBlank, decide_eq_true small]
    rfl
  · rw [delete]
    rfl

/-- A text stays as it is exactly if all its characters are shown. -/
theorem plain_eq_self_iff (text : String) :
    plain text = text ↔ ∀ character ∈ text.toList, isShown character = true := by
  constructor
  · intro same character member
    by_contra hidden
    rcases exists_isTaken (Bool.eq_false_iff.mpr hidden) with ⟨byte, within, taken⟩
    have among : byte ∈ text.toUTF8.data.toList := by
      rw [bytes_eq_flatMap]
      exact List.mem_flatMap.mpr ⟨character, member, within⟩
    have shorter := length_plainBytes_lt false .none among taken
    rw [plain, String.fromUTF8?] at same
    split at same
    next valid =>
      have bytes := congrArg (fun text => text.toUTF8.data.toList.length) same
      exact absurd bytes (Nat.ne_of_lt shorter)
    next =>
      rw [← same] at member
      cases member
  · intro shown
    have kept := plainBytes_flatMap shown false
    rw [← bytes_eq_flatMap] at kept
    rw [plain, kept]
    have decoded : String.fromUTF8? text.toUTF8 = some text := dif_pos text.isValidUTF8
    exact congrArg (fun text => Option.getD text "") decoded

end Text
end Instrument
