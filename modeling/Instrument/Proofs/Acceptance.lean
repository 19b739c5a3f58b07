import Instrument.Proofs.Expansion

/-!
# What a marker can be expanded on

A function that stands alone is read in one of four forms: as a free function, as a method, as a
function of a trait or as one of an `extern` block.  The forms overlap.  Each of them is a head,
made of attributes, a visibility, `default` and a signature, with a body or a semicolon behind it,
and a form only restricts what may be present.  Since a head can be read from a place in one way
only, two forms that read the same tokens read the same function.

Expanding tries three of the four forms in turn, and looks for `const` in two of them.  The main
statement says which functions are therefore expanded: those without `default` that are not
evaluated early, and besides them those that have a visibility and end in a semicolon, even if they
are.
-/

namespace Instrument

/-! ## Reading step by step -/

namespace Parser

variable {α β : Type} {source : Source} {cursor behind : Cursor}

/-- Two steps read something if the first one reads something and the second one goes on from
there. -/
theorem reading_bind_eq_ok {parser : Parser α} {next : α → Parser β} {result : β} :
    reading source cursor (parser >>= next) = .ok (result, behind) ↔
      ∃ value middle, reading source cursor parser = .ok (value, middle) ∧
        reading source middle (next value) = .ok (result, behind) := by
  rw [reading_bind]
  constructor
  · intro read
    split at read
    next value middle reached => exact ⟨value, middle, reached, read⟩
    next => cases read
  · rintro ⟨value, middle, reached, read⟩
    rw [reached]
    exact read

theorem reading_pure_eq_ok {value result : α} :
    reading source cursor (pure value) = .ok (result, behind) ↔
      value = result ∧ cursor = behind := by
  change Except.ok (value, cursor) = _ ↔ _
  rw [Except.ok.injEq, Prod.mk.injEq]

theorem lexemeIn_of_stands_keyword {text : String} {position : Nat}
    (present : stands (.keyword text) source cursor position = true) :
    lexemeIn source cursor position = some (.word text) := by
  unfold stands at present
  split at present
  next same found =>
      cases same
      rw [found, eq_of_beq present]
  all_goals simp_all

/-- Only one word stands at a position. -/
theorem stands_keyword_unique {first second : String} {position : Nat}
    (present : stands (.keyword first) source cursor position = true)
    (different : first ≠ second) : stands (.keyword second) source cursor position = false := by
  by_contra found
  have found := lexemeIn_of_stands_keyword (Bool.not_eq_false _ ▸ found)
  rw [lexemeIn_of_stands_keyword present] at found
  cases found
  exact different rfl

/-- Where punctuation stands there is no group. -/
theorem stands_group_of_mark {text : String} {delimiter : Delimiter} {position : Nat}
    (present : stands (.mark text) source cursor position = true) :
    stands (.group delimiter) source cursor position = false := by
  unfold stands at present ⊢
  split at present
  all_goals simp_all

theorem reading_optionalWord (source : Source) (cursor : Cursor) (text : String) :
    reading source cursor (optionalWord text) =
      if stands (.keyword text) source cursor cursor.position = true then
        .ok (.leaf (.read cursor.position), { cursor with position := cursor.position + 1 })
      else .ok (.absent, cursor) := by
  rw [optionalWord, peekWord, reading_bind, reading_peek]
  dsimp only
  split <;> rfl

theorem reading_optionalWord_of_not_stands {text : String}
    (missing : stands (.keyword text) source cursor cursor.position = false) :
    reading source cursor (optionalWord text) = .ok (.absent, cursor) := by
  rw [reading_optionalWord, missing]
  rfl

theorem stands_of_reading_mark {text : String} {tree : Node}
    (read : reading source cursor (mark text) = .ok (tree, behind)) :
    stands (.mark text) source cursor cursor.position = true := by
  rw [mark, peekMark, reading_bind, reading_peek] at read
  dsimp only at read
  split at read
  next present => exact present
  next => cases read

end Parser

/-! ## Heads -/

namespace Grammar

open Instrument.Parser

variable {source : Source} {cursor behind : Cursor}

/-- A word that is no part of a signature does not start one. -/
theorem fails_signature [Rules] {word : String}
    (present : stands (.keyword word) source cursor cursor.position = true)
    (foreign : word ∉ ["const", "async", "unsafe", "extern", "fn"]) :
    Fails source cursor signature := by
  have missing (own : String) (member : own ∈ ["const", "async", "unsafe", "extern", "fn"]) :
      stands (.keyword own) source cursor cursor.position = false :=
    stands_keyword_unique present fun same => foreign (same ▸ member)
  have noWord (own : String) (member : own ∈ ["const", "async", "unsafe", "extern", "fn"]) :
      reading source cursor (optionalWord own) = .ok (.absent, cursor) :=
    reading_optionalWord_of_not_stands (missing own member)
  have noInterface : reading source cursor abi = .ok (.absent, cursor) := by
    rw [abi, peekWord, reading_bind, reading_peek]
    dsimp only
    rw [missing "extern" (by decide)]
    rfl
  have noKeyword : Fails source cursor (Parser.word "fn") := by
    refine Fails.bind_of_reading (reading_peek _) ?_
    rw [missing "fn" (by decide)]
    exact ⟨_, rfl⟩
  refine Fails.bind ?_
  refine Fails.bind_of_reading (noWord "const" (by decide)) ?_
  refine Fails.bind_of_reading (noWord "async" (by decide)) ?_
  refine Fails.bind_of_reading (noWord "unsafe" (by decide)) ?_
  refine Fails.bind_of_reading rfl (Fails.bind_of_reading rfl (Fails.bind_of_reading rfl ?_))
  exact Fails.bind_of_reading noInterface (Fails.bind noKeyword)

/-- A visibility starts with its keyword, and one that is absent takes no tokens. -/
theorem visibility_absent_or_stands {visible : Node}
    (read : reading source cursor visibility = .ok (visible, behind)) :
    visible = .absent ∧ behind = cursor ∨
      visible.isPresent = true ∧ stands (.keyword "pub") source cursor cursor.position = true := by
  rw [visibility, peekWord, reading_bind, reading_peek] at read
  dsimp only at read
  split at read
  next present =>
      right
      refine ⟨(?_ : Yields _ fun visible : Node => visible.isPresent = true) _ _ _ _ read, present⟩
      refine Yields.after fun keyword => Yields.after fun hasGroup => Yields.ite ?_ (Yields.pure rfl)
      refine Yields.after fun restricted => ?_
      cases restricted <;> exact Yields.pure rfl
  next =>
      left
      cases read
      exact ⟨rfl, rfl⟩

/-- What stands in front of the body of a function. -/
structure Head where
  attributes : List Node
  visible : Node
  mode : Node
  signature : Node

variable [Rules]

def head : Parser Head := do
  let attributes ← outerAttributes
  let visible ← visibility
  let mode ← optionalWord "default"
  return ⟨attributes, visible, mode, ← signature⟩

/-- A function of an `impl` block that stands alone. -/
def implFunction : Parser Node := do
  let attributes ← outerAttributes
  let visible ← visibility
  let mode ← optionalWord "default"
  functionBehind .implFunction attributes visible mode (← signature)

/-- Where a signature is read, no other word stands. -/
theorem reading_optionalWord_of_signature {declared : Node} {word : String}
    (read : reading source cursor signature = .ok (declared, behind))
    (foreign : word ∉ ["const", "async", "unsafe", "extern", "fn"]) :
    reading source cursor (optionalWord word) = .ok (.absent, cursor) := by
  refine reading_optionalWord_of_not_stands ?_
  by_contra present
  obtain ⟨failure, fails⟩ := fails_signature (Bool.not_eq_false _ ▸ present) foreign
  rw [fails] at read
  cases read

/-- Where a signature is read, no visibility stands. -/
theorem reading_visibility_of_signature {declared : Node}
    (read : reading source cursor signature = .ok (declared, behind)) :
    reading source cursor visibility = .ok (.absent, cursor) := by
  have missing : stands (.keyword "pub") source cursor cursor.position = false := by
    by_contra present
    obtain ⟨failure, fails⟩ := fails_signature (Bool.not_eq_false _ ▸ present) (by decide)
    rw [fails] at read
    cases read
  rw [visibility, peekWord, reading_bind, reading_peek]
  dsimp only
  rw [missing]
  rfl

omit [Rules] in
theorem reading_optionalWord_cases {word : String} {tree : Node}
    (read : reading source cursor (optionalWord word) = .ok (tree, behind)) :
    tree = .absent ∧ behind = cursor ∨ tree.isAbsent = false := by
  rw [reading_optionalWord] at read
  split at read
  next =>
      cases read
      exact .inr rfl
  next =>
      cases read
      exact .inl ⟨rfl, rfl⟩

/-- A head without `default` is made of the other three parts. -/
theorem reading_head_iff_of_mode {found : Head} :
    (reading source cursor head = .ok (found, behind) ∧ found.mode.isAbsent = true) ↔
      ∃ atVisibility atSignature,
        reading source cursor outerAttributes = .ok (found.attributes, atVisibility) ∧
        reading source atVisibility visibility = .ok (found.visible, atSignature) ∧
        reading source atSignature signature = .ok (found.signature, behind) ∧
        found.mode = .absent := by
  simp only [head, reading_bind_eq_ok, reading_pure_eq_ok]
  constructor
  · rintro ⟨⟨attributes, atVisibility, readAttributes, visible, atMode, readVisible, mode,
      atSignature, readMode, signature, _, readSignature, rfl, rfl⟩, absent⟩
    rcases reading_optionalWord_cases readMode with ⟨rfl, rfl⟩ | present
    · exact ⟨atVisibility, _, readAttributes, readVisible, readSignature, rfl⟩
    · rw [present] at absent
      cases absent
  · obtain ⟨attributes, visible, mode, signature⟩ := found
    rintro ⟨atVisibility, atSignature, readAttributes, readVisible, readSignature, rfl⟩
    have readMode : reading source atSignature (optionalWord "default") =
        .ok (.absent, atSignature) :=
      reading_optionalWord_of_signature readSignature (by decide)
    exact ⟨⟨_, _, readAttributes, _, _, readVisible, _, _, readMode, _, _, readSignature, rfl, rfl⟩,
      rfl⟩

/-- A head without a visibility and without `default` is made of the attributes and the
signature. -/
theorem reading_head_iff_of_bare {found : Head} :
    (reading source cursor head = .ok (found, behind) ∧ found.mode.isAbsent = true ∧
        found.visible.isAbsent = true) ↔
      ∃ atSignature,
        reading source cursor outerAttributes = .ok (found.attributes, atSignature) ∧
        reading source atSignature signature = .ok (found.signature, behind) ∧
        found.mode = .absent ∧ found.visible = .absent := by
  rw [← and_assoc, reading_head_iff_of_mode]
  constructor
  · rintro ⟨⟨atVisibility, atSignature, readAttributes, readVisible, readSignature, noMode⟩,
      absent⟩
    rcases visibility_absent_or_stands readVisible with ⟨noVisible, rfl⟩ | ⟨present, _⟩
    · exact ⟨_, readAttributes, readSignature, noMode, noVisible⟩
    · rw [Tree.isPresent, absent] at present
      cases present
  · rintro ⟨atSignature, readAttributes, readSignature, noMode, noVisible⟩
    have readVisible := reading_visibility_of_signature readSignature
    rw [noVisible]
    exact ⟨⟨_, _, readAttributes, readVisible, readSignature, noMode⟩, rfl⟩

end Grammar

/-! ## Forms -/

/-- The parts of a function of any sort. -/
structure FunctionParts (α : Type) where
  outer : Tree α
  inner : Tree α
  visible : Tree α
  mode : Tree α
  signature : Tree α
  /-- The body, or the semicolon in its place. -/
  body : Tree α

namespace FunctionParts

variable {α β : Type}

/-- The function as a node of a kind. -/
def tree (function : FunctionParts α) (kind : Kind) : Tree α :=
  .node kind [function.outer, function.inner, function.visible, function.mode, function.signature,
    function.body]

def map (change : α → β) (function : FunctionParts α) : FunctionParts β where
  outer := function.outer.map change
  inner := function.inner.map change
  visible := function.visible.map change
  mode := function.mode.map change
  signature := function.signature.map change
  body := function.body.map change

theorem map_tree (change : α → β) (function : FunctionParts α) (kind : Kind) :
    (function.tree kind).map change = (function.map change).tree kind := by
  simp only [tree, map, Tree.map, Tree.mapParts]

/-- The declaration that the function is. -/
def declaration (function : FunctionParts Token) (callable : Callable) : Declaration :=
  ⟨callable, function.outer, function.inner, function.signature, function.body⟩

end FunctionParts

namespace Callable

open Instrument.Parser

/-- The kind of the nodes that declare a function of this sort. -/
def kind : Callable → Kind
  | free => .function
  | method => .implFunction
  | traitMethod => .traitFunction
  | foreign => .foreignFunction

/-- How a function of this sort is read where it stands alone. -/
def form [Rules] : Callable → Parser Node
  | free => Grammar.function
  | method => Grammar.implFunction
  | traitMethod => Grammar.traitFunction
  | foreign => Grammar.foreignFunction

/-- What a form requires of the head of a function: only methods can have `default`, and functions
of a trait have no visibility. -/
def Admits (callable : Callable) (found : Grammar.Head) : Prop :=
  (callable ≠ method → found.mode.isAbsent = true) ∧
    (callable = traitMethod → found.visible.isAbsent = true)

variable [Rules] {source : Source} {cursor middle behind : Cursor}

/-- What stands behind the head of a function: a body, except in an `extern` block, or a semicolon
in its place, in a trait or an `extern` block. -/
inductive Ends (callable : Callable) (source : Source) (middle behind : Cursor) :
    Node → Node → Prop
  | body {found : Grammar.Body} (notForeign : callable ≠ foreign)
      (read : reading source middle Grammar.body = .ok (found, behind)) :
      Ends callable source middle behind found.inner found.block
  | semicolon {semicolon : Node} (bodiless : callable = traitMethod ∨ callable = foreign)
      (read : reading source middle (mark ";") = .ok (semicolon, behind)) :
      Ends callable source middle behind (.sequence []) semicolon

/-- A function of a sort is read from a place in a source. -/
inductive ReadsAt (callable : Callable) (source : Source) (cursor behind : Cursor) :
    FunctionParts Citation → Prop
  | intro {found : Grammar.Head} {middle : Cursor} {inner body : Node}
      (readHead : reading source cursor Grammar.head = .ok (found, middle))
      (admitted : callable.Admits found) (ends : callable.Ends source middle behind inner body) :
      ReadsAt callable source cursor behind
        ⟨.sequence found.attributes, inner, found.visible, found.mode, found.signature, body⟩

theorem reading_functionBehind_iff {kind : Kind} {attributes : List Node}
    {visible mode declared tree : Node} :
    reading source middle (Grammar.functionBehind kind attributes visible mode declared) =
        .ok (tree, behind) ↔
      ∃ found : Grammar.Body, reading source middle Grammar.body = .ok (found, behind) ∧
        tree = .node kind
          [.sequence attributes, found.inner, visible, mode, declared, found.block] := by
  simp only [Grammar.functionBehind, reading_bind_eq_ok, reading_pure_eq_ok]
  constructor
  · rintro ⟨found, _, read, rfl, rfl⟩
    exact ⟨found, read, rfl⟩
  · rintro ⟨found, read, rfl⟩
    exact ⟨found, _, read, rfl, rfl⟩

theorem reading_function_iff {tree : Node} :
    reading source cursor Grammar.function = .ok (tree, behind) ↔
      ∃ function, tree = function.tree .function ∧ free.ReadsAt source cursor behind function := by
  simp only [Grammar.function, reading_bind_eq_ok, reading_functionBehind_iff]
  constructor
  · rintro ⟨attributes, _, readAttributes, visible, _, readVisible, declared, middle,
      readSignature, found, readBody, rfl⟩
    have readHead :
        reading source cursor Grammar.head =
          .ok (⟨attributes, visible, .absent, declared⟩, middle) ∧ _ :=
      Grammar.reading_head_iff_of_mode.mpr ⟨_, _, readAttributes, readVisible, readSignature, rfl⟩
    exact ⟨_, rfl, .intro readHead.1 ⟨fun _ => readHead.2, nofun⟩ (.body nofun readBody)⟩
  · rintro ⟨_, rfl, @⟨found, middle, inner, body, readHead, admitted, ends⟩⟩
    obtain ⟨_, _, readAttributes, readVisible, readSignature, noMode⟩ :=
      Grammar.reading_head_iff_of_mode.mp ⟨readHead, admitted.1 nofun⟩
    cases ends with
    | body _ readBody =>
        rw [noMode]
        exact ⟨_, _, readAttributes, _, _, readVisible, _, _, readSignature, _, readBody, rfl⟩
    | semicolon bodiless => simp at bodiless

theorem reading_implFunction_iff {tree : Node} :
    reading source cursor Grammar.implFunction = .ok (tree, behind) ↔
      ∃ function, tree = function.tree .implFunction ∧
        method.ReadsAt source cursor behind function := by
  simp only [Grammar.implFunction, reading_bind_eq_ok, reading_functionBehind_iff]
  constructor
  · rintro ⟨attributes, _, readAttributes, visible, _, readVisible, mode, _, readMode, declared,
      middle, readSignature, found, readBody, rfl⟩
    have readHead : reading source cursor Grammar.head =
        .ok (⟨attributes, visible, mode, declared⟩, middle) := by
      simp only [Grammar.head, reading_bind_eq_ok, reading_pure_eq_ok]
      exact ⟨_, _, readAttributes, _, _, readVisible, _, _, readMode, _, _, readSignature, rfl, rfl⟩
    exact ⟨_, rfl, .intro readHead ⟨nofun, nofun⟩ (.body nofun readBody)⟩
  · rintro ⟨_, rfl, @⟨found, middle, inner, body, readHead, admitted, ends⟩⟩
    simp only [Grammar.head, reading_bind_eq_ok, reading_pure_eq_ok] at readHead
    obtain ⟨_, _, readAttributes, _, _, readVisible, _, _, readMode, _, _, readSignature, rfl,
      rfl⟩ := readHead
    cases ends with
    | body _ readBody =>
        exact ⟨_, _, readAttributes, _, _, readVisible, _, _, readMode, _, _, readSignature, _,
          readBody, rfl⟩
    | semicolon bodiless => simp at bodiless

theorem reading_foreignFunction_iff {tree : Node} :
    reading source cursor Grammar.foreignFunction = .ok (tree, behind) ↔
      ∃ function, tree = function.tree .foreignFunction ∧
        foreign.ReadsAt source cursor behind function := by
  simp only [Grammar.foreignFunction, reading_bind_eq_ok, reading_pure_eq_ok]
  constructor
  · rintro ⟨attributes, _, readAttributes, visible, _, readVisible, declared, middle,
      readSignature, semicolon, _, readSemicolon, rfl, rfl⟩
    have readHead :
        reading source cursor Grammar.head =
          .ok (⟨attributes, visible, .absent, declared⟩, middle) ∧ _ :=
      Grammar.reading_head_iff_of_mode.mpr ⟨_, _, readAttributes, readVisible, readSignature, rfl⟩
    exact ⟨_, rfl, .intro readHead.1 ⟨fun _ => readHead.2, nofun⟩
      (.semicolon (.inr rfl) readSemicolon)⟩
  · rintro ⟨_, rfl, @⟨found, middle, inner, body, readHead, admitted, ends⟩⟩
    obtain ⟨_, _, readAttributes, readVisible, readSignature, noMode⟩ :=
      Grammar.reading_head_iff_of_mode.mp ⟨readHead, admitted.1 nofun⟩
    cases ends with
    | body notForeign => exact absurd rfl notForeign
    | semicolon _ readSemicolon =>
        rw [noMode]
        exact ⟨_, _, readAttributes, _, _, readVisible, _, _, readSignature, _, _, readSemicolon,
          rfl, rfl⟩

/-- Without a brace there is no body. -/
theorem not_reading_body {found : Grammar.Body}
    (noBrace : stands (.group .brace) source middle middle.position = false) :
    ¬ reading source middle Grammar.body = .ok (found, behind) := by
  have fails : Fails source middle Grammar.body := Fails.bind (Fails.group noBrace)
  obtain ⟨failure, fails⟩ := fails
  rw [fails]
  nofun

/-- Behind the signature of a function of a trait stands a body or a semicolon. -/
theorem reading_traitEnd_iff {attributes : List Node} {declared tree : Node} :
    reading source middle (do
        if ← peekGroup .brace then
          Grammar.functionBehind .traitFunction attributes .absent .absent declared
        else if ← peekMark ";" then
          return .node .traitFunction
            [.sequence attributes, .sequence [], .absent, .absent, declared, ← mark ";"]
        else failExpected [.group .brace, .mark ";"]) = .ok (tree, behind) ↔
      ∃ inner body, traitMethod.Ends source middle behind inner body ∧
        tree = .node .traitFunction
          [.sequence attributes, inner, .absent, .absent, declared, body] := by
  rw [peekGroup, reading_bind, reading_peek]
  dsimp only
  split
  next brace =>
      rw [reading_functionBehind_iff]
      constructor
      · rintro ⟨found, readBody, rfl⟩
        exact ⟨_, _, .body nofun readBody, rfl⟩
      · rintro ⟨_, _, ⟨_, readBody⟩ | ⟨_, readSemicolon⟩, rfl⟩
        · exact ⟨_, readBody, rfl⟩
        · rw [stands_group_of_mark (stands_of_reading_mark readSemicolon)] at brace
          cases brace
  next noBrace =>
      have noBody (found : Grammar.Body) :
          ¬ reading source middle Grammar.body = .ok (found, behind) :=
        not_reading_body (Bool.not_eq_true _ ▸ noBrace)
      rw [peekMark, reading_bind, reading_peek]
      dsimp only
      split
      next semicolon =>
          simp only [reading_bind_eq_ok, reading_pure_eq_ok]
          constructor
          · rintro ⟨semicolon, _, readSemicolon, rfl, rfl⟩
            exact ⟨_, _, .semicolon (.inl rfl) readSemicolon, rfl⟩
          · rintro ⟨_, _, ⟨_, readBody⟩ | ⟨_, readSemicolon⟩, rfl⟩
            · exact absurd readBody (noBody _)
            · exact ⟨_, _, readSemicolon, rfl, rfl⟩
      next noSemicolon =>
          constructor
          · intro read
            cases read
          · rintro ⟨_, _, ⟨_, readBody⟩ | ⟨_, readSemicolon⟩, rfl⟩
            · exact absurd readBody (noBody _)
            · exact absurd (stands_of_reading_mark readSemicolon) noSemicolon

theorem reading_traitFunction_iff {tree : Node} :
    reading source cursor Grammar.traitFunction = .ok (tree, behind) ↔
      ∃ function, tree = function.tree .traitFunction ∧
        traitMethod.ReadsAt source cursor behind function := by
  rw [Grammar.traitFunction, reading_bind_eq_ok]
  simp only [@reading_bind_eq_ok _ _ _ _ _ Grammar.signature, reading_traitEnd_iff]
  constructor
  · rintro ⟨attributes, _, readAttributes, declared, middle, readSignature, inner, body, ends, rfl⟩
    have readHead :
        reading source cursor Grammar.head =
          .ok (⟨attributes, .absent, .absent, declared⟩, middle) ∧ _ :=
      Grammar.reading_head_iff_of_bare.mpr ⟨_, readAttributes, readSignature, rfl, rfl⟩
    exact ⟨_, rfl, .intro readHead.1 ⟨fun _ => readHead.2.1, fun _ => readHead.2.2⟩ ends⟩
  · rintro ⟨_, rfl, @⟨found, middle, inner, body, readHead, admitted, ends⟩⟩
    obtain ⟨_, readAttributes, readSignature, noMode, noVisible⟩ :=
      Grammar.reading_head_iff_of_bare.mp ⟨readHead, admitted.1 nofun, admitted.2 rfl⟩
    rw [noMode, noVisible]
    exact ⟨_, _, readAttributes, _, _, readSignature, _, _, ends, rfl⟩

/-- A form reads a head that it admits, and what may stand behind it. -/
theorem reading_form_iff (callable : Callable) {tree : Node} :
    reading source cursor callable.form = .ok (tree, behind) ↔
      ∃ function, tree = function.tree callable.kind ∧
        callable.ReadsAt source cursor behind function := by
  cases callable with
  | free => exact reading_function_iff
  | method => exact reading_implFunction_iff
  | traitMethod => exact reading_traitFunction_iff
  | foreign => exact reading_foreignFunction_iff

end Callable

/-! ## Two forms of the same tokens -/

namespace Callable

open Instrument.Parser

-- The rules are those that a reading was made with, so that nothing has to be searched for.
variable {rules : Rules} {source : Source} {cursor middle behind : Cursor}
  {first second : FunctionParts Citation} {callable other : Callable}

/-- Two forms read the same head. -/
theorem ReadsAt.same_head {behind' : Cursor} (readsFirst : callable.ReadsAt source cursor behind first)
    (readsSecond : other.ReadsAt source cursor behind' second) :
    first.visible = second.visible ∧ first.mode = second.mode ∧
      first.signature = second.signature := by
  obtain @⟨found, _, _, _, readHead, _, _⟩ := readsFirst
  obtain @⟨found', _, _, _, readHead', _, _⟩ := readsSecond
  cases readHead.symm.trans readHead'
  exact ⟨rfl, rfl, rfl⟩

/-- A function is not read with a body and with a semicolon in its place. -/
theorem ReadsAt.not_free {behind' : Cursor} (readsForeign : foreign.ReadsAt source cursor behind first) :
    ¬ free.ReadsAt source cursor behind' second := by
  rintro ⟨readHead', _, ⟨_, readBody⟩ | ⟨bodiless, _⟩⟩
  · obtain ⟨readHead, _, ⟨notForeign, _⟩ | ⟨_, readSemicolon⟩⟩ := readsForeign
    · exact notForeign rfl
    · cases readHead.symm.trans readHead'
      exact not_reading_body (stands_group_of_mark (stands_of_reading_mark readSemicolon)) readBody
  · simp at bodiless

/-- A method without `default` is also read as a free function. -/
theorem ReadsAt.free_of_method (reads : method.ReadsAt source cursor behind first)
    (noMode : first.mode.isAbsent = true) : free.ReadsAt source cursor behind first := by
  obtain ⟨readHead, _, ⟨_, readBody⟩ | ⟨bodiless, _⟩⟩ := reads
  · exact .intro readHead ⟨fun _ => noMode, nofun⟩ (.body nofun readBody)
  · simp at bodiless

/-- A foreign function without a visibility is also read as one of a trait. -/
theorem ReadsAt.traitMethod_of_foreign (reads : foreign.ReadsAt source cursor behind first)
    (noVisible : first.visible.isAbsent = true) :
    traitMethod.ReadsAt source cursor behind first := by
  obtain ⟨readHead, admitted, ⟨notForeign, _⟩ | ⟨_, readSemicolon⟩⟩ := reads
  · exact absurd rfl notForeign
  · exact .intro readHead ⟨fun _ => admitted.1 nofun, fun _ => noVisible⟩
      (.semicolon (.inl rfl) readSemicolon)

theorem ReadsAt.visible_absent (reads : traitMethod.ReadsAt source cursor behind first) :
    first.visible.isAbsent = true := by
  obtain ⟨_, admitted, _⟩ := reads
  exact admitted.2 rfl

end Callable

/-! ## All tokens -/

namespace Callable

open Instrument.Parser

/-- A function of a sort is read from all of a source. -/
def ReadsAll (callable : Callable) (source : Source) (function : FunctionParts Citation) : Prop :=
  ∃ behind, @ReadsAt (Grammar.rulesFor source.tokens.size) callable source
      ⟨0, source.tokens.size, none⟩ behind function ∧
    behind.leftover = none ∧ source.tokens.size ≤ behind.position

/-- The tokens are a function of a sort that stands alone. -/
def ReadFrom (callable : Callable) (tokens : List Token) (function : FunctionParts Token) : Prop :=
  Grammar.parseTokens callable.form tokens = .ok (function.tree callable.kind)

variable {callable other : Callable} {tokens : List Token} {function second : FunctionParts Token}

theorem parseTokens_form_iff {tree : Tree Token} :
    Grammar.parseTokens callable.form tokens = .ok tree ↔
      ∃ cited, callable.ReadsAll (Source.ofTokens tokens) cited ∧
        tree = (cited.map (Citation.token (Source.ofTokens tokens))).tree callable.kind := by
  rw [Grammar.parseTokens_eq_ok_iff]
  simp only [Grammar.cite_eq_ok_iff, reading_form_iff, ReadsAll]
  constructor
  · rintro ⟨_, ⟨behind, ⟨cited, rfl, reads⟩, ends⟩, rfl⟩
    exact ⟨cited, ⟨behind, reads, ends⟩, FunctionParts.map_tree _ _ _⟩
  · rintro ⟨cited, ⟨behind, reads, ends⟩, rfl⟩
    exact ⟨_, ⟨behind, ⟨cited, rfl, reads⟩, ends⟩, (FunctionParts.map_tree _ _ _).symm⟩

/-- Whatever a form reads is a function. -/
theorem exists_readFrom (callable : Callable) {tree : Tree Token}
    (parsed : Grammar.parseTokens callable.form tokens = .ok tree) :
    ∃ function, tree = function.tree callable.kind ∧ callable.ReadFrom tokens function := by
  obtain ⟨cited, reads, rfl⟩ := parseTokens_form_iff.mp parsed
  exact ⟨_, rfl, parsed⟩

theorem readFrom_iff :
    callable.ReadFrom tokens function ↔
      ∃ cited, callable.ReadsAll (Source.ofTokens tokens) cited ∧
        function = cited.map (Citation.token (Source.ofTokens tokens)) := by
  rw [ReadFrom, parseTokens_form_iff]
  constructor
  · rintro ⟨cited, reads, same⟩
    refine ⟨cited, reads, ?_⟩
    obtain ⟨_, _, _, _, _, _⟩ := function
    simpa [FunctionParts.tree, FunctionParts.map] using same
  · rintro ⟨cited, reads, rfl⟩
    exact ⟨cited, reads, rfl⟩

theorem isAbsent_map {α β : Type} (change : α → β) (tree : Tree α) :
    (tree.map change).isAbsent = tree.isAbsent := by
  cases tree with
  | leaf value => rfl
  | node kind parts => cases kind <;> rfl

theorem ReadFrom.same_head (readsFirst : callable.ReadFrom tokens function)
    (readsSecond : other.ReadFrom tokens second) :
    function.visible = second.visible ∧ function.mode = second.mode ∧
      function.signature = second.signature := by
  obtain ⟨first, ⟨_, citesFirst, _⟩, rfl⟩ := readFrom_iff.mp readsFirst
  obtain ⟨second, ⟨_, citesSecond, _⟩, rfl⟩ := readFrom_iff.mp readsSecond
  obtain ⟨visible, mode, signature⟩ := citesFirst.same_head citesSecond
  simp only [FunctionParts.map, visible, mode, signature, and_self]

theorem ReadFrom.not_free (readsForeign : foreign.ReadFrom tokens function) :
    ¬ free.ReadFrom tokens second := by
  intro readsFree
  obtain ⟨first, ⟨_, citesForeign, _⟩, rfl⟩ := readFrom_iff.mp readsForeign
  obtain ⟨second, ⟨_, citesFree, _⟩, rfl⟩ := readFrom_iff.mp readsFree
  exact citesForeign.not_free citesFree

theorem ReadFrom.free_of_method (reads : method.ReadFrom tokens function)
    (noMode : function.mode.isAbsent = true) : free.ReadFrom tokens function := by
  obtain ⟨cited, ⟨behind, cites, ends⟩, rfl⟩ := readFrom_iff.mp reads
  rw [FunctionParts.map, isAbsent_map] at noMode
  exact readFrom_iff.mpr ⟨cited, ⟨behind, cites.free_of_method noMode, ends⟩, rfl⟩

theorem ReadFrom.traitMethod_of_foreign (reads : foreign.ReadFrom tokens function)
    (noVisible : function.visible.isAbsent = true) : traitMethod.ReadFrom tokens function := by
  obtain ⟨cited, ⟨behind, cites, ends⟩, rfl⟩ := readFrom_iff.mp reads
  rw [FunctionParts.map, isAbsent_map] at noVisible
  exact readFrom_iff.mpr ⟨cited, ⟨behind, cites.traitMethod_of_foreign noVisible, ends⟩, rfl⟩

theorem ReadFrom.visible_absent (reads : traitMethod.ReadFrom tokens function) :
    function.visible.isAbsent = true := by
  obtain ⟨cited, ⟨_, cites, _⟩, rfl⟩ := readFrom_iff.mp reads
  rw [FunctionParts.map, isAbsent_map]
  exact cites.visible_absent

/-- Only a method has `default`. -/
theorem ReadFrom.mode_absent (reads : callable.ReadFrom tokens function)
    (notMethod : callable ≠ method) : function.mode.isAbsent = true := by
  obtain ⟨cited, ⟨_, @⟨_, _, _, _, _, admitted, _⟩, _⟩, rfl⟩ := readFrom_iff.mp reads
  rw [FunctionParts.map, isAbsent_map]
  exact admitted.1 notMethod

end Callable

/-! ## What is expanded -/

namespace Expand

/-- Whether the first form that reads the tokens is refused is all that matters. -/
theorem exists_expand_iff_of_declarationTree? {kind : MarkerKind} {tokens : List Token}
    {function : FunctionParts Token} {callable : Callable}
    (first : declarationTree? tokens = some (function.tree callable.kind)) :
    (∃ expanded, expand kind [] tokens = .ok expanded) ↔
      callable = .foreign ∨ (function.declaration callable).acceptsMarker = true := by
  have declares : Declaration.ofParts? callable.kind
      [function.outer, function.inner, function.visible, function.mode, function.signature,
        function.body] = some (function.declaration callable) := by
    cases callable <;> rfl
  have refuses : refusesConst callable.kind (function.declaration callable) = true ↔
      ¬ (callable = .foreign ∨ (function.declaration callable).acceptsMarker = true) := by
    rw [refusesConst, Declaration.acceptsMarker]
    cases callable <;> simp [Callable.kind]
  rw [expand, first]
  simp only [FunctionParts.tree, declares]
  by_cases refused : refusesConst callable.kind (function.declaration callable) = true
  · simpa [refused] using refuses.mp refused
  · simpa [refused] using not_not.mp (mt refuses.mpr refused)

/-- Of the three forms that are tried, the first one that reads the tokens counts, if one does. -/
theorem declarationTree?_cases (tokens : List Token) :
    (declarationTree? tokens = none ∧ ∀ (callable : Callable) function,
        callable ≠ .method → ¬ callable.ReadFrom tokens function) ∨
      ∃ (callable : Callable) (function : FunctionParts Token), callable ≠ .method ∧
        declarationTree? tokens = some (function.tree callable.kind) ∧
        callable.ReadFrom tokens function ∧
        (callable = .foreign → ∀ other, ¬ Callable.traitMethod.ReadFrom tokens other) := by
  have notRead (callable : Callable) {failure : Failure}
      (fails : Grammar.parseTokens callable.form tokens = .error failure) (function) :
      ¬ callable.ReadFrom tokens function := by
    intro read
    cases fails.symm.trans read
  unfold declarationTree?
  split
  next tree parsed =>
      obtain ⟨function, rfl, read⟩ := Callable.exists_readFrom .free parsed
      exact .inr ⟨.free, function, nofun, rfl, read, nofun⟩
  next noFree =>
      split
      next tree parsed =>
          obtain ⟨function, rfl, read⟩ := Callable.exists_readFrom .traitMethod parsed
          exact .inr ⟨.traitMethod, function, nofun, rfl, read, nofun⟩
      next noTrait =>
          split
          next tree parsed =>
              obtain ⟨function, rfl, read⟩ := Callable.exists_readFrom .foreign parsed
              exact .inr ⟨.foreign, function, nofun, rfl, read,
                fun _ => notRead .traitMethod noTrait⟩
          next noForeign =>
              refine .inl ⟨rfl, fun callable function notMethod => ?_⟩
              cases callable with
              | free => exact notRead .free noFree function
              | method => exact absurd rfl notMethod
              | traitMethod => exact notRead .traitMethod noTrait function
              | foreign => exact notRead .foreign noForeign function

/-- Without arguments, a marker is expanded on a function that is read without `default` if the
function is not evaluated early; or if it is a foreign function with a visibility, even if it is
evaluated early.  On anything else, and with arguments, it is refused. -/
theorem exists_expand_iff (kind : MarkerKind) (arguments tokens : List Token) :
    (∃ expanded, expand kind arguments tokens = .ok expanded) ↔
      arguments = [] ∧ ∃ (callable : Callable) (function : FunctionParts Token),
        callable.ReadFrom tokens function ∧ function.mode.isAbsent = true ∧
          ((function.declaration callable).acceptsMarker = true ∨
            callable = .foreign ∧ function.visible.isPresent = true) := by
  cases arguments with
  | cons token rest => simp [expand]
  | nil =>
      rcases declarationTree?_cases tokens with ⟨noForm, notRead⟩ |
        ⟨first, found, notMethod, form, readsFound, noTrait⟩
      · -- Nothing is read at all, for a method without `default` would be read as a free function.
        constructor
        · simp [expand, noForm]
        · rintro ⟨-, callable, function, reads, noMode, -⟩
          by_cases isMethod : callable = .method
          · subst isMethod
            exact absurd (reads.free_of_method noMode) (notRead .free function Callable.noConfusion)
          · exact absurd reads (notRead callable function isMethod)
      · rw [exists_expand_iff_of_declarationTree? form]
        constructor
        · rintro (rfl | accepts)
          · refine ⟨rfl, .foreign, found, readsFound, readsFound.mode_absent notMethod,
              .inr ⟨rfl, ?_⟩⟩
            cases visible : found.visible.isAbsent with
            | true => exact absurd (readsFound.traitMethod_of_foreign visible) (noTrait rfl found)
            | false => rw [Tree.isPresent, visible]; rfl
          · exact ⟨rfl, first, found, readsFound, readsFound.mode_absent notMethod, .inl accepts⟩
        · rintro ⟨-, callable, function, reads, -, accepts | ⟨rfl, visible⟩⟩
          · right
            have same : found.signature = function.signature := (readsFound.same_head reads).2.2
            rw [← accepts]
            simp only [Declaration.acceptsMarker, Declaration.isConst, Declaration.signaturePart,
              FunctionParts.declaration, same]
          · left
            cases first with
            | free => exact absurd readsFound reads.not_free
            | method => exact absurd rfl notMethod
            | traitMethod =>
                rw [Tree.isPresent, ← (readsFound.same_head reads).1,
                  readsFound.visible_absent] at visible
                cases visible
            | foreign => rfl

/-- The tokens are a function that accepts the marker, of whatever sort. -/
def IsAcceptable (tokens : List Token) : Prop :=
  ∃ (callable : Callable) (function : FunctionParts Token),
    callable.ReadFrom tokens function ∧ (function.declaration callable).acceptsMarker = true

/-- A foreign function that is evaluated early and has a visibility. -/
def visibleForeign : List Token := (Lexer.tokens? "pub const fn f();").getD []

/-- A method with `default`. -/
def defaultMethod : List Token := (Lexer.tokens? "default fn f() \x7b\x7d").getD []

/-- What is expanded is not exactly what accepts the marker: a function that does not is expanded,
and one that does is refused. -/
theorem not_exists_expand_iff_isAcceptable :
    ¬ ((∃ expanded, expand .methodLogger [] visibleForeign = .ok expanded) ↔
        IsAcceptable visibleForeign) ∧
      ¬ ((∃ expanded, expand .methodLogger [] defaultMethod = .ok expanded) ↔
        IsAcceptable defaultMethod) := by
  have expanded_iff (tokens : List Token) :
      (∃ expanded, expand .methodLogger [] tokens = .ok expanded) ↔
        (expand .methodLogger [] tokens).isOk = true := by
    cases expand .methodLogger [] tokens <;> simp [Except.isOk, Except.toBool]
  rw [expanded_iff, expanded_iff]
  constructor
  · have expanded : (expand .methodLogger [] visibleForeign).isOk = true := by decide +kernel
    have isConst (callable : Callable) :
        (Grammar.parseTokens callable.form visibleForeign).toOption.all (fun tree =>
          (Declaration.ofTree? tree).all Declaration.isConst) = true := by
      cases callable <;> decide +kernel
    intro same
    obtain ⟨callable, function, reads, accepts⟩ := same.mp expanded
    have early : (function.declaration callable).isConst = true := by
      have early := isConst callable
      rw [show Grammar.parseTokens callable.form visibleForeign = _ from reads] at early
      cases callable <;> exact early
    rw [Declaration.acceptsMarker, early] at accepts
    cases accepts
  · have refused : (expand .methodLogger [] defaultMethod).isOk = false := by decide +kernel
    have accepts : (Grammar.parseTokens Callable.method.form defaultMethod).toOption.any (fun tree =>
        (Declaration.ofTree? tree).any Declaration.acceptsMarker) = true := by decide +kernel
    obtain ⟨tree, parsed, accepts⟩ := exists_ok_of_any accepts
    obtain ⟨function, rfl, reads⟩ := Callable.exists_readFrom .method parsed
    intro same
    rw [refused] at same
    exact absurd (same.mpr ⟨.method, function, reads, accepts⟩) nofun

end Expand
end Instrument
