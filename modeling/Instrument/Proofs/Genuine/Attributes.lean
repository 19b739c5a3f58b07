import Instrument.Proofs.Genuine.Trees

/-!
# The rule for attributes

The content of an attribute starts with a path, and the rule looks at what stands behind it:
brackets make it an attribute with arguments, an equals sign one with a value.  An attribute that is
read as neither therefore has no equals sign behind its path, unless the path ends the group of the
attribute; but there stands a bracket.
-/

namespace Instrument

open Instrument.Parser

set_option synthInstance.maxSize 1000000000

open Grammar

/-- The trees that the rest of the input is read with. -/
instance : HasNodes Symbol where
  nodes
    | .operators left _ _ => [left]
    | .itemBehind _ attributes => HasNodes.nodes attributes
    | _ => []

/-- An interpretation of the names of rules that keeps trees genuine. -/
class Rules.AreGenuine (source : Source) [Rules] : Prop extends Rules.AreFitting where
  reads : ∀ symbol, Genuine source symbol → ReadsGenuine source (Rules.parse symbol)

namespace Genuine

variable {source : Source}

instance plainSegment {name : Node} [Genuine source name] :
    Genuine source (Grammar.plainSegment name) := by
  unfold Grammar.plainSegment
  infer_instance

instance pathOfName {name : Node} [Genuine source name] :
    Genuine source (Grammar.pathOfName name) := by
  unfold Grammar.pathOfName
  infer_instance

/-! Most names of rules have no trees as parameters. -/

theorem symbol_of_nil {symbol : Symbol} (nothing : HasNodes.nodes symbol = []) :
    Genuine source symbol where
  ofNodes tree inside := by
    rw [nothing] at inside
    cases inside

instance expression {allowStruct : Bool} : Genuine source (Symbol.expression allowStruct) :=
  symbol_of_nil rfl

instance leadingExpression : Genuine source Symbol.leadingExpression :=
  symbol_of_nil rfl

instance operand {allowStruct : Bool} : Genuine source (Symbol.operand allowStruct) :=
  symbol_of_nil rfl

instance blockExpression : Genuine source Symbol.blockExpression :=
  symbol_of_nil rfl

instance statements : Genuine source Symbol.statements :=
  symbol_of_nil rfl

instance type {allowPlus : Bool} : Genuine source (Symbol.type allowPlus) :=
  symbol_of_nil rfl

instance bound {allowCapture allowConst : Bool} :
    Genuine source (Symbol.bound allowCapture allowConst) :=
  symbol_of_nil rfl

instance pattern : Genuine source Symbol.pattern :=
  symbol_of_nil rfl

instance useTree {allowRoot : Bool} : Genuine source (Symbol.useTree allowRoot) :=
  symbol_of_nil rfl

instance operators {left : Node} {allowStruct : Bool} {weakest : Nat}
    [genuine : Genuine source left] :
    Genuine source (Symbol.operators left allowStruct weakest) :=
  ⟨genuine.ofNodes⟩

instance itemBehind {start : Nat} {attributes : List Node} [genuine : Genuine source attributes] :
    Genuine source (Symbol.itemBehind start attributes) :=
  ⟨genuine.ofNodes⟩

end Genuine

/-- The group that a bracket opens has no equals sign at its end. -/
class Source.IsGrouped (source : Source) : Prop where
  notEquals : ∀ position delimiter line,
    source.tokens[position]? = some ⟨.opening delimiter, line⟩ →
      ¬ source.HasEquals (behindTrees source position 1 - 1)

section Names

variable {source : Source} {cursor : Cursor}

theorem lt_limit_of_lexemeIn {position : Nat} {lexeme : Lexeme}
    (found : lexemeIn source cursor position = some lexeme) : position < cursor.limit := by
  unfold lexemeIn at found
  split at found
  · assumption
  · cases found

/-- What stands at a place of a group is inside the group. -/
theorem lt_limit_of_stands {terminal : Terminal} {position : Nat}
    (present : stands terminal source cursor position = true) : position < cursor.limit := by
  unfold stands at present
  cases lexeme : lexemeIn source cursor position with
  | some found => exact lt_limit_of_lexemeIn lexeme
  | none =>
      rw [lexeme] at present
      cases terminal <;> cases present

/-- A leaf is the token in front of the cursor, inside a group that ends at a limit. -/
def IsNameBefore (limit : Nat) (name : Node) (cursor : Cursor) : Prop :=
  ∃ position, name = .leaf (.read position) ∧ cursor.position = position + 1 ∧
    position < limit ∧ cursor.limit = limit

/-- If a tree is a path, its last name is the token in front of the cursor. -/
def EndsInName (limit : Nat) (path : Node) (cursor : Cursor) : Prop :=
  ∀ leading segments name rest, path = .node .path [leading, segments] →
    segments.elements.getLast? = some (.node .segment (name :: rest)) →
    IsNameBefore limit name cursor

theorem leaves_take (inside : cursor.position < cursor.limit) :
    Leaves source cursor take (IsNameBefore cursor.limit) := by
  intro name behind read
  cases read
  exact ⟨cursor.position, rfl, rfl, inside, rfl⟩

theorem leaves_anyWord : Leaves source cursor anyWord (IsNameBefore cursor.limit) := by
  refine Leaves.look (reading_peek _) ?_
  split
  next present => exact leaves_take (lt_limit_of_stands present)
  next => exact Leaves.failHere _

theorem leaves_identifier : Leaves source cursor identifier (IsNameBefore cursor.limit) := by
  refine Leaves.look rfl (Leaves.look rfl ?_)
  split
  next found =>
      split
      next => exact Leaves.failHere _
      next => exact leaves_take (lt_limit_of_lexemeIn found)
  next => exact Leaves.failHere _

theorem leaves_mark {text : String} :
    Leaves source cursor (mark text) fun _ behind => behind.limit = cursor.limit := by
  refine Leaves.look rfl ?_
  split
  next =>
      split
      all_goals
        intro _ behind read
        cases read
        rfl
  next => exact Leaves.throw _

theorem leaves_optionalMark {text : String} :
    Leaves source cursor (optionalMark text) fun _ behind => behind.limit = cursor.limit := by
  refine Leaves.look rfl ?_
  split
  next => exact leaves_mark
  next => exact Leaves.pure rfl

theorem endsInName_sequence {limit : Nat} {name leading : Node} {parts : List Node}
    (before : IsNameBefore limit name cursor) :
    EndsInName limit (.node .path [leading, .sequence (plainSegment name :: parts).reverse])
      cursor := by
  rintro _ _ last rest ⟨rfl, rfl⟩ found
  have reversed : (Tree.sequence (plainSegment name :: parts).reverse).elements =
      (plainSegment name :: parts.filter fun part => !part.isLeaf).reverse := List.filter_reverse
  rw [reversed, List.getLast?_reverse] at found
  cases found
  exact before

theorem endsInName_pathOfName {limit : Nat} {name : Node}
    (before : IsNameBefore limit name cursor) :
    EndsInName limit (pathOfName name) cursor := by
  rintro _ _ last rest ⟨rfl, rfl⟩ found
  cases found
  exact before

/-- What has been read of a path ends in a name in front of the cursor, unless a name is next. -/
def PathSoFar (limit : Nat) (found : List Node × Bool) (cursor : Cursor) : Prop :=
  cursor.limit = limit ∧ (found.2 = false →
    ∃ name before, found.1 = plainSegment name :: before ∧ IsNameBefore limit name cursor)

theorem leaves_plainPath : Leaves source cursor plainPath (EndsInName cursor.limit) := by
  refine Leaves.bind leaves_optionalMark fun leading start same => ?_
  rw [← same]
  refine Leaves.bind (?_ : Leaves source start _ (PathSoFar start.limit)) ?_
  · refine Leaves.repeating ?_ ⟨rfl, nofun⟩
    rintro ⟨found, segmentNext⟩ cursor ⟨limit, soFar⟩
    rw [← limit] at soFar ⊢
    dsimp only
    split
    next =>
        refine Leaves.look rfl ?_
        split
        next =>
            refine Leaves.bind leaves_anyWord fun name behind before => Leaves.pure ?_
            exact ⟨before.choose_spec.2.2.2, fun _ => ⟨name, found, rfl, before⟩⟩
        next => exact Leaves.pure ⟨rfl, soFar⟩
    next =>
        refine Leaves.look rfl ?_
        split
        next =>
            exact Leaves.bind leaves_mark fun separator behind same => Leaves.pure ⟨same, nofun⟩
        next => exact Leaves.pure ⟨rfl, soFar⟩
  · rintro ⟨found, endsInSeparator⟩ cursor ⟨limit, soFar⟩
    rw [← limit] at soFar ⊢
    cases found with
    | nil =>
        intro name behind read leading segments last rest isPath
        rcases leaves_identifier name behind read with ⟨position, isLeaf, _⟩
        rw [isLeaf] at isPath
        cases isPath
    | cons last before =>
        cases endsInSeparator with
        | true => exact Leaves.failHere _
        | false =>
            rcases soFar rfl with ⟨name, others, same, before⟩
            cases same
            exact Leaves.pure (endsInName_sequence before)

/-- If an attribute has neither arguments nor a value, its path ends in a name in front of the
cursor, and no equals sign stands there. -/
def IsContentBefore (source : Source) (limit : Nat) (content : Node) (cursor : Cursor) : Prop :=
  ∀ path, content = .node .metaPath [path] →
    EndsInName limit path cursor ∧ stands (.mark "=") source cursor cursor.position = false

theorem IsContentBefore.of_ne {limit : Nat} {kind : Kind} {parts : List Node}
    (other : kind ≠ .metaPath) : IsContentBefore source limit (.node kind parts) cursor := by
  intro path same
  cases same
  exact absurd rfl other

theorem leaves_attributeContent [Rules] :
    Leaves source cursor attributeContent (IsContentBefore source cursor.limit) := by
  unfold attributeContent
  refine Leaves.look rfl ?_
  extract_lets behindPath
  have rest (path : Node) (behind : Cursor) (ends : EndsInName cursor.limit path behind) :
      Leaves source behind (behindPath path) (IsContentBefore source cursor.limit) := by
    refine Leaves.look rfl ?_
    split
    next => exact Leaves.after fun arguments _ => Leaves.pure (.of_ne nofun)
    next =>
        refine Leaves.look rfl ?_
        split
        next =>
            refine Leaves.after fun equals _ => Leaves.after fun isLiteral _ => ?_
            extract_lets behindValue behindLiteral
            have (isLiteral : Bool) (behind : Cursor) : Leaves source behind
                (behindLiteral isLiteral) (IsContentBefore source cursor.limit) := by
              refine Leaves.after fun isHash _ => Leaves.after fun isBracket _ => ?_
              repeat' split
              all_goals exact Leaves.after fun value _ => Leaves.pure (.of_ne nofun)
            split
            all_goals exact Leaves.after fun isLiteral _ => this isLiteral _
        next absent =>
            refine Leaves.pure ?_
            rintro other ⟨rfl⟩
            exact ⟨ends, by simpa using absent⟩
  split
  next present =>
      refine Leaves.bind (leaves_take (lt_limit_of_stands present)) fun name behind before => ?_
      exact rest _ _ (endsInName_pathOfName before)
  next => exact Leaves.bind leaves_plainPath rest


theorem not_hasEquals_of_stands {position : Nat} (inside : position < cursor.limit)
    (absent : stands (.mark "=") source cursor position = false) :
    ¬ source.HasEquals position := by
  rintro ⟨joint, line, token⟩
  have lexeme : lexemeIn source cursor position = some (.mark "=" joint) := by
    rw [lexemeIn, if_pos inside, token]
    rfl
  have present : stands (.mark "=") source cursor position = true := by
    simp [stands, marksAt, lexeme]
  rw [present] at absent
  cases absent

theorem token_of_stands_group {delimiter : Delimiter} {position : Nat}
    (present : stands (.group delimiter) source cursor position = true) :
    ∃ opened line, source.tokens[position]? = some ⟨.opening opened, line⟩ := by
  unfold stands at present
  split at present
  any_goals contradiction
  next opened _ lexeme =>
      unfold lexemeIn at lexeme
      split at lexeme
      next =>
          rcases Option.map_eq_some_iff.mp lexeme with ⟨⟨_, line⟩, token, rfl⟩
          exact ⟨opened, line, token⟩
      next => cases lexeme

/-- An attribute without arguments that is read has no value behind its path. -/
theorem noValueBehind [source.IsGrouped] {delimiter : Delimiter}
    {hash opening content closing : Node} {start limit : Nat} {outside : Cursor}
    (present : stands (.group delimiter) source outside start = true)
    (ends : limit = behindTrees source start 1 - 1)
    (before : IsContentBefore source limit content cursor) :
    NoValueBehind source [hash, opening, content, closing] := by
  unfold NoValueBehind
  split
  next leading segments same =>
      cases same
      rintro name rest last
      rcases before _ rfl with ⟨endsInName, absent⟩
      rcases endsInName _ _ _ _ rfl last with ⟨position, isName, next, inside, same⟩
      refine ⟨position, isName, ?_⟩
      rcases Nat.lt_or_ge (position + 1) limit with within | beyond
      · rw [← next] at within ⊢
        exact not_hasEquals_of_stands (same ▸ within) absent
      · rcases token_of_stands_group present with ⟨opened, line, token⟩
        have atEnd : position + 1 = behindTrees source start 1 - 1 := by omega
        rw [atEnd]
        exact Source.IsGrouped.notEquals _ _ _ token
  next => trivial

end Names

namespace ReadsGenuine

variable {source : Source}

instance plainPath : ReadsGenuine source Grammar.plainPath := by
  refine andThen inferInstance fun leading _ => andThen inferInstance fun segments _ => ?_
  rcases segments with ⟨_ | ⟨last, before⟩, endsInSeparator⟩
  · infer_instance
  · have : Genuine source (last :: before) := (Genuine.pair_iff.mp ‹_›).1
    dsimp only
    infer_instance

instance bracketed : ReadsGenuine source Grammar.bracketed := by
  unfold Grammar.bracketed
  infer_instance

instance invocationBehind {path : Node} [Genuine source path] :
    ReadsGenuine source (Grammar.invocationBehind path) := by
  unfold Grammar.invocationBehind
  infer_instance

variable [Rules] [rules : Rules.AreGenuine source]

instance parse {symbol : Symbol} [genuine : Genuine source symbol] :
    ReadsGenuine source (Rules.parse symbol) :=
  rules.reads symbol genuine

instance literal : ReadsGenuine source Grammar.literal := by
  unfold Grammar.literal
  infer_instance

instance literalExpression : ReadsGenuine source Grammar.literalExpression := by
  unfold Grammar.literalExpression
  infer_instance

instance attributeContent : ReadsGenuine source Grammar.attributeContent := by
  unfold Grammar.attributeContent
  infer_instance

instance innerAttribute : ReadsGenuine source Grammar.innerAttribute := by
  unfold Grammar.innerAttribute
  infer_instance

instance innerAttributes : ReadsGenuine source Grammar.innerAttributes := by
  unfold Grammar.innerAttributes
  infer_instance

/-- The rule that reads attributes, the only one that makes nodes of their kind. -/
instance outerAttribute [source.IsGrouped] : ReadsGenuine source Grammar.outerAttribute := by
  refine andThen inferInstance fun hash _ => ⟨fun cursor tree behind read => ?_⟩
  rw [reading_bind] at read
  split at read
  next found middle reached =>
      have : Genuine source found := ReadsGenuine.ofReading _ _ _ reached
      rcases Leaves.group (fun _ ends => ends ▸ leaves_attributeContent) found middle reached
        with ⟨present, inside, before⟩
      cases read
      exact Genuine.node rfl inferInstance
        ⟨fun _ => noValueBehind present rfl before, fitsInside_of_not_holdsOccupants rfl, nofun⟩
  next => cases read

instance outerAttributes [source.IsGrouped] : ReadsGenuine source Grammar.outerAttributes := by
  unfold Grammar.outerAttributes
  infer_instance

end ReadsGenuine

end Instrument
