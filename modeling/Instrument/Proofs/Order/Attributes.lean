import Instrument.Proofs.Order.Reading

/-!
# The order of attributes

An attribute is a landmark by its first sign, and its value may have landmarks behind it.  The paths
and the tokens of an attribute have none.
-/

namespace Instrument

open Instrument.Parser

set_option synthInstance.maxSize 1000000000

open Grammar

/-! ## Names of rules -/

instance : HasPlaces Symbol where
  places source
    | .operators left _ _ => source.placesIn left
    | .itemBehind _ attributes => source.placesIn attributes
    | _ => []

/-- An interpretation of the names of rules that reads landmarks in their order. -/
class Rules.AreOrdered (source : Source) [Rules] : Prop where
  reads : ∀ symbol, Reads source (source.placesIn symbol) (Rules.parse symbol) source.placesIn

namespace Draws

variable {source : Source} {had rest : List Nat}

instance expression {allowStruct : Bool} :
    Draws had (source.placesIn (Symbol.expression allowStruct)) had :=
  of_nil rfl

instance leadingExpression : Draws had (source.placesIn Symbol.leadingExpression) had :=
  of_nil rfl

instance operand {allowStruct : Bool} :
    Draws had (source.placesIn (Symbol.operand allowStruct)) had :=
  of_nil rfl

instance blockExpression : Draws had (source.placesIn Symbol.blockExpression) had :=
  of_nil rfl

instance statements : Draws had (source.placesIn Symbol.statements) had :=
  of_nil rfl

instance type {allowPlus : Bool} : Draws had (source.placesIn (Symbol.type allowPlus)) had :=
  of_nil rfl

instance bound {allowCapture allowConst : Bool} :
    Draws had (source.placesIn (Symbol.bound allowCapture allowConst)) had :=
  of_nil rfl

instance pattern : Draws had (source.placesIn Symbol.pattern) had :=
  of_nil rfl

instance useTree {allowRoot : Bool} :
    Draws had (source.placesIn (Symbol.useTree allowRoot)) had :=
  of_nil rfl

instance operators {left : Node} {allowStruct : Bool} {weakest : Nat}
    [drawn : Draws had (source.placesIn left) rest] :
    Draws had (source.placesIn (Symbol.operators left allowStruct weakest)) rest :=
  drawn

instance itemBehind {start : Nat} {attributes : List Node}
    [drawn : Draws had (source.placesIn attributes) rest] :
    Draws had (source.placesIn (Symbol.itemBehind start attributes)) rest :=
  drawn

instance plainSegment {name : Node} [drawn : Draws had (source.placesIn name) rest] :
    Draws had (source.placesIn (Grammar.plainSegment name)) rest := by
  unfold Grammar.plainSegment
  infer_instance

instance pathOfName {name : Node} [drawn : Draws had (source.placesIn name) rest] :
    Draws had (source.placesIn (Grammar.pathOfName name)) rest := by
  unfold Grammar.pathOfName
  infer_instance

end Draws

/-! ## Landmarks -/

/-- A parser reads exactly one token, and makes it a leaf. -/
def ReadsToken (source : Source) (parser : Parser Node) : Prop :=
  ∀ cursor value behind, reading source cursor parser = .ok (value, behind) →
    value = .leaf (.read cursor.position) ∧ cursor.position < cursor.limit ∧
      behind = { cursor with position := cursor.position + 1 }

section Landmarks

variable {source : Source} {text : String}

theorem readsToken_word : ReadsToken source (word text) := by
  intro cursor
  refine Leaves.look (reading_peek _) ?_
  split
  next present =>
      intro value behind read
      cases read
      exact ⟨rfl, lt_limit_of_stands present, rfl⟩
  next => exact Leaves.failHere _

theorem readsToken_mark (single : text.length = 1) : ReadsToken source (mark text) := by
  intro cursor
  refine Leaves.look (reading_peek _) ?_
  split
  next present =>
      rw [single]
      intro value behind read
      cases read
      exact ⟨rfl, lt_limit_of_stands present, rfl⟩
  next => exact Leaves.throw _

/-- A token is a place behind those that were known. -/
theorem Follows.token {cursor : Cursor} (inside : cursor.position < cursor.limit) :
    Follows [] [cursor.position] cursor { cursor with position := cursor.position + 1 } where
  limit := rfl
  forward := Nat.le_succ _
  inside _ place member := by
    rw [List.mem_singleton.mp member]
    exact inside
  rising before rising := by
    rw [List.append_nil] at rising
    exact Rising.iff.mpr ⟨rising, by
      intro place member
      rcases List.mem_append.mp member with known | added
      · exact Nat.lt_succ_of_lt ((Rising.iff.mp rising).2 place known)
      · rw [List.mem_singleton.mp added]
        exact Nat.lt_succ_self _⟩

/-- A token that is a landmark is followed by a step that is given it as a leaf. -/
theorem Reads.landmarkThen {β : Type} {prior : List Nat} {given : β → List Nat}
    {parser : Parser Node} {next : Node → Parser β} (token : ReadsToken source parser)
    (second : ∀ position,
      Reads source (prior ++ [position]) (next (.leaf (.read position))) given) :
    Reads source prior (parser >>= next) given where
  ofReading cursor result behind confines read := by
    rw [reading_bind] at read
    split at read
    next value middle reached =>
        rcases token _ _ _ reached with ⟨rfl, inside, rfl⟩
        have follows := Follows.token inside
        have all : (prior ++ []).Sublist prior := by rw [List.append_nil]
        refine follows.trans all ?_
        exact (second cursor.position).ofReading _ _ _ (follows.confines confines) read
    next => cases read

end Landmarks

/-- An attribute is a landmark in front of those in its value. -/
theorem Source.placesIn_attribute (source : Source) {kind : Kind}
    (isAttribute : kind = .outerAttribute ∨ kind = .innerAttribute) (position : Nat)
    (parts : List Node) :
    source.placesIn (Tree.node kind (.leaf (.read position) :: parts)) =
      [position] ++ source.placesIn parts := by
  rcases isAttribute with rfl | rfl
  all_goals
    rw [source.placesIn_node rfl rfl]
    rfl

namespace Draws

variable {source : Source} {had rest : List Nat} {position : Nat} {parts : List Node}

instance outerAttribute
    [drawn : Draws had (source.placesIn parts) (rest ++ [position])] :
    Draws had (source.placesIn (Tree.node .outerAttribute (.leaf (.read position) :: parts)))
      rest :=
  of_eq (source.placesIn_attribute (.inl rfl) position parts) (both drawn found)

instance innerAttribute
    [drawn : Draws had (source.placesIn parts) (rest ++ [position])] :
    Draws had (source.placesIn (Tree.node .innerAttribute (.leaf (.read position) :: parts)))
      rest :=
  of_eq (source.placesIn_attribute (.inr rfl) position parts) (both drawn found)

end Draws

namespace Takes

variable {source : Source} [source.IsNested]

instance plainPath : Takes source Grammar.plainPath [] source.placesIn := by
  refine ⟨Reads.andThen inferInstance fun leading => Reads.andThen inferInstance fun segments => ?_⟩
  rcases segments with ⟨_ | ⟨last, before⟩, endsInSeparator⟩
  · infer_instance
  · dsimp only
    infer_instance

instance bracketed : Takes source Grammar.bracketed [] source.placesIn := by
  unfold Grammar.bracketed
  exact ⟨inferInstance⟩

instance invocationBehind {path : Node} :
    Takes source (Grammar.invocationBehind path) (source.placesIn path) source.placesIn := by
  unfold Grammar.invocationBehind
  exact ⟨inferInstance⟩

instance behindBrace : Takes source Grammar.behindBrace [] source.placesIn := by
  refine looks fun cursor => ?_
  refine Leaves.look rfl (Leaves.look rfl ?_)
  split
  all_goals exact Leaves.pure rfl

variable [Rules] [rules : Rules.AreOrdered source]

instance parse {symbol : Symbol} :
    Takes source (Rules.parse symbol) (source.placesIn symbol) source.placesIn :=
  ⟨rules.reads symbol⟩

instance literal : Takes source Grammar.literal [] source.placesIn := by
  unfold Grammar.literal
  exact ⟨inferInstance⟩

instance literalExpression : Takes source Grammar.literalExpression [] source.placesIn := by
  unfold Grammar.literalExpression
  exact ⟨inferInstance⟩

instance attributeContent : Takes source Grammar.attributeContent [] source.placesIn := by
  unfold Grammar.attributeContent
  exact ⟨inferInstance⟩

instance outerAttribute : Takes source Grammar.outerAttribute [] source.placesIn := by
  refine ⟨Reads.landmarkThen (readsToken_mark rfl) fun position => ?_⟩
  infer_instance

instance innerAttribute : Takes source Grammar.innerAttribute [] source.placesIn := by
  refine ⟨Reads.landmarkThen (readsToken_mark rfl) fun position => ?_⟩
  infer_instance

instance outerAttributes : Takes source Grammar.outerAttributes [] source.placesIn := by
  unfold Grammar.outerAttributes
  infer_instance

instance innerAttributes : Takes source Grammar.innerAttributes [] source.placesIn := by
  unfold Grammar.innerAttributes
  infer_instance

end Takes
end Instrument
