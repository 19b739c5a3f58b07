import Instrument.Expand
import Instrument.Proofs.Layers
import Instrument.Proofs.Parsing

/-!
# Expanding a marker and instrumenting a file

A function can be instrumented in two ways: its marker is expanded where it stands, or the file that
it stands in is instrumented.  Expanding is the step that instrumenting takes at a single node, and
it leaves everything inside the node alone.  It also takes the node out of the reach of any further
step, because no marker is left on it.  So instrumenting a tagged node is the same as expanding it
first and instrumenting what comes out, whatever there is inside.

The second half of the module is about what can be expanded at all.  A function that has been read
from tokens has its parts in their places, and in particular a body, whatever the body is made of.
-/

namespace Instrument

/-! ## One node -/

namespace Instrumentation

variable (kind : MarkerKind) {node : Kind} {parts : List (Tree Token)}

/-- Once its markers are removed, a node is not met again. -/
theorem changedParts_instrumentParts (parts : List (Tree Token)) :
    changedParts kind .strip node (instrumentParts kind .strip parts) =
      instrumentParts kind .strip parts := by
  have untagged : changesNode kind node (instrumentParts kind .strip parts) = false :=
    changesNode_onParts_strip kind (.layers .strip 1) rfl node parts
  rw [changedParts, untagged]
  rfl

/-- Instrumenting a node that is changed is instrumenting what it is changed to. -/
theorem instrument_instrumentParts (changes : changesNode kind node parts = true) :
    instrument kind .strip (.node node (instrumentParts kind .strip parts)) =
      instrument kind .strip (.node node parts) := by
  rw [instrument_node, instrument_node, changedParts_instrumentParts, changedParts, changes]
  rfl

/-- Of the outcomes of a node that is changed, the first one is its own, and the others are those
of what it is changed to. -/
theorem outcomes_of_isInstrumented (owner : Owner) {declaration : Declaration}
    (declares : Declaration.ofParts? node parts = some declaration)
    (instrumented : isInstrumented kind declaration = true) :
    outcomes kind .strip owner (.node node parts) =
      .instrumented (owner.qualify declaration) (kind.countMarkers declaration.attributes) ::
        outcomes kind .strip owner (.node node (instrumentParts kind .strip parts)) := by
  have changed : changedParts kind .strip node parts = instrumentParts kind .strip parts := by
    rw [changedParts, changesNode, declares]
    exact if_pos instrumented
  obtain ⟨tagged, hasBody⟩ := Bool.and_eq_true_iff.mp instrumented
  have itself : outcomeReport kind .strip owner node parts =
      [.instrumented (owner.qualify declaration)
        (kind.countMarkers declaration.attributes)] := by
    rw [outcomeReport, declares, Option.bind_some, outcome?, if_pos tagged]
    exact congrArg Option.toList (if_pos hasBody)
  have again : outcomeReport kind .strip owner node (instrumentParts kind .strip parts) = [] := by
    have declaresAgain : Declaration.ofParts? node (instrumentParts kind .strip parts) =
        some ((Treatment.layers .strip 1).onDeclaration kind declaration) :=
      (ofParts?_onParts (.layers .strip 1) kind node parts).trans (by rw [declares]; rfl)
    rw [outcomeReport, declaresAgain, Option.bind_some, outcome?,
      isTagged_onDeclaration_strip _ kind rfl]
    rfl
  rw [outcomes_node, outcomes_node, itself, again, ← changed, inside_changedParts,
    flatMap_outcomes_changedParts]
  rfl

end Instrumentation

/-! ## A file with one item -/

namespace SourceFile

/-- The file that consists of one item. -/
def ofItem (item : Tree Token) : SourceFile :=
  ⟨none, .node .file [.sequence [], .sequence [item]]⟩

variable (kind : MarkerKind) (policy : MarkerPolicy) (item : Tree Token)

theorem file_instrument_ofItem :
    ((ofItem item).instrument kind policy).file =
      ofItem (Instrumentation.instrument kind policy item) := by
  have notCallable (node : Kind) (parts : List (Tree Token)) :=
    treat_node_of_not_callable kind (Treatment.layers policy 1) node parts
  simp only [instrument, ofItem, instrument_eq_treat, notCallable .file _ rfl, Tree.sequence,
    treat_sequence, List.map_cons, List.map_nil]

theorem outcomes_instrument_ofItem :
    ((ofItem item).instrument kind policy).outcomes =
      Instrumentation.outcomes kind policy none item := by
  have silent : ∀ node parts, Callable.ofKind? node = none →
      Owner.inside none node parts = none →
        Instrumentation.outcomes kind policy none (.node node parts) =
          parts.flatMap (Instrumentation.outcomes kind policy none) := by
    intro node parts notCallable inside
    have notDeclaration : Declaration.ofParts? node parts = none := by
      simp only [Declaration.ofParts?, notCallable]
    rw [Instrumentation.outcomes_node, Instrumentation.outcomeReport, inside, notDeclaration]
    rfl
  change Instrumentation.outcomes kind policy none (.node .file _) = _
  rw [silent .file _ rfl rfl, List.flatMap_cons, List.flatMap_singleton, Tree.sequence,
    Tree.sequence, silent .sequence _ rfl rfl, silent .sequence _ rfl rfl, List.flatMap_nil,
    List.flatMap_singleton, List.nil_append]

end SourceFile

/-! ## Functions with a body -/

/-- The parts of a function that has a body. -/
structure BodiedFunction (α : Type) where
  attributes : List (Tree α)
  inner : List (Tree α)
  visible : Tree α
  mode : Tree α
  signature : Tree α
  opening : Tree α
  statements : List (Tree α)
  closing : Tree α

namespace BodiedFunction

variable {α β : Type}

/-- The parts in their places. -/
def parts (function : BodiedFunction α) : List (Tree α) :=
  [.sequence function.attributes, .sequence function.inner, function.visible, function.mode,
    function.signature, .node .block
      [function.opening, .sequence function.statements, function.closing]]

/-- The function as a tree. -/
def tree (function : BodiedFunction α) : Tree α :=
  .node .function function.parts

/-- The function with its leaves changed. -/
def map (change : α → β) (function : BodiedFunction α) : BodiedFunction β where
  attributes := Tree.mapParts change function.attributes
  inner := Tree.mapParts change function.inner
  visible := function.visible.map change
  mode := function.mode.map change
  signature := function.signature.map change
  opening := function.opening.map change
  statements := Tree.mapParts change function.statements
  closing := function.closing.map change

theorem map_tree (change : α → β) (function : BodiedFunction α) :
    function.tree.map change = (function.map change).tree := by
  simp only [tree, parts, Tree.map, Tree.mapParts, Tree.sequence, map]

/-- The declaration that the function is. -/
def declaration (function : BodiedFunction Token) : Declaration :=
  ⟨.free, .sequence function.attributes, .sequence function.inner, function.signature,
    .node .block [function.opening, .sequence function.statements, function.closing]⟩

end BodiedFunction

namespace Grammar

open Instrument.Parser

/-- The statements of a block are read as a sequence, to whatever depth names are interpreted. -/
theorem yields_statements (depth : Nat) :
    Yields (interpret depth .statements) fun tree => ∃ statements, tree = .sequence statements := by
  cases depth with
  | zero => exact Yields.throw _
  | succ depth => exact Yields.after fun found => Yields.pure ⟨found.reverse, rfl⟩

theorem yields_body (depth : Nat) :
    Yields (@body ⟨interpret depth⟩) fun found => ∃ inner opening statements closing,
      found.inner = .sequence inner ∧
        found.block = .node .block [opening, .sequence statements, closing] := by
  have inside : Yields (do
      let inner ← @innerAttributes ⟨interpret depth⟩
      pure (inner, ← interpret depth .statements))
      fun content => ∃ statements, content.2 = .sequence statements :=
    Yields.after fun _ => Yields.bind (yields_statements depth) fun _ read => Yields.pure read
  refine Yields.bind (Yields.group inside) ?_
  rintro ⟨opening, ⟨inner, _⟩, closing⟩ ⟨statements, rfl⟩
  exact Yields.pure ⟨inner, opening, statements, closing, rfl, rfl⟩

/-- What is read as a function has the parts of one in their places. -/
theorem yields_function (depth : Nat) :
    Yields (@function ⟨interpret depth⟩) fun tree =>
      ∃ function : BodiedFunction Citation, tree = function.tree := by
  refine Yields.after fun attributes => Yields.after fun visible => Yields.after fun signature => ?_
  refine Yields.bind (yields_body depth) ?_
  rintro ⟨_, _⟩ ⟨inner, opening, statements, closing, rfl, rfl⟩
  exact Yields.pure
    ⟨⟨attributes, inner, visible, .absent, signature, opening, statements, closing⟩, rfl⟩

/-- What a parser reads of all the tokens has what the parser yields at the depth for so many
tokens. -/
theorem cite_of_yields {start : [Rules] → Parser Node} {property : Node → Prop}
    (yields : ∀ depth, Yields (@start ⟨interpret depth⟩) property) {source : Source} {tree : Node}
    (cited : cite start source = .ok tree) : property tree := by
  obtain ⟨_, reached, _, _⟩ := cite_eq_ok_iff.mp cited
  exact yields _ source _ _ _ reached

theorem exists_of_parseTokens_function {tokens : List Token} {tree : Tree Token}
    (parsed : parseTokens function tokens = .ok tree) :
    ∃ function : BodiedFunction Token, tree = function.tree := by
  obtain ⟨cited, found, rfl⟩ := parseTokens_eq_ok_iff.mp parsed
  obtain ⟨function, rfl⟩ := cite_of_yields yields_function found
  exact ⟨function.map _, BodiedFunction.map_tree _ function⟩

end Grammar

/-! ## Expanding a function -/

/-- The declaration that a tree is. -/
def Declaration.ofTree? : Tree Token → Option Declaration
  | .leaf _ => none
  | .node node parts => ofParts? node parts

/-- A declaration with one more attribute in front of those that it has. -/
def Tree.withAttribute (tree added : Tree Token) : Tree Token :=
  match tree with
  | .node kind (.node .sequence attributes :: behind) =>
    .node kind (.node .sequence (added :: attributes) :: behind)
  | other => other

namespace BodiedFunction

variable (kind : MarkerKind) (function : BodiedFunction Token)

/-- The function with one more attribute. -/
def withAttribute (added : Tree Token) : BodiedFunction Token :=
  { function with attributes := added :: function.attributes }

theorem tree_withAttribute (added : Tree Token) :
    (function.withAttribute added).tree = function.tree.withAttribute added :=
  rfl

/-- A further marker makes no difference to what is expanded. -/
theorem instrumentParts_withAttribute {marker : Tree Token}
    (isMarker : kind.isMarker marker = true) :
    Instrumentation.instrumentParts kind .strip (function.withAttribute marker).parts =
      Instrumentation.instrumentParts kind .strip function.parts := by
  have stripped : kind.strip (marker :: function.attributes) = kind.strip function.attributes := by
    rw [MarkerKind.strip, List.filter_cons, isMarker]
    rfl
  change _ :: _ = _ :: _
  congr 1
  exact congrArg (Tree.node .sequence) stripped

theorem isInstrumented_withAttribute {marker : Tree Token} (isMarker : kind.isMarker marker = true)
    (notConst : function.declaration.isConst = false) :
    Instrumentation.isInstrumented kind (function.withAttribute marker).declaration = true := by
  have element : marker ∈ (function.withAttribute marker).declaration.attributes := by
    refine List.mem_append_left _ (List.mem_filter.mpr ⟨List.mem_cons_self, ?_⟩)
    cases marker with
    | leaf token => cases isMarker
    | node node parts => rfl
  have marked : (function.withAttribute marker).declaration.isMarked kind = true :=
    List.any_eq_true.mpr ⟨marker, element, isMarker⟩
  have accepts : (function.withAttribute marker).declaration.acceptsMarker = true :=
    congrArg not notConst
  rw [Instrumentation.isInstrumented, Declaration.isTagged, accepts, marked]
  rfl

theorem expandTree_tree :
    Expand.expandTree kind function.tree =
      .node .function (Instrumentation.instrumentParts kind .strip function.parts) :=
  rfl

/-- A function that is not evaluated early is expanded. -/
theorem expand_of_parseTokens {tokens : List Token}
    (parsed : Grammar.parseTokens Grammar.function tokens = .ok function.tree)
    (notConst : function.declaration.isConst = false) :
    Expand.expand kind [] tokens = .ok (Expand.expandTree kind function.tree) := by
  have form : Expand.declarationTree? tokens = some (.node .function function.parts) := by
    rw [Expand.declarationTree?, parsed]
    rfl
  have declares : Declaration.ofParts? .function function.parts = some function.declaration := rfl
  have accepted : Expand.refusesConst .function function.declaration = false := by
    rw [Expand.refusesConst, notConst, Bool.and_false]
  rw [Expand.expand, form]
  simp only [declares, accepted]
  rfl

/-- Instrumenting a function that has one more marker is instrumenting what it is expanded to. -/
theorem instrument_withAttribute {marker : Tree Token} (isMarker : kind.isMarker marker = true)
    (notConst : function.declaration.isConst = false) :
    Instrumentation.instrument kind .strip (function.withAttribute marker).tree =
      Instrumentation.instrument kind .strip (Expand.expandTree kind function.tree) := by
  have changes : Instrumentation.changesNode kind .function
      (function.withAttribute marker).parts = true :=
    function.isInstrumented_withAttribute kind isMarker notConst
  rw [expandTree_tree, ← function.instrumentParts_withAttribute kind isMarker, tree]
  exact (Instrumentation.instrument_instrumentParts kind changes).symm

/-- The further marker is one more outcome in front of those of what the function is expanded
to. -/
theorem outcomes_withAttribute {marker : Tree Token} (isMarker : kind.isMarker marker = true)
    (notConst : function.declaration.isConst = false) :
    ∃ count, Instrumentation.outcomes kind .strip none (function.withAttribute marker).tree =
      .instrumented function.declaration.name count ::
        Instrumentation.outcomes kind .strip none (Expand.expandTree kind function.tree) := by
  have instrumented := function.isInstrumented_withAttribute kind isMarker notConst
  rw [expandTree_tree, ← function.instrumentParts_withAttribute kind isMarker]
  exact ⟨_, Instrumentation.outcomes_of_isInstrumented kind none rfl instrumented⟩

end BodiedFunction

namespace Expand

/-- Let a function that is not evaluated early be read from tokens, and let one more marker be put
on it.  Then instrumenting the file that consists of it is the same as expanding that marker and
instrumenting the file that consists of the result: the files are equal, the same declarations are
skipped, and the function itself is reported first and by the first way only.  It makes no
difference which other attributes and markers the function carries and which tagged functions stand
inside it. -/
theorem instrument_withAttribute_eq_instrument_expand (kind : MarkerKind) {tokens : List Token}
    {function marker : Tree Token}
    (parsed : Grammar.parseTokens Grammar.function tokens = .ok function)
    (isMarker : kind.isMarker marker = true) :
    ∃ declaration, Declaration.ofTree? function = some declaration ∧
      (declaration.isConst = false → ∃ expanded, expand kind [] tokens = .ok expanded ∧
        let marked := (SourceFile.ofItem (function.withAttribute marker)).instrument kind .strip
        let rest := (SourceFile.ofItem expanded).instrument kind .strip
        marked.file = rest.file ∧ marked.skipped = rest.skipped ∧
          marked.instrumented = declaration.name :: rest.instrumented) := by
  obtain ⟨function, rfl⟩ := Grammar.exists_of_parseTokens_function parsed
  refine ⟨function.declaration, rfl, fun notConst => ?_⟩
  refine ⟨_, function.expand_of_parseTokens kind parsed notConst, ?_⟩
  rw [← function.tree_withAttribute]
  obtain ⟨count, outcomes⟩ := function.outcomes_withAttribute kind isMarker notConst
  have sameFile := function.instrument_withAttribute kind isMarker notConst
  intro marked rest
  have markedOutcomes : marked.outcomes =
      .instrumented function.declaration.name count :: rest.outcomes := by
    rw [SourceFile.outcomes_instrument_ofItem, SourceFile.outcomes_instrument_ofItem]
    exact outcomes
  refine ⟨?_, ?_, ?_⟩
  · rw [SourceFile.file_instrument_ofItem, SourceFile.file_instrument_ofItem]
    exact congrArg SourceFile.ofItem sameFile
  · rw [InstrumentedFile.skipped, markedOutcomes]
    rfl
  · rw [InstrumentedFile.instrumented, markedOutcomes]
    rfl

/-- The tokens of a function with a marker, a malformed one and one inside its body, where a tagged
function and one without a body are declared. -/
def nestedTokens : List Token :=
  let bracketed (hash content : List Lexeme) : List Lexeme :=
    hash ++ [.opening .bracket, .word "method_logger"] ++ content ++ [.closing .bracket]
  let marker := bracketed [.mark "#" false] []
  let malformed := bracketed [.mark "#" false]
    [.opening .parenthesis, .literal "1", .closing .parenthesis]
  let innerMarker := bracketed [.mark "#" true, .mark "!" false] []
  let signature (name : String) : List Lexeme :=
    [.word "fn", .word name, .opening .parenthesis, .closing .parenthesis]
  let braces (content : List Lexeme) : List Lexeme :=
    .opening .brace :: (content ++ [.closing .brace])
  let inside := innerMarker ++ marker ++ signature "inner" ++ braces [] ++
    .word "extern" :: braces (marker ++ signature "bodiless" ++ [.mark ";" false])
  (marker ++ malformed ++ .word "pub" :: signature "outer" ++ braces inside).map fun lexeme =>
    ⟨lexeme, 1⟩

/-- The function that is read from these tokens. -/
def nestedFunction : Tree Token :=
  (Grammar.parseTokens Grammar.function nestedTokens).toOption.getD .absent

/-- A marker behind the name of a crate. -/
def qualifiedMarker : Tree Token :=
  let leaf := Diagnostic.leaf
  .node .outerAttribute [leaf (.mark "#" false), leaf (.opening .bracket), .node .metaPath
    [.node .path [.absent, .sequence [.node .segment [leaf (.word "method_logger_macros"), .absent],
      leaf (.mark "::" false), .node .segment [leaf (.word "method_logger"), .absent]]]],
    leaf (.closing .bracket)]

theorem parseTokens_nestedTokens :
    Grammar.parseTokens Grammar.function nestedTokens = .ok nestedFunction := by
  have parses : (Grammar.parseTokens Grammar.function nestedTokens).isOk = true := by
    decide +kernel
  unfold nestedFunction
  cases parsed : Grammar.parseTokens Grammar.function nestedTokens with
  | ok function => rfl
  | error failure => rw [parsed] at parses; cases parses

/-- With one more marker the function itself is reported, and the two functions in its body are
reported whether it is expanded first or not. -/
theorem instrument_withAttribute_eq_instrument_expand_nested :
    ∃ expanded, expand .methodLogger [] nestedTokens = .ok expanded ∧
      let marked := (SourceFile.ofItem (nestedFunction.withAttribute qualifiedMarker)).instrument
        .methodLogger .strip
      let rest := (SourceFile.ofItem expanded).instrument .methodLogger .strip
      marked.file = rest.file ∧ marked.instrumented = ["outer", "inner"] ∧
        rest.instrumented = ["inner"] ∧ rest.skipped = ["bodiless"] := by
  have isMarker : MarkerKind.methodLogger.isMarker qualifiedMarker = true := by decide
  obtain ⟨declaration, declares, instruments⟩ :=
    instrument_withAttribute_eq_instrument_expand .methodLogger parseTokens_nestedTokens isMarker
  have read : (Declaration.ofTree? nestedFunction).map (fun found => (found.isConst, found.name)) =
      some (false, "outer") := by decide +kernel
  rw [declares] at read
  obtain ⟨notConst, name⟩ := Prod.mk.inj (Option.some.inj read)
  obtain ⟨expanded, expands, sameFile, _, instrumented⟩ := instruments notConst
  have left : (expand .methodLogger [] nestedTokens).toOption.map (fun tree =>
      let rest := (SourceFile.ofItem tree).instrument .methodLogger .strip
      (rest.instrumented, rest.skipped)) = some (["inner"], ["bodiless"]) := by decide +kernel
  rw [expands] at left
  obtain ⟨restInstrumented, restSkipped⟩ := Prod.mk.inj (Option.some.inj left)
  refine ⟨expanded, expands, sameFile, ?_, restInstrumented, restSkipped⟩
  exact instrumented.trans (congrArg₂ List.cons name restInstrumented)

end Expand
end Instrument
