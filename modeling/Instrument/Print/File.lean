import Instrument.Layout.Lines
import Instrument.Print.Attribute
import Instrument.Print.Item
import Instrument.Print.Pattern
import Instrument.SourceFile

/-!
# Printing files

The rules for the constructs are put together here: every kind belongs to one family of rules, and
a tree is printed by one recursion over its parts.  A tree that keeps tokens without structure where
a construct should stand cannot be printed; it parses, but there is nothing to lay out.
-/

namespace Instrument
namespace Print

open Layout

/-- The attribute, its arguments or its value. -/
def metaDocument (kind : Kind) (parts : List Printed) : Document :=
  match kind, parts with
  | .outerAttribute, [_, _, content, _] => attributeDocument outerComment "#" content
  | .innerAttribute, [_, _, _, content, _] => attributeDocument innerComment "#!" content
  | .metaPath, [path] => path.document .bare
  | .metaList, [path, opening, body, _] =>
    path.document .bare ++ attributeArguments (opened opening) body.trees
  | .metaValue, [path, _, value] => path.document .bare ++ .text " = " ++ value.plain
  | _, _ => .empty

/-- The document of a node of a kind with its parts, in a manner. -/
def nodeDocument (kind : Kind) (parts : List Printed) (manner : Manner) : Document :=
  match kind with
  | .absent | .verbatim | .block | .members | .namedFields | .tupleFields | .whereClause |
    .elseBranch | .initializer | .expressionStatement | .macroStatement => .empty
  | .sequence => .join (parts.map Printed.plain)
  | .file => .level (.join (parts.map Printed.plain))
  | .outerAttribute | .innerAttribute | .metaPath | .metaList | .metaValue =>
    metaDocument kind parts
  | .path | .qualifiedPath | .segment | .angleArguments | .parenthesizedArguments |
    .constArgument | .typeBinding | .constBinding | .boundBinding | .lifetime =>
    pathDocument kind parts manner
  | .invocation =>
    match parts with
    | [path, _, opening, body, _] =>
      invocationDocument path missing opening body (manner == .terminated)
    | _ => .empty
  | .arrayType | .functionType | .functionTypeParameter | .functionTypeVariadic | .implType |
    .inferredType | .macroType | .neverType | .parenthesizedType | .pathType | .pointerType |
    .referenceType | .sliceType | .objectType | .tupleType | .returnType | .abi =>
    typeDocument kind parts
  | .generics | .lifetimeParameter | .typeParameter | .constParameter | .lifetimePredicate |
    .typePredicate | .binder | .traitBound | .captureBound | .capturedName =>
    genericDocument kind parts
  | .signature => signatureDocument parts
  | .receiver | .parameter | .variadic => parameterDocument kind parts
  | .publicVisibility | .restrictedVisibility => visibilityDocument kind parts
  | .namePattern | .orPattern | .parenthesizedPattern | .referencePattern | .restPattern |
    .slicePattern | .structPattern | .tuplePattern | .tupleStructPattern | .typedPattern |
    .wildcardPattern | .fieldPattern => patternDocument kind parts
  | .await | .call | .fieldAccess | .index | .methodCall | .tryExpression =>
    chainDocument kind parts manner
  | .array | .assign | .binary | .breakExpression | .cast | .closure | .continueExpression |
    .inferred | .letExpression | .literal | .negativeNumber | .macroExpression | .parenthesized |
    .pathExpression | .range | .rawAddress | .reference | .repetition | .returnExpression |
    .structExpression | .tuple | .unary | .yieldExpression | .fieldValue | .label =>
    expressionDocument kind parts
  | .asyncBlock | .blockExpression | .constBlock | .forLoop | .ifExpression | .loopExpression |
    .matchExpression | .tryBlock | .unsafeBlock | .whileLoop | .arm | .guard | .letStatement =>
    blockDocument kind parts
  | .function | .implFunction | .traitFunction | .foreignFunction => functionDocument parts
  | .enumItem | .foreignModule | .implItem | .moduleItem | .structItem | .tupleStructItem |
    .traitItem | .traitAliasItem | .typeItem | .unionItem => declarationDocument kind parts
  | .variant | .implementedTrait | .field => partDocument kind parts
  | .usePath | .useName | .useRename | .useGlob | .useGroup => useDocument kind parts
  | .constItem | .externCrateItem | .macroItem | .staticItem | .useItem | .implConst |
    .implTypeMember | .traitConst | .traitTypeMember | .foreignStatic | .foreignType |
    .macroMember => memberDocument kind parts

/-- An expression that is not a chain has a box of its own at the start of a chain. -/
def inManner (kind : Kind) (parts : List Printed) (manner : Manner) : Document :=
  match manner with
  | .chained _ =>
    if isChain kind then nodeDocument kind parts manner
    else .outdented (nodeDocument kind parts .plain)
  | _ => nodeDocument kind parts manner

mutual

/-- A tree with the documents of all its nodes. -/
def printed : Tree Token → Printed
  | .leaf token => ⟨.leaf token, fun _ => .text token.text, []⟩
  | .node kind parts =>
    let printedParts := printedAll parts
    ⟨.node kind parts, inManner kind printedParts, printedParts⟩

/-- Parts with the documents of all their nodes. -/
def printedAll : List (Tree Token) → List Printed
  | [] => []
  | part :: rest => printed part :: printedAll rest

end

/-- A node keeps its own tokens as they are, so that tokens without structure may stand among its
parts. -/
def keepsTokens (kind : Kind) : Bool :=
  kind == .metaList || kind == .invocation || kind == .macroItem

/-- A definition of a macro by rules has the form of rules. -/
def hasGoodRules (kind : Kind) (parts : List (Tree Token)) : Bool :=
  match kind, parts with
  | .macroItem, [_, path, _, name, _, body, _, _] =>
    !definesByRules path name || areRules .start (TokenTree.ofTokens body.ownLeaves)
  | _, _ => true

/-- Tokens without structure stand where a construct should stand. -/
def isUnreadable : Tree Token → Bool
  | .node .verbatim parts => !parts.isEmpty
  | _ => false

mutual

/-- Everything in the tree has a form that can be laid out. -/
def canPrint : Tree Token → Bool
  | .leaf _ => true
  | .node kind parts =>
    hasGoodRules kind parts && (keepsTokens kind || parts.all fun part => !isUnreadable part) &&
      canPrintAll parts

/-- Everything in the parts has a form that can be laid out. -/
def canPrintAll : List (Tree Token) → Bool
  | [] => true
  | part :: rest => canPrint part && canPrintAll rest

end

end Print

namespace SourceFile

open Layout

/-- Everything in the file has a form that can be laid out. -/
def canPrint (file : SourceFile) : Bool :=
  Print.canPrint file.tree

def text (file : SourceFile) : String :=
  let heading := match file.shebang with
    | some line => .text line ++ .line
    | none => .empty
  (heading ++ (Print.printed file.tree).plain).render

end SourceFile
end Instrument
