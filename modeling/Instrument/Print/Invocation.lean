import Instrument.Print.Path
import Instrument.Token.Group

/-!
# Printing the tokens of macro invocations

The arguments of an invocation have no structure beyond their groups.  Spaces are put between their
tokens by looking at two neighbours and a little of what came before, so that most arguments look
like the code they stand for.
-/

namespace Instrument
namespace Print

open Layout

/-- What the tokens before the next one were, as far as it matters for the space between. -/
inductive Context where
  | start
  | dollar
  | dollarCrate
  /-- A dollar sign and a name, where names are bound. -/
  | boundName
  | boundColon
  /-- A dollar sign and a group, which is followed by a separator or by an operator. -/
  | repeated
  | repeatedSeparator
  | hash
  | hashBang
  | dot
  | colon
  | doubleColon
  | name
  | nameBang
  /-- A group in parentheses or brackets behind which a dot stands directly. -/
  | group
  | other
deriving DecidableEq, Repr

/-- Words that are not names. -/
def spacedWords : List String :=
  ["as", "async", "await", "box", "break", "const", "continue", "dyn", "else", "enum", "extern",
    "fn", "for", "if", "impl", "in", "let", "loop", "macro", "match", "mod", "move", "mut", "pub",
    "ref", "return", "static", "struct", "trait", "type", "unsafe", "use", "where", "while",
    "yield"]

/-- A tree in parentheses or brackets. -/
def isTight : Delimiter → Bool
  | .brace => false
  | _ => true

/-- Whether a space stands in front of a tree, and the context behind it.  `binds` tells whether
the tokens are a matcher, in which names are bound. -/
def transition (binds : Bool) (context : Context) (tree : TokenTree) : Bool × Context :=
  match context, tree with
  | .dollar, .single (.word text) =>
    (false, if binds then .boundName else if text == "crate" then .dollarCrate else .other)
  | .boundName, .single (.mark ":" false) => (false, .boundColon)
  | .boundColon, .single (.word _) => (false, .other)
  | .repeated, .single (.mark "+" false) => (false, .other)
  | .repeated, .single (.mark "*" false) => (false, .other)
  | .repeated, .single (.mark "?" false) => (false, .other)
  | .repeated, .single (.word _) => (false, .repeatedSeparator)
  | .repeated, .single (.literal _) => (false, .repeatedSeparator)
  | .repeated, .single (.mark _ true) => (false, .repeated)
  | .repeated, .single (.mark _ false) => (false, .repeatedSeparator)
  | .repeatedSeparator, .single (.mark "+" _) => (false, .other)
  | .repeatedSeparator, .single (.mark "*" _) => (false, .other)
  | .hash, .single (.mark "!" _) => (false, .hashBang)
  | .dollar, .group .parenthesis _ => (false, .repeated)
  | .hash, .group .bracket _ => (false, .other)
  | .hashBang, .group .bracket _ => (false, .other)
  | .name, .single (.mark "!" false) => (false, .nameBang)
  | .colon, .single (.mark ":" _) => (false, .doubleColon)
  | context, .group delimiter _ =>
    if isTight delimiter then
      if context == .name then (false, .group)
      else if context == .nameBang then (false, .other)
      else (true, .group)
    else (true, .other)
  | context, .single (.word text) =>
    if spacedWords.contains text then (true, .other)
    else (context != .dot && context != .doubleColon, .name)
  | context, .single (.literal text) =>
    (context != .dot, if text.endsWith "." then .other else .name)
  | context, .single (.mark text isJoint) =>
    if text == "," || text == ";" then (false, .other)
    else if text == "." && !binds then (context != .name && context != .group, .dot)
    else if text == ":" && isJoint then (context != .name && context != .dollarCrate, .colon)
    else if text == "$" then (true, .dollar)
    else if text == "#" then (true, .hash)
    else (true, .other)
  | _, _ => (true, .other)

/-- No gap may stand behind a tree. -/
def joinsNext : TokenTree → Bool
  | .single (.mark text isJoint) => isJoint || text == "$"
  | _ => false

/-- The gap in front of a tree. -/
def gapBefore (needsSpace : Bool) (tree : TokenTree) : Document :=
  if needsSpace then .space
  else match tree with
  | .single (.mark "." _) => .cut
  | _ => .empty

mutual

def treeDocument (binds : Bool) : TokenTree → Document
  | .single lexeme => .text lexeme.text
  | .group delimiter content =>
    let inside := argumentDocument binds .start true content
    let spaced := if delimiter == .brace && !content.isEmpty then .space ++ inside ++ .space
      else inside
    .text delimiter.opening ++ spaced ++ .text delimiter.closing

/-- The document of a sequence of trees behind a context. -/
def argumentDocument (binds : Bool) (context : Context) (joins : Bool) : List TokenTree → Document
  | [] => .empty
  | tree :: rest =>
    let (needsSpace, next) := transition binds context tree
    (if joins then .empty else gapBefore needsSpace tree) ++ treeDocument binds tree ++
      argumentDocument binds next (joinsNext tree) rest

end

def arguments (binds : Bool) (trees : List TokenTree) : Document :=
  argumentDocument binds .start true trees

/-- Tokens with a gap in front and behind, indented if the gaps end lines. -/
def indentedArguments (gap : Document) (binds : Bool) (trees : List TokenTree) : Document :=
  if trees.isEmpty then .empty
  else .body (gap ++ .filled 0 (arguments binds trees) ++ gap ++ .outdent)

/-- The place inside a definition of a macro by rules. -/
inductive RulePlace where
  | start
  | behindMatcher
  | behindEquals
  | behindArrow
  | behindBody
deriving DecidableEq, Repr

/-- One tree of a definition by rules: the document and the place behind it, if it may stand at
this place. -/
def ruleStep (place : RulePlace) (tree : TokenTree) : Option (Document × RulePlace) :=
  match place, tree with
  | .start, .group delimiter content =>
    some (.text delimiter.opening ++
      indentedArguments .cut true content ++ .text delimiter.closing, .behindMatcher)
  | .behindMatcher, .single (.mark "=" true) => some (.text " =", .behindEquals)
  | .behindEquals, .single (.mark ">" false) => some (.text ">", .behindArrow)
  | .behindArrow, .group _ content =>
    some (.text " \x7b" ++ .glue ++ indentedArguments .line false content ++ .text "\x7d",
      .behindBody)
  | .behindBody, .single (.mark ";" false) => some (.text ";" ++ .line, .start)
  | _, _ => none

/-- The rules from a place on, as far as they are well formed. -/
def rulesFrom (place : RulePlace) : List TokenTree → Document
  | [] =>
    match place with
    | .start => .empty
    | .behindBody => .text ";" ++ .line
    | _ => .line
  | tree :: rest =>
    match ruleStep place tree with
    | some (document, next) => document ++ rulesFrom next rest
    | none => .empty

/-- Trees are rules from a place on. -/
def areRules (place : RulePlace) : List TokenTree → Bool
  | [] => true
  | tree :: rest =>
    match ruleStep place tree with
    | some (_, next) => areRules next rest
    | none => false

/-- A definition of a macro by rules. -/
def definitionDocument (name : Printed) (trees : List TokenTree) : Document :=
  .text "macro_rules! " ++ name.plain ++ .text " \x7b" ++
    .body (.optionalLine ++ rulesFrom .start trees ++ .outdent) ++ .text "\x7d"

/-- The tokens of a part that is kept as it is. -/
def Printed.trees (part : Printed) : List TokenTree :=
  TokenTree.ofTokens part.tree.ownLeaves

def opened (bracket : Printed) : Delimiter :=
  match bracket.tree with
  | .leaf ⟨.opening delimiter, _⟩ => delimiter
  | _ => .parenthesis

/-- An invocation with its arguments in brackets. -/
def invocationDocument (path name opening body : Printed) (isTerminated : Bool) : Document :=
  let delimiter := opened opening
  let isBrace := delimiter == .brace
  path.document .bare ++ .text "!" ++ name.whenPresent (.blank ++ name.plain) ++
    .text (if isBrace then " \x7b" else delimiter.opening) ++
    indentedArguments (if isBrace then .line else .cut) false body.trees ++
    .text delimiter.closing ++
    (if isTerminated && !isBrace then .text ";" else .empty)

/-- An invocation defines a macro by rules. -/
def definesByRules (path name : Tree Token) : Bool :=
  isName "macro_rules" path && name.isPresent

def macroItemDocument (outer path name opening body : Printed) : Document :=
  outer.plain ++
    (if definesByRules path.tree name.tree then definitionDocument name body.trees
    else invocationDocument path name opening body true) ++ .line

end Print
end Instrument
