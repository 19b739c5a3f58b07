import Instrument.Grammar.Function

/-!
# Items and members

An item is recognised by its first keywords behind attributes and a visibility.  Some forms are
accepted that no later stage gives a meaning to, such as a function without a body outside a trait;
of these only the tokens are kept, attributes included.
-/

namespace Instrument
namespace Grammar

open Instrument.Parser

variable [Rules]

/-- Words that can start the path of an invocation. -/
def invocationStart : List Terminal :=
  [.identifier, .keyword "self", .keyword "super", .keyword "crate", .mark "::"]

/-- The elements of a body up to its end. -/
def untilEnd (element : Parser Node) : Parser Node := do
  return .sequence (← manyWhile (do return !(← atEnd)) element)

/-- The members of an item with the attributes at their start. -/
def memberBody (element : Parser Node) : Parser (Node × Node) := do
  let found ← group .brace do
    let inner ← innerAttributes
    pure (inner, ← untilEnd element)
  let (inner, members) := found.content
  return (.sequence inner, .node .members [found.opening, members, found.closing])

def item : Parser Node := do
  let start ← here
  let attributes ← outerAttributes
  Rules.parse (.itemBehind start attributes)

def namedField : Parser Node := do
  let attributes ← outerAttributes
  let visible ← visibility
  let isUnnamed ← peekWord "_"
  let name ← if isUnnamed then take else identifier
  let colon ← mark ":"
  let start ← here
  let isAnonymous ← do
    if isUnnamed then
      pure ((← peekWord "struct") || ((← peekWord "union") && (← peekBehind 1 (.group .brace))))
    else pure false
  if isAnonymous then
    let _ ← take
    let _ ← group .brace keepRest
    return .node .field [.sequence attributes, visible, name, colon, ← keptSince start]
  else return .node .field [.sequence attributes, visible, name, colon, ← Rules.parse (.type true)]

/-- A field with a number. -/
def tupleField : Parser Node := do
  let attributes ← outerAttributes
  let visible ← visibility
  return .node .field [.sequence attributes, visible, .absent, .absent, ← Rules.parse (.type true)]

def namedFields : Parser Node := do
  let found ← group .brace (commaSeparated namedField)
  return .node .namedFields [found.opening, found.content, found.closing]

def tupleFields : Parser Node := do
  let found ← group .parenthesis (commaSeparated tupleField)
  return .node .tupleFields [found.opening, found.content, found.closing]

def structItem (attributes : Node) : Parser Node := do
  let visible ← visibility
  let keyword ← word "struct"
  let name ← identifier
  let parameterNames ← generics
  let hasConstraints ← peekWord "where"
  let constraints ← whereClause
  if !hasConstraints && (← peekGroup .parenthesis) then
    let fields ← tupleFields
    let hasConstraints ← peekWord "where"
    let constraints ← whereClause
    if ← peekMark ";" then
      return .node .tupleStructItem [attributes, visible, keyword, name, parameterNames,
        constraints, fields, ← mark ";"]
    else failExpected ((if hasConstraints then [] else [.keyword "where"]) ++ [.mark ";"])
  else if ← peekGroup .brace then
    return .node .structItem [attributes, visible, keyword, name, parameterNames, constraints,
      ← namedFields, .absent]
  else if ← peekMark ";" then
    return .node .structItem [attributes, visible, keyword, name, parameterNames, constraints,
      .absent, ← mark ";"]
  else
    failExpected ((if hasConstraints then [] else [.keyword "where", .group .parenthesis]) ++
      [.group .brace, .mark ";"])

/-- A variant of an enumeration.  A visibility in front of it is read and dropped. -/
def variant : Parser Node := do
  let attributes ← outerAttributes
  let _ ← visibility
  let name ← identifier
  let fields ←
    if ← peekGroup .brace then namedFields
    else if ← peekGroup .parenthesis then tupleFields
    else pure .absent
  if ← peekMark "=" then
    let equals ← mark "="
    return .node .variant
      [.sequence attributes, name, fields, equals, ← Rules.parse (.expression true)]
  else return .node .variant [.sequence attributes, name, fields, .absent, .absent]

def enumItem (attributes : Node) : Parser Node := do
  let visible ← visibility
  let keyword ← word "enum"
  let name ← identifier
  let parameterNames ← generics
  let constraints ← whereClause
  let found ← group .brace (commaSeparated variant)
  return .node .enumItem [attributes, visible, keyword, name, parameterNames, constraints,
    found.opening, found.content, found.closing]

def unionItem (attributes : Node) : Parser Node := do
  let visible ← visibility
  let keyword ← word "union"
  let name ← identifier
  let parameterNames ← generics
  let constraints ← whereClause
  return .node .unionItem [attributes, visible, keyword, name, parameterNames, constraints,
    ← namedFields]

/-- A name, or an underscore in its place. -/
def identifierOrUnderscore : Parser Node := do
  if ← peekWord "_" then take else identifier

def externCrateItem (attributes : Node) : Parser Node := do
  let visible ← visibility
  let keyword ← word "extern"
  let crate ← word "crate"
  let name ← if ← peekWord "self" then take else identifier
  let (as, renamed) ← do
    if ← peekWord "as" then
      let as ← take
      pure (as, ← identifierOrUnderscore)
    else pure (.absent, .absent)
  return .node .externCrateItem
    [attributes, visible, keyword, crate, name, as, renamed, ← mark ";"]

/-- A tree that contains a path from the root where none is admitted has no structure. -/
def keptUseTree : Node :=
  .node .verbatim []

/-- A name in a `use` and what stands behind it. -/
def usePathBehind (name : Node) : Parser Node := do
  if ← peekMark "::" then
    let separator ← mark "::"
    return .node .usePath [name, separator, ← Rules.parse (.useTree false)]
  else if ← peekWord "as" then
    let as ← take
    if ← peekAny [.identifier, .keyword "_"] then return .node .useRename [name, as, ← take]
    else failHere (.missing "identifier or underscore")
  else return .node .useName [name]

/-- A group in a `use`.  If one of its trees starts at the root, nothing of its structure is
kept. -/
def useGroup (allowRoot : Bool) : Parser Node := do
  let found ← group .brace do
    let (found, _, startsAtRoot) ← repeating (([], true, false) : List Node × Bool × Bool)
      fun (found, treeNext, startsAtRoot) => do
        if ← atEnd then return none
        else if treeNext then
          let root ← if allowRoot then optionalMark "::" else pure .absent
          let tree ← Rules.parse (.useTree (allowRoot && root.isAbsent))
          return some (tree :: found, false,
            startsAtRoot || root.isPresent || tree.isKind .verbatim)
        else return some ((← mark ",") :: found, true, startsAtRoot)
    pure (found.reverse, startsAtRoot)
  let (trees, startsAtRoot) := found.content
  if startsAtRoot then return keptUseTree
  else return .node .useGroup [found.opening, .sequence trees, found.closing]

def useTree (allowRoot : Bool) : Parser Node := do
  let names : List Terminal :=
    [.identifier, .keyword "self", .keyword "super", .keyword "crate", .keyword "try"]
  if ← peekAny names then usePathBehind (← take)
  else if ← peekMark "*" then return .node .useGlob [← take]
  else if ← peekGroup .brace then useGroup allowRoot
  else failExpected (names ++ [.mark "*", .group .brace])

def useItem (start : Nat) (attributes : Node) : Parser Node := do
  let visible ← visibility
  let keyword ← word "use"
  let leading ← optionalMark "::"
  let tree ← Rules.parse (.useTree leading.isAbsent)
  let semicolon ← mark ";"
  if tree.isKind .verbatim then keptSince start
  else return .node .useItem [attributes, visible, keyword, leading, tree, semicolon]

/-- A static.  One without a type or without a value keeps only its tokens. -/
def staticItem (start : Nat) (attributes : Node) : Parser Node := do
  let visible ← visibility
  let keyword ← word "static"
  let mutable ← optionalWord "mut"
  let name ← identifier
  if ← peekMark "=" then
    let _ ← mark "="
    let _ ← Rules.parse (.expression true)
    let _ ← mark ";"
    keptSince start
  else
    let colon ← mark ":"
    let type ← Rules.parse (.type true)
    if ← peekMark ";" then
      let _ ← mark ";"
      keptSince start
    else
      let equals ← mark "="
      let value ← Rules.parse (.expression true)
      return .node .staticItem [attributes, visible, keyword, mutable, name, colon, type, equals,
        value, ← mark ";"]

/-- The name, type and value of a constant behind its keyword. -/
structure ConstParts where
  name : Node
  colon : Node
  type : Node
  equals : Node
  value : Node
  semicolon : Node
  /-- It has generic parameters or a `where` clause, which constants do not have. -/
  isGeneric : Bool

def constBehind : Parser ConstParts := do
  let name ←
    if ← peekAny [.identifier, .keyword "_"] then take
    else failExpected [.identifier, .keyword "_"]
  let hasParameters ← peekMark "<"
  let _ ← generics
  let colon ← mark ":"
  let type ← Rules.parse (.type true)
  let equals ← optionalMark "="
  let value ← if equals.isPresent then Rules.parse (.expression true) else pure .absent
  let hasConstraints ← peekWord "where"
  let _ ← whereClause
  let semicolon ← mark ";"
  return ⟨name, colon, type, equals, value, semicolon, hasParameters || hasConstraints⟩

def constItem (start : Nat) (attributes : Node) : Parser Node := do
  let visible ← visibility
  let keyword ← word "const"
  let parts ← constBehind
  if parts.isGeneric || parts.equals.isAbsent then keptSince start
  else
    return .node .constItem [attributes, visible, keyword, parts.name, parts.colon, parts.type,
      parts.equals, parts.value, parts.semicolon]

/-- Where a `where` clause of a type may stand. -/
inductive WherePlace where
  | beforeEquals
  | behindEquals
  | anywhere
deriving DecidableEq

/-- A type behind its keyword, with all that may stand there. -/
structure TypeParts where
  name : Node
  parameterNames : Node
  constraints : Node
  colon : Node
  bounds : Node
  hasColon : Bool
  equals : Node
  type : Node
  semicolon : Node

def typeBehind (place : WherePlace) : Parser TypeParts := do
  let name ← identifier
  let parameterNames ← generics
  let hasColon ← peekMark ":"
  let (colon, found) ← colonBounds (do
    let ending := peekAny [.keyword "where", .mark "=", .mark ";"]
    return .sequence (← separatedUntil ending (bound false true) (mark "+")))
  let hasEarly ← do pure (place != .behindEquals && (← peekWord "where"))
  let early ← if place == .behindEquals then pure .absent else whereClause
  let equals ← optionalMark "="
  let type ← if equals.isPresent then Rules.parse (.type true) else pure .absent
  let late ← if place == .beforeEquals || hasEarly then pure .absent else whereClause
  let semicolon ← mark ";"
  return ⟨name, parameterNames, if early.isPresent then early else late, colon, found, hasColon,
    equals, type, semicolon⟩

def typeItem (start : Nat) (attributes : Node) : Parser Node := do
  let visible ← visibility
  let keyword ← word "type"
  let parts ← typeBehind .beforeEquals
  if parts.hasColon || parts.equals.isAbsent then keptSince start
  else
    return .node .typeItem [attributes, visible, keyword, parts.name, parts.parameterNames,
      parts.constraints, parts.equals, parts.type, parts.semicolon]

def moduleItem (attributes : Node) : Parser Node := do
  let visible ← visibility
  let safety ← optionalWord "unsafe"
  let keyword ← word "mod"
  let name ← if ← peekWord "try" then take else identifier
  if ← peekMark ";" then
    return .node .moduleItem
      [attributes, .sequence [], visible, safety, keyword, name, ← mark ";"]
  else if ← peekGroup .brace then
    let (inner, members) ← memberBody item
    return .node .moduleItem [attributes, inner, visible, safety, keyword, name, members]
  else failExpected [.mark ";", .group .brace]

/-- A definition of a macro by its parameters, of which only the tokens are kept. -/
def macroDefinition (start : Nat) : Parser Node := do
  let _ ← visibility
  let _ ← word "macro"
  let _ ← identifier
  let hasParameters ← peekGroup .parenthesis
  if hasParameters then
    let _ ← group .parenthesis keepRest
  if ← peekGroup .brace then
    let _ ← group .brace keepRest
    keptSince start
  else failExpected ((if hasParameters then [] else [.group .parenthesis]) ++ [.group .brace])

/-- The semicolon behind an invocation, which one in braces does not need. -/
def invocationEnd (opening : Node) : Parser Node := do
  if opensBrace (← read) opening then return .absent else mark ";"

def macroItem (attributes : Node) : Parser Node := do
  let path ← plainPath
  let bang ← mark "!"
  let name ←
    if ← peekAny [.identifier, .keyword "try"] then take else pure .absent
  let arguments ← bracketed
  return .node .macroItem [attributes, path, bang, name, arguments.opening, arguments.content,
    arguments.closing, ← invocationEnd arguments.opening]

def macroMember (attributes : Node) : Parser Node := do
  let path ← plainPath
  let bang ← mark "!"
  let arguments ← bracketed
  let invocation : Node := .node .invocation
    [path, bang, arguments.opening, arguments.content, arguments.closing]
  return .node .macroMember [attributes, invocation, ← invocationEnd arguments.opening]

def foreignMember : Parser Node := do
  let start ← here
  let outer ← outerAttributes
  let attributes : Node := .sequence outer
  let before ← get
  let visible ← visibility
  if ← peekSignature true then
    let (declared, isSafe) ← signatureOrSafe true
    if ← peekGroup .brace then
      let _ ← body
      keptSince start
    else
      let semicolon ← mark ";"
      if isSafe then keptSince start
      else
        return .node .foreignFunction
          [attributes, .sequence [], visible, .absent, declared, semicolon]
  else if (← peekWord "static") || (((← peekWord "unsafe") || (← peekWord "safe")) &&
      (← peekBehind 1 (.keyword "static"))) then
    let isQualified ← do pure (!(← peekWord "static"))
    if isQualified then
      let _ ← take
    let keyword ← word "static"
    let mutable ← optionalWord "mut"
    let name ← identifier
    let colon ← mark ":"
    let type ← Rules.parse (.type true)
    let hasValue ← peekMark "="
    if hasValue then
      let _ ← mark "="
      let _ ← Rules.parse (.expression true)
    let semicolon ← mark ";"
    if isQualified || hasValue then keptSince start
    else
      return .node .foreignStatic
        [attributes, visible, keyword, mutable, name, colon, type, semicolon]
  else if ← peekWord "type" then
    let keyword ← take
    let parts ← typeBehind .anywhere
    if parts.hasColon || parts.equals.isPresent then keptSince start
    else
      return .node .foreignType [attributes, visible, keyword, parts.name, parts.parameterNames,
        parts.constraints, parts.semicolon]
  else if visible.isAbsent && (← peekAny invocationStart) then
    set before
    macroMember attributes
  else
    failExpected ([.keyword "fn", .keyword "static", .keyword "type"] ++
      if visible.isAbsent then invocationStart else [])

def foreignModule (attributes : Node) : Parser Node := do
  let safety ← optionalWord "unsafe"
  let keyword ← word "extern"
  let name ← if ← peek .stringLiteral then take else pure .absent
  let (inner, members) ← memberBody foreignMember
  return .node .foreignModule
    [attributes, inner, safety, .node .abi [keyword, name], members]

def traitMember : Parser Node := do
  let start ← here
  let outer ← outerAttributes
  let attributes : Node := .sequence outer
  let visible ← visibility
  let mode ← optionalWord "default"
  let isPlain := visible.isAbsent && mode.isAbsent
  let isConstant ← do
    if (← peekSignature false) then pure false else peekWord "const"
  let found ←
    if ← peekSignature false then
      pure (addAttributes outer (← traitFunction))
    else if isConstant then
      let keyword ← take
      if ← peekAny [.identifier, .keyword "_"] then
        let parts ← constBehind
        if parts.isGeneric then keptSince start
        else
          pure (.node .traitConst [attributes, keyword, parts.name, parts.colon, parts.type,
            parts.equals, parts.value, parts.semicolon])
      else
        failExpected [.identifier, .keyword "_", .keyword "async", .keyword "unsafe",
          .keyword "extern", .keyword "fn"]
    else if ← peekWord "type" then
      let keyword ← take
      let parts ← typeBehind .behindEquals
      pure (.node .traitTypeMember [attributes, keyword, parts.name, parts.parameterNames,
        parts.constraints, parts.colon, parts.bounds, parts.equals, parts.type, parts.semicolon])
    else if isPlain && (← peekAny invocationStart) then macroMember attributes
    else
      failExpected ([.keyword "fn", .keyword "const", .keyword "type"] ++
        if isPlain then invocationStart else [])
  if isPlain then return found else keptSince start

/-- The bounds of a trait, up to its `where` clause or its end. -/
def superBounds (ending : Terminal) : Parser Node := do
  return .sequence (← separatedUntil (peekAny [.keyword "where", ending]) (bound false true)
    (mark "+"))

/-- A trait behind its name and parameters. -/
def traitBehind (attributes visible safety auto keyword name parameterNames : Node) :
    Parser Node := do
  let (colon, found) ← colonBounds (superBounds (.group .brace))
  let constraints ← whereClause
  let (inner, members) ← memberBody traitMember
  return .node .traitItem [attributes, inner, visible, safety, auto, keyword, name,
    parameterNames, constraints, colon, found, members]

/-- A trait that starts with a qualifier. -/
def qualifiedTrait (attributes : Node) : Parser Node := do
  let visible ← visibility
  let safety ← optionalWord "unsafe"
  let auto ← optionalWord "auto"
  let keyword ← word "trait"
  let name ← identifier
  let parameterNames ← generics
  traitBehind attributes visible safety auto keyword name parameterNames

/-- A trait, or a name for several traits. -/
def traitOrAlias (attributes : Node) : Parser Node := do
  let visible ← visibility
  let keyword ← word "trait"
  let name ← identifier
  let parameterNames ← generics
  if (← peekAny [.group .brace, .mark ":", .keyword "where"]) then
    traitBehind attributes visible .absent .absent keyword name parameterNames
  else if ← peekMark "=" then
    let equals ← mark "="
    let found ← superBounds (.mark ";")
    let constraints ← whereClause
    return .node .traitAliasItem [attributes, visible, keyword, name, parameterNames, constraints,
      equals, found, ← mark ";"]
  else failExpected [.group .brace, .mark ":", .keyword "where", .mark "="]

def implMember : Parser Node := do
  let start ← here
  let outer ← outerAttributes
  let attributes : Node := .sequence outer
  let before ← get
  let visible ← visibility
  let hasMode ← do pure ((← peekWord "default") && !(← peekBehind 1 (.mark "!")))
  let mode ← if hasMode then take else pure .absent
  if ← peekSignature false then
    let declared ← signature
    if ← peekMark ";" then
      let _ ← mark ";"
      keptSince start
    else functionBehind .implFunction outer visible mode declared
  else if ← peekWord "const" then
    let keyword ← take
    let parts ← constBehind
    if parts.isGeneric || parts.equals.isAbsent then keptSince start
    else
      return .node .implConst [attributes, visible, mode, keyword, parts.name, parts.colon,
        parts.type, parts.equals, parts.value, parts.semicolon]
  else if ← peekWord "type" then
    let keyword ← take
    let parts ← typeBehind .behindEquals
    if parts.hasColon || parts.equals.isAbsent then keptSince start
    else
      return .node .implTypeMember [attributes, visible, mode, keyword, parts.name,
        parts.parameterNames, parts.constraints, parts.equals, parts.type, parts.semicolon]
  else if visible.isAbsent && mode.isAbsent && (← peekAny invocationStart) then
    set before
    macroMember attributes
  else
    failExpected ((if hasMode then [] else [.keyword "default"]) ++
      [.keyword "fn", .keyword "const", .keyword "type"] ++
      if visible.isAbsent && !hasMode then invocationStart else [])

/-- What an `impl` block is for: the trait, if there is one, and the type.  A trait that is not a
path leaves nothing but the tokens of the block. -/
structure ImplHead where
  implemented : Node
  type : Node
  isKept : Bool

/-- The trait and the type of an `impl` block. -/
def implHead : Parser ImplHead := do
  let start ← here
  let polarity ← do
    if (← peekMark "!") && !(← peekBehind 1 (.group .brace)) then take else pure .absent
  let first ← Rules.parse (.type true)
  if ← peekWord "for" then
    let keyword ← take
    let type ← Rules.parse (.type true)
    match first with
    | .node .pathType [.node .path parts] =>
      return ⟨.node .implementedTrait [polarity, .node .path parts, keyword], type, false⟩
    | _ => return ⟨.absent, type, true⟩
  else if polarity.isPresent then return ⟨.absent, ← keptSince start, false⟩
  else return ⟨.absent, first, false⟩

def implItem (start : Nat) (attributes : Node) : Parser Node := do
  let visible ← visibility
  let mode ← optionalWord "default"
  let safety ← optionalWord "unsafe"
  let keyword ← word "impl"
  let parameterNames ← if ← peekParameters 0 then generics else pure .absent
  let isConstant ← do
    pure ((← peekWord "const") || ((← peekMark "?") && (← peekBehind 1 (.keyword "const"))))
  if isConstant then
    let _ ← optionalMark "?"
    let _ ← word "const"
  let head ← implHead
  let constraints ← whereClause
  let (inner, members) ← memberBody implMember
  if visible.isPresent || isConstant || head.isKept then keptSince start
  else
    return .node .implItem [attributes, inner, mode, safety, keyword, parameterNames, constraints,
      head.implemented, head.type, members]

/-- A function that is not a member.  One without a body keeps only its tokens. -/
def functionItem (start : Nat) (attributes : List Node) : Parser Node := do
  let visible ← visibility
  let declared ← signature
  if ← peekMark ";" then
    let _ ← mark ";"
    keptSince start
  else functionBehind .function attributes visible .absent declared

/-- What an item is, told by its first keywords. -/
inductive ItemForm where
  | function
  | externCrate
  | foreignModule
  | use
  | static
  | const
  | qualifiedTrait
  | impl
  | module
  | type
  | struct
  | enum
  | union
  | trait
  | macroDefinition
  | invocation

/-- What follows `extern` where it does not start a function. -/
def externForm : Parser ItemForm := do
  let _ ← take
  if ← peekWord "crate" then return .externCrate
  else if ← peekGroup .brace then return .foreignModule
  else if ← peek .stringLiteral then
    let _ ← take
    if ← peekGroup .brace then return .foreignModule else failExpected [.group .brace]
  else failExpected [.keyword "crate", .group .brace, .stringLiteral]

/-- What follows `unsafe` where it does not start a function. -/
def unsafeForm : Parser ItemForm := do
  let _ ← take
  if ← peekWord "trait" then return .qualifiedTrait
  else if (← peekWord "auto") && (← peekBehind 1 (.keyword "trait")) then return .qualifiedTrait
  else if ← peekWord "impl" then return .impl
  else if ← peekWord "extern" then return .foreignModule
  else if ← peekWord "mod" then return .module
  else
    failExpected [.keyword "trait", .keyword "auto", .keyword "impl", .keyword "extern",
      .keyword "mod"]

/-- The form of the item at the cursor, behind its attributes. -/
def itemForm : Parser ItemForm := lookAhead do
  let visible ← visibility
  if ← peekSignature false then return .function
  else if ← peekWord "extern" then externForm
  else if ← peekWord "use" then return .use
  else if ← peekWord "static" then return .static
  else if ← peekWord "const" then return .const
  else if ← peekWord "unsafe" then unsafeForm
  else if ← peekWord "mod" then return .module
  else if ← peekWord "type" then return .type
  else if ← peekWord "struct" then return .struct
  else if ← peekWord "enum" then return .enum
  else if (← peekWord "union") && (← peekBehind 1 .identifier) then return .union
  else if ← peekWord "trait" then return .trait
  else if (← peekWord "auto") && (← peekBehind 1 (.keyword "trait")) then return .qualifiedTrait
  else if ← peekWord "impl" then return .impl
  else if (← peekWord "default") && !(← peekBehind 1 (.mark "!")) then return .impl
  else if ← peekWord "macro" then return .macroDefinition
  else if visible.isAbsent && (← peekAny invocationStart) then return .invocation
  else
    failExpected ([.keyword "fn", .keyword "extern", .keyword "use", .keyword "static",
      .keyword "const", .keyword "unsafe", .keyword "mod", .keyword "type", .keyword "struct",
      .keyword "enum", .keyword "union", .keyword "trait", .keyword "auto", .keyword "impl",
      .keyword "default", .keyword "macro"] ++
      if visible.isAbsent then invocationStart else [])

/-- The rest of an item behind its attributes, which start at a position. -/
def itemBehind (start : Nat) (attributes : List Node) : Parser Node := do
  let outer : Node := .sequence attributes
  match ← itemForm with
  | .function => functionItem start attributes
  | .externCrate => externCrateItem outer
  | .foreignModule => foreignModule outer
  | .use => useItem start outer
  | .static => staticItem start outer
  | .const => constItem start outer
  | .qualifiedTrait => qualifiedTrait outer
  | .impl => implItem start outer
  | .module => moduleItem outer
  | .type => typeItem start outer
  | .struct => structItem outer
  | .enum => enumItem outer
  | .union => unionItem outer
  | .trait => traitOrAlias outer
  | .macroDefinition => macroDefinition start
  | .invocation => macroItem outer

/-- A file: attributes of the file, and items. -/
def file : Parser Node := do
  let inner ← innerAttributes
  return .node .file [.sequence inner, ← untilEnd item]

end Grammar
end Instrument
