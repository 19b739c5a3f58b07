/-!
# Kinds of nodes

A syntax tree has one shape of node for every construct of the language.  What a node means is told
by its kind, and the kind fixes how many parts the node has and what stands at which place; the
comment on each kind lists them.  A part that the source leaves out is there as an `absent` node,
so a place never shifts.

Parts are listed in the order in which an analysis visits them, which is mostly the order in which
they are written.  Where the two differ (`Tree.written` has the rule) it is because everything that
describes a construct is visited before what it contains: inner attributes together with outer ones,
and a `where` clause together with the generic parameters it constrains.

In the lists, `O` stands for the sequence of outer attributes, `I` for the sequence of inner
attributes, `V` for the visibility, and a literal token for itself.
-/

namespace Instrument

/-- The construct that a node of a syntax tree stands for. -/
inductive Kind where
  | absent -- An optional part that is not there.  No parts.
  | sequence -- Any number of nodes.  Leaves between them are separators.
  | verbatim -- Tokens that are kept as they are, without structure.
  | file -- A file: `I`, items.
  -- attributes
  | outerAttribute -- `#`, bracket, meta, bracket.
  | innerAttribute -- `#`, `!`, bracket, meta, bracket.
  | metaPath -- An attribute without arguments: path.
  | metaList -- An attribute with arguments in brackets: path, bracket, verbatim, bracket.
  | metaValue -- An attribute with a value: path, `=`, expression.
  -- paths
  | path -- Leading `::`, sequence of segments.
  -- A path that starts in a type: `<`, type, `as`, path, `>`, `::`, sequence of segments.
  | qualifiedPath
  | segment -- Name, arguments.
  | angleArguments -- `::`, `<`, sequence, `>`.
  | parenthesizedArguments -- Parenthesis, sequence of types, parenthesis, return type.
  | constArgument -- A constant between angle brackets: expression.
  | typeBinding -- `Item = Type`: name, arguments, `=`, type.
  | constBinding -- `N = 1`: name, arguments, `=`, expression.
  | boundBinding -- `Item: Bound`: name, arguments, `:`, bounds.
  | lifetime -- A lifetime as a node of its own: lifetime.
  -- macros
  | invocation -- An invocation: path, `!`, bracket, verbatim, bracket.
  -- types
  | arrayType -- `[T; N]`: bracket, type, `;`, expression, bracket.
  | functionType -- `for<..>`, `unsafe`, ABI, `fn`, parenthesis, sequence, parenthesis, return type.
  | functionTypeParameter -- A parameter of a function type: `O`, name, `:`, type.
  | functionTypeVariadic -- `O`, name, `:`, `...`.
  | implType -- `impl`, bounds.
  | inferredType -- `_`.
  | macroType -- Invocation.
  | neverType -- `!`.
  | parenthesizedType -- Parenthesis, type, parenthesis.
  | pathType -- Path or qualified path.
  | pointerType -- `*`, `const` or absent, `mut` or absent, type.
  | referenceType -- `&`, lifetime, `mut`, type.
  | sliceType -- Bracket, type, bracket.
  | objectType -- `dyn`, bounds.
  | tupleType -- Parenthesis, sequence, parenthesis.
  | returnType -- `->`, type.
  -- generics
  | generics -- `<`, sequence of parameters, `>`.
  | lifetimeParameter -- `O`, lifetime, `:`, bounds.
  | typeParameter -- `O`, name, `:`, bounds, `=`, type.
  | constParameter -- `O`, `const`, name, `:`, type, `=`, expression.
  | whereClause -- `where`, sequence of predicates.
  | lifetimePredicate -- Lifetime, `:`, bounds.
  | typePredicate -- `for<..>`, type, `:`, bounds.
  | binder -- `for`, `<`, sequence, `>`.
  | traitBound -- Parenthesis, `?`, `for<..>`, path, parenthesis.
  | captureBound -- `use`, `<`, sequence, `>`.
  | capturedName -- A captured name: name.
  -- signatures
  -- `const`, `async`, `unsafe`, ABI, `fn`, name, generics, where clause, parenthesis, sequence,
  -- parenthesis, return type.
  | signature
  | abi -- `extern`, literal.
  | receiver -- `O`, `&`, lifetime, `mut`, `self`, `:`, type.
  | parameter -- `O`, pattern, `:`, type.
  | variadic -- `O`, pattern, `:`, `...`.
  | publicVisibility -- `pub`.
  | restrictedVisibility -- `pub`, parenthesis, `in`, path, parenthesis.
  -- patterns
  | namePattern -- `O`, `ref`, `mut`, name, `@`, pattern.
  | orPattern -- `O`, `|`, sequence.
  | parenthesizedPattern -- `O`, parenthesis, pattern, parenthesis.
  | referencePattern -- `O`, `&`, `mut`, pattern.
  | restPattern -- `O`, `..`.
  | slicePattern -- `O`, bracket, sequence, bracket.
  | structPattern -- `O`, path, brace, sequence of fields, rest pattern, brace.
  | tuplePattern -- `O`, parenthesis, sequence, parenthesis.
  | tupleStructPattern -- `O`, path, parenthesis, sequence, parenthesis.
  | typedPattern -- `O`, pattern, `:`, type.
  | wildcardPattern -- `O`, `_`.
  | fieldPattern -- `O`, member, `:`, pattern.
  -- expressions
  | array -- `O`, bracket, sequence, bracket.
  | assign -- `O`, expression, `=`, expression.
  | asyncBlock -- `O`, `async`, `move`, block.
  | await -- `O`, expression, `.`, `await`.
  | binary -- `O`, expression, operator, expression.
  | blockExpression -- `O`, `I`, label, block.
  | breakExpression -- `O`, `break`, lifetime, expression.
  | call -- `O`, expression, parenthesis, sequence, parenthesis.
  | cast -- `O`, expression, `as`, type.
  -- `O`, `for<..>`, `const`, `static`, `async`, `move`, `|`, sequence, `|`, return type,
  -- expression.
  | closure
  | constBlock -- `O`, `I`, `const`, block.
  | continueExpression -- `O`, `continue`, lifetime.
  | fieldAccess -- `O`, expression, `.`, member.
  | forLoop -- `O`, `I`, label, `for`, pattern, `in`, expression, block.
  | ifExpression -- `O`, `if`, expression, block, else branch.
  | index -- `O`, expression, bracket, expression, bracket.
  | inferred -- `O`, `_`.
  | letExpression -- `O`, `let`, pattern, `=`, expression.
  | literal -- `O`, literal or negative number.
  | negativeNumber -- A negative number in a pattern or between angle brackets: `-`, literal.
  | loopExpression -- `O`, `I`, label, `loop`, block.
  | macroExpression -- `O`, invocation.
  | matchExpression -- `O`, `I`, `match`, expression, members (the arms).
  | methodCall -- `O`, expression, `.`, name, arguments, parenthesis, sequence, parenthesis.
  | parenthesized -- `O`, parenthesis, expression, parenthesis.
  | pathExpression -- `O`, path or qualified path.
  | range -- `O`, expression, limits, expression.
  | rawAddress -- `O`, `&`, `raw`, `const` or `mut`, expression.
  | reference -- `O`, `&`, `mut`, expression.
  | repetition -- `O`, bracket, expression, `;`, expression, bracket.
  | returnExpression -- `O`, `return`, expression.
  | structExpression -- `O`, path, brace, sequence of fields, `..`, expression, brace.
  | tryExpression -- `O`, expression, `?`.
  | tryBlock -- `O`, `try`, block.
  | tuple -- `O`, parenthesis, sequence, parenthesis.
  | unary -- `O`, operator, expression.
  | unsafeBlock -- `O`, `I`, `unsafe`, block.
  | whileLoop -- `O`, `I`, label, `while`, expression, block.
  | yieldExpression -- `O`, `yield`, expression.
  | fieldValue -- `O`, member, `:`, expression.
  | arm -- `O`, pattern, guard, `=>`, expression, `,`.
  | guard -- `if`, expression.
  | elseBranch -- `else`, expression.
  | label -- Lifetime, `:`.
  -- statements
  | block -- Brace, sequence of statements, brace.
  | letStatement -- `O`, `let`, pattern, initializer, `;`.
  | initializer -- `=`, expression, else branch.
  | expressionStatement -- Expression, `;`.
  | macroStatement -- `O`, invocation, `;`.
  -- declarations of functions: `O`, `I`, `V`, `default`, signature, block or `;`
  | function -- A function that is neither a member of an `impl`, `trait` or `extern` block.
  | implFunction -- A function in an `impl` block.
  | traitFunction -- A function in a trait.
  | foreignFunction -- A function in an `extern` block.
  -- items
  | members -- Brace, sequence, brace.
  | constItem -- `O`, `V`, `const`, name, `:`, type, `=`, expression, `;`.
  | enumItem -- `O`, `V`, `enum`, name, generics, where clause, brace, sequence, brace.
  | variant -- `O`, name, fields, `=`, expression.
  | externCrateItem -- `O`, `V`, `extern`, `crate`, name, `as`, name, `;`.
  | foreignModule -- `O`, `I`, `unsafe`, ABI, members.
  | implItem -- `O`, `I`, `default`, `unsafe`, `impl`, generics, where clause, trait, type, members.
  | implementedTrait -- The trait of an `impl` block: `!`, path, `for`.
  | macroItem -- `O`, path, `!`, name, bracket, verbatim, bracket, `;`.
  | moduleItem -- `O`, `I`, `V`, `unsafe`, `mod`, name, members or `;`.
  | staticItem -- `O`, `V`, `static`, `mut`, name, `:`, type, `=`, expression, `;`.
  | structItem -- `O`, `V`, `struct`, name, generics, where clause, fields, `;`.
  -- A struct whose fields have numbers: `O`, `V`, `struct`, name, generics, where clause, fields,
  -- `;`.
  | tupleStructItem
  | namedFields -- Brace, sequence, brace.
  | tupleFields -- Parenthesis, sequence, parenthesis.
  | field -- `O`, `V`, name, `:`, type.
  -- `O`, `I`, `V`, `unsafe`, `auto`, `trait`, name, generics, where clause, `:`, bounds, members.
  | traitItem
  | traitAliasItem -- `O`, `V`, `trait`, name, generics, where clause, `=`, bounds, `;`.
  | typeItem -- `O`, `V`, `type`, name, generics, where clause, `=`, type, `;`.
  | unionItem -- `O`, `V`, `union`, name, generics, where clause, fields.
  | useItem -- `O`, `V`, `use`, `::`, use tree, `;`.
  | usePath -- Name, `::`, use tree.
  | useName -- Name.
  | useRename -- Name, `as`, name.
  | useGlob -- `*`.
  | useGroup -- Brace, sequence, brace.
  -- members
  | implConst -- `O`, `V`, `default`, `const`, name, `:`, type, `=`, expression, `;`.
  | implTypeMember -- `O`, `V`, `default`, `type`, name, generics, where clause, `=`, type, `;`.
  | traitConst -- `O`, `const`, name, `:`, type, `=`, expression, `;`.
  | traitTypeMember -- `O`, `type`, name, generics, where clause, `:`, bounds, `=`, type, `;`.
  | foreignStatic -- `O`, `V`, `static`, `mut`, name, `:`, type, `;`.
  | foreignType -- `O`, `V`, `type`, name, generics, where clause, `;`.
  | macroMember -- `O`, invocation, `;`.
deriving DecidableEq, Repr, Inhabited

end Instrument
