import Instrument.Grammar.Source
import Instrument.Grammar.Failure

/-!
# Parsers

A parser reads a part of the source from a cursor on and builds a tree of citations, or fails.  The
cursor is confined to the innermost group that is being read: its end is the end of the input.

A group need not be read to its end.  The first one that was not is remembered in the cursor, and
makes the whole parse fail once everything else has succeeded.  A speculative reading that is
abandoned leaves no trace, because the cursor in front of it is used again.
-/

namespace Instrument

/-- A tree that cites its source. -/
abbrev Node := Tree Citation

/-- A place in the source. -/
structure Cursor where
  position : Nat
  /-- The position behind the last token of the group that is being read. -/
  limit : Nat
  /-- The first group that was left before its end, by its brackets. -/
  leftover : Option Delimiter
deriving DecidableEq, Repr

/-- A function from a place in a source to a result and the place behind it. -/
abbrev Parser (α : Type) := ReaderT Source (StateT Cursor (Except Failure)) α

namespace Parser

/-- The lexeme at a position, if the group reaches that far. -/
def lexemeIn (source : Source) (cursor : Cursor) (position : Nat) : Option Lexeme :=
  if position < cursor.limit then (source.tokens[position]?).map Token.lexeme else none

def behindTrees (source : Source) (position : Nat) : Nat → Nat
  | 0 => position
  | count + 1 => behindTrees source (source.ends.getD position (position + 1)) count

/-- Words that are reserved: none of them is a name. -/
def reservedWords : List String :=
  ["_", "abstract", "as", "async", "await", "become", "box", "break", "const", "continue",
    "crate", "do", "dyn", "else", "enum", "extern", "false", "final", "fn", "for", "if", "impl",
    "in", "let", "loop", "macro", "match", "mod", "move", "mut", "override", "priv", "pub", "ref",
    "return", "Self", "self", "static", "struct", "super", "trait", "true", "try", "type",
    "typeof", "unsafe", "unsized", "use", "virtual", "where", "while", "yield"]

/-- A text of punctuation stands at a position: every character but the last is joined to the
next. -/
def marksAt (source : Source) (cursor : Cursor) : Nat → List Char → Bool
  | _, [] => true
  | position, [last] =>
    match lexemeIn source cursor position with
    | some (.mark text _) => text == String.singleton last
    | _ => false
  | position, first :: rest =>
    match lexemeIn source cursor position with
    | some (.mark text true) =>
      text == String.singleton first && marksAt source cursor (position + 1) rest
    | _ => false

def stands (terminal : Terminal) (source : Source) (cursor : Cursor) (position : Nat) : Bool :=
  match terminal, lexemeIn source cursor position with
  | .keyword text, some (.word word) => word == text
  | .mark text, some (.mark _ _) => marksAt source cursor position text.toList
  | .identifier, some (.word word) => !reservedWords.contains word
  | .word, some (.word _) => true
  | .lifetime, some (.lifetime _) => true
  | .literal, some (.literal _) => true
  | .literal, some (.word word) => word == "true" || word == "false"
  | .literal, some (.mark text _) =>
    text == "-" && match lexemeIn source cursor (position + 1) with
      | some (.literal number) => Token.isNumber number.toList
      | _ => false
  | .stringLiteral, some (.literal text) => Token.isString text.toList
  | .integer, some (.literal text) => Token.isInteger text.toList
  | .float, some (.literal text) => Token.isFloat text.toList
  | .group delimiter, some (.opening opened) => opened == delimiter
  | _, _ => false

def peek (terminal : Terminal) : Parser Bool := do
  let cursor ← get
  return stands terminal (← read) cursor cursor.position

/-- The terminal stands behind some token trees. -/
def peekBehind (count : Nat) (terminal : Terminal) : Parser Bool := do
  let cursor ← get
  let source ← read
  return stands terminal source cursor (behindTrees source cursor.position count)

def peekWord (text : String) : Parser Bool := peek (.keyword text)

def peekMark (text : String) : Parser Bool := peek (.mark text)

def peekGroup (delimiter : Delimiter) : Parser Bool := peek (.group delimiter)

/-- One of the terminals stands at the cursor. -/
def peekAny (terminals : List Terminal) : Parser Bool := do
  let cursor ← get
  let source ← read
  return terminals.any fun terminal => stands terminal source cursor cursor.position

def atEnd : Parser Bool := do
  let cursor ← get
  return cursor.limit ≤ cursor.position

/-- Fail with a cause that tells whether the input ended. -/
def failHere {α : Type} (cause : Cause) : Parser α := do
  throw ⟨← atEnd, cause⟩

/-- Fail with a cause that stands for itself. -/
def refuse {α : Type} (reason : String) : Parser α :=
  throw ⟨false, .refused reason⟩

/-- Fail because none of the alternatives stands at the cursor.  One that does was refused by a
further condition and is not listed. -/
def failExpected {α : Type} (alternatives : List Terminal) : Parser α := do
  let cursor ← get
  let source ← read
  failHere (.expected (alternatives.filter fun terminal =>
    !stands terminal source cursor cursor.position))

/-- Move over some tokens and return the position of the first. -/
def advance (count : Nat) : Parser Nat := do
  let cursor ← get
  set { cursor with position := cursor.position + count }
  return cursor.position

/-- Read one token that is known to be there. -/
def take : Parser Node := do
  return .leaf (.read (← advance 1))

def word (text : String) : Parser Node := do
  if ← peekWord text then take else failHere (.expected [.keyword text])

/-- Read punctuation.  What is missing is named without looking at what is there instead. -/
def mark (text : String) : Parser Node := do
  if ← peekMark text then
    if text.length == 1 then take
    else return .leaf (.operator (← advance text.length) text.length)
  else throw ⟨false, .expected [.mark text]⟩

/-- Read a keyword if it is there. -/
def optionalWord (text : String) : Parser Node := do
  if ← peekWord text then take else return .absent

def optionalMark (text : String) : Parser Node := do
  if ← peekMark text then mark text else return .absent

def identifier : Parser Node := do
  let cursor ← get
  match lexemeIn (← read) cursor cursor.position with
  | some (.word text) =>
    if reservedWords.contains text then failHere (.reserved text) else take
  | _ => failHere (.expected [.identifier])

/-- Read a name, or any other word. -/
def anyWord : Parser Node := do
  if ← peek .word then take else failHere (.expected [.word])

def lifetime : Parser Node := do
  if ← peek .lifetime then take else failHere (.expected [.lifetime])

/-- Read a lifetime if it is there. -/
def optionalLifetime : Parser Node := do
  if ← peek .lifetime then take else return .absent

/-- A group that has been read: its brackets and what its content was read as. -/
structure Enclosed (α : Type) where
  opening : Node
  content : α
  closing : Node

/-- Read a group.  Its content is read with the end of the group as the end of the input. -/
def group {α : Type} (delimiter : Delimiter) (content : Parser α) : Parser (Enclosed α) := do
  if ← peekGroup delimiter then
    let outside ← get
    let behind := behindTrees (← read) outside.position 1
    set ({ outside with position := outside.position + 1, limit := behind - 1 } : Cursor)
    let value ← content
    let inside ← get
    let leftover := inside.leftover <|>
      if inside.position < inside.limit then some delimiter else none
    set (⟨behind, outside.limit, leftover⟩ : Cursor)
    return ⟨.leaf (.read outside.position), value, .leaf (.read (behind - 1))⟩
  else failHere (.expected [.group delimiter])

/-- The tokens between two positions, as they are. -/
def keptBetween (start stop : Nat) : List Node :=
  (List.range' start (stop - start)).map fun position => .leaf (.kept position)

/-- Everything that is left of the group, as it is. -/
def keepRest : Parser Node := do
  let cursor ← get
  set { cursor with position := cursor.limit }
  return .node .verbatim (keptBetween cursor.position cursor.limit)

/-- The tokens from a position to the cursor, as they are. -/
def keptSince (start : Nat) : Parser Node := do
  return .node .verbatim (keptBetween start (← get).position)

def here : Parser Nat := do
  return (← get).position

/-- The number of tokens that are left of the group. -/
def remaining : Parser Nat := do
  let cursor ← get
  return cursor.limit - cursor.position

/-- Read without moving, and tell whether it succeeds. -/
def succeeds {α : Type} (parser : Parser α) : Parser Bool := do
  let cursor ← get
  let success ← (do let _ ← parser; return true) <|> return false
  set cursor
  return success

/-- Read and stay where the reading started. -/
def lookAhead {α : Type} (parser : Parser α) : Parser α := do
  let cursor ← get
  let value ← parser
  set cursor
  return value

/-- Read, or stay where the reading started if it fails. -/
def attempt {α : Type} (parser : Parser α) : Parser (Option α) :=
  (do return some (← parser)) <|> return none

/-- Repeat a step on a value until the step has nothing more to do, or a number of times. -/
def iterate {α : Type} (step : α → Parser (Option α)) : Nat → α → Parser α
  | 0, value => return value
  | fuel + 1, value => do
    match ← step value with
    | some next => iterate step fuel next
    | none => return value

/-- Repeat a step at most once for each token that is left of the group, and once more. -/
def repeating {α : Type} (initial : α) (step : α → Parser (Option α)) : Parser α := do
  iterate step ((← remaining) + 1) initial

/-- Read elements as long as a condition holds in front of them. -/
def manyWhile (condition : Parser Bool) (element : Parser Node) : Parser (List Node) := do
  let found ← repeating [] fun found => do
    if ← condition then return some ((← element) :: found) else return none
  return found.reverse

/-- Read elements with separators between them and perhaps one behind the last, until the end that
a condition recognises. -/
def separatedUntil (ending : Parser Bool) (element separator : Parser Node) :
    Parser (List Node) := do
  let (found, _) ← repeating (([], true) : List Node × Bool) fun (found, elementNext) => do
    if ← ending then return none
    else if elementNext then return some ((← element) :: found, false)
    else return some ((← separator) :: found, true)
  return found.reverse

/-- Read elements as long as a separator follows, until the end that a condition recognises.  What
follows the last element without being a separator is not looked at. -/
def separatedWhile (ending : Parser Bool) (element : Parser Node) (separator : String) :
    Parser (List Node) := do
  let (found, _) ← repeating (([], true) : List Node × Bool) fun (found, elementNext) => do
    if elementNext then
      if ← ending then return none else return some ((← element) :: found, false)
    else if ← peekMark separator then return some ((← mark separator) :: found, true)
    else return none
  return found.reverse

/-- Read the rest of a group as elements with commas between them. -/
def commaSeparated (element : Parser Node) : Parser Node := do
  return .sequence (← separatedUntil atEnd element (mark ","))

end Parser

/-- What the rules of the grammar refer to by name.  Every detour of a rule to itself passes through
one of these. -/
inductive Symbol where
  /-- An expression.  Where a block has to follow, a brace does not open the fields of a struct. -/
  | expression (allowStruct : Bool)
  /-- An expression that ends early: behind a block that can stand as a statement. -/
  | leadingExpression
  | operand (allowStruct : Bool)
  /-- The rest of an expression behind its first operand, down to a strength of operators. -/
  | operators (left : Node) (allowStruct : Bool) (weakest : Nat)
  | blockExpression
  | statements
  /-- A type.  Bounds with a plus sign do not belong to it everywhere. -/
  | type (allowPlus : Bool)
  /-- A bound of a type.  The parameters tell whether it may name captured parameters, and whether
  it may be constant. -/
  | bound (allowCapture allowConst : Bool)
  | pattern
  | itemBehind (start : Nat) (attributes : List Node)
  /-- What a `use` imports.  `allowRoot` admits a path that starts with `::`. -/
  | useTree (allowRoot : Bool)

/-- An interpretation of the names that the rules refer to. -/
class Rules where
  parse : Symbol → Parser Node

end Instrument
