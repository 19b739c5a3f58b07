import Instrument.Toml.Number

/-!
# Documents of settings

A document is a sequence of lines: keys with values, headers of tables, comments and blanks.  What
is made of them is up to a construction.
-/

namespace Instrument
namespace Toml

open Instrument.Toml.Parser

/-- The number of levels that values may be nested in, and of parts that a key may have. -/
def deepest : Nat := 79

def simpleKey : Parser String := do
  let first ← peek
  if first == '"' then basicString
  else if first == '\'' then literalString
  else return String.ofList (← takeWhile 1 isBareCharacter)

/-- A key with dots between its parts. -/
def key : Parser (List String) :=
  meaning (label "key" (separated (char '.') do
    spaces
    let part ← simpleKey
    spaces
    return part)) fun parts =>
      if deepest < parts.length then .error .tooDeep else .ok parts

/-- A key as the path to a table and a last part. -/
def keyPath : Parser KeyPath := do
  match ← key with
  | first :: more => return .ofParts first more
  | [] => fail

def equals : Parser Unit := do
  let _ ← expecting ["`.`", "`=`"] (char '=')

/-- What is not a value is taken for a string without quotes. -/
def unquoted {α : Type} (parser : Parser α) : Parser α :=
  expecting ["`\"`", "`'`"] (label "string" parser)

def wordValue (word : String) (value : Scalar) : Parser Scalar :=
  unquoted do
    literal word
    return value

/-- A value without parts, which starts with the given character. -/
def scalarValue (first : Char) : Parser Scalar :=
  if first == '"' || first == '\'' then do
    return .string (← string)
  else if isSign first || isDigit first then number
  else if first == '_' then expecting ["leading digit"] integer
  else if first == '.' then expecting ["leading digit"] float
  else if first == 't' then final (wordValue "true" (.boolean true))
  else if first == 'f' then final (wordValue "false" (.boolean false))
  else if first == 'i' then wordValue "inf" (.float "inf")
  else if first == 'n' then wordValue "nan" (.float "nan")
  else unquoted fail

variable {α β γ : Type}

/-- An element of an array with the blanks around it. -/
def arrayElement (value : Parser α) : Parser α := do
  blankOrComments
  let element ← value
  blankOrComments
  return element

/-- What may stand behind the elements of an array. -/
def elementsEnd (isEmpty : Bool) : Parser Unit := do
  if !isEmpty then
    let _ ← optional (char ',')
  blankOrComments

def arrayElements (value : Parser α) : Parser (List α) := do
  if (← optional (ahead (char ']'))).isSome then return []
  else
    let elements ← separatedOrNone (char ',') (arrayElement value)
    elementsEnd elements.isEmpty
    return elements

/-- A key with its value in braces. -/
def inlinePair (value : Parser α) : Parser (KeyPath × α) := do
  let path ← keyPath
  final do
    equals
    spaces
    let item ← value
    spaces
    return (path, item)

/-- The keys and values of a table in braces. -/
def inlinePairs (value : Parser α) : Parser (List (KeyPath × α)) := do
  let pairs ← separatedOrNone (char ',') (inlinePair value)
  spaces
  return pairs

/-- Read what is inside brackets, unless it is nested too deeply. -/
def nested (inside : Option (Parser α)) (content : Parser α → Parser γ) : Parser γ :=
  match inside with
  | some value => content value
  | none => final (meaning (pure ()) fun _ => .error .tooDeep)

variable (construction : Construction α β)

/-- An array, in which other values are read as given. -/
def arrayWith (inside : Option (Parser α)) : Parser α := do
  let _ ← char '['
  let elements ← nested inside fun value => final (arrayElements value)
  let _ ← expecting ["`]`"] (label "array" (final (char ']')))
  return construction.array elements

/-- A table in braces, in which other values are read as given. -/
def inlineWith (inside : Option (Parser α)) : Parser α := do
  let _ ← char '\x7b'
  let table ← nested inside fun value => meaning (final (inlinePairs value)) construction.inline
  let _ ← expecting ["`\x7d`"] (label "inline table" (final (char '\x7d')))
  return table

/-- A value, in which other values are read as given. -/
def valueWith (inside : Option (Parser α)) : Parser α := do
  let first ← peek
  if first == '[' then arrayWith construction inside
  else if first == '\x7b' then inlineWith construction inside
  else return construction.scalar (← scalarValue first)

/-- A value that is nested in at most a number of levels. -/
def valueWithin : Nat → Parser α
  | 0 => valueWith construction none
  | levels + 1 => valueWith construction (some (valueWithin levels))

def value : Parser α :=
  valueWithin construction deepest

/-- What may follow on the line of a header or a value. -/
def restOfLine : Parser Unit :=
  expecting ["newline", "`#`"] lineTrailing

/-- A key with its value on a line. -/
def pairLine (built : β) : Parser β :=
  meaning (do
    let path ← keyPath
    final do
      equals
      spaces
      let item ← value construction
      restOfLine
      return (path, item)) fun (path, item) => construction.addPair built path item

def headerLine (opening closing : String) (start : List String → String → Except Conflict β) :
    Parser β :=
  meaning (do
    literal opening
    let path ← final key
    expecting ["`.`", "`" ++ closing ++ "`"] (final (literal closing))
    final restOfLine
    return path) fun path => start path (path.getLast?.getD "")

def header (built : β) : Parser β := label "table header" do
  match ← rest with
  | '[' :: '[' :: _ => headerLine "[[" "]]" (construction.openElement built)
  | _ :: _ :: _ => headerLine "[" "]" (construction.openTable built)
  | _ => fail

/-- A line that starts with the given character. -/
def lineStartingWith (first : Char) (built : β) : Parser β :=
  if first == '#' then final do
    comment
    lineEnding
    return built
  else if first == '[' then final (header construction built)
  else if first == '\n' || first == '\r' then do
    newline
    return built
  else final (pairLine construction built)

/-- A line, or as much of it as belongs together, and the blanks behind it. -/
def line (built : β) : Parser β := do
  let first ← peek
  let next ← lineStartingWith construction first built
  spaces
  return next

def document : Parser β := do
  let _ ← optional (char '\uFEFF')
  spaces
  let built ← repeating construction.empty (line construction)
  atEnd
  return built

end Toml
end Instrument
