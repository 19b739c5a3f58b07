/-!
# Glob patterns

A pattern stands for paths with slashes between their names.  Patterns are matched against the bytes
of a path, so a question mark stands for one byte, and a class of characters for the bytes that
they are written with.
-/

namespace Instrument
namespace Ignore

/-- A piece of a pattern. -/
inductive Glob.Piece where
  | character (value : Char)
  | any
  | star
  /-- At the start of a pattern: any directories, or none. -/
  | leading
  /-- At the end of a pattern: anything below a directory. -/
  | trailing
  /-- In the middle of a pattern: any directories between two names, or none. -/
  | between
  | oneOf (negated : Bool) (ranges : List (Char × Char))
  | alternatives (branches : List (List Glob.Piece))
deriving Inhabited

/-- A pattern. -/
abbrev Glob := List Glob.Piece

namespace Glob

def slash : UInt8 := 0x2f

/-- Take the bytes of a character off, and let `next` decide about the rest. -/
def dropBytes (next : List UInt8 → Bool) : List UInt8 → List UInt8 → Bool
  | [], path => next path
  | byte :: bytes, first :: path => byte == first && dropBytes next bytes path
  | _ :: _, [] => false

/-- Whether `next` accepts a rest of the path in front of which there is no slash. -/
def acrossName (next : List UInt8 → Bool) : List UInt8 → Bool
  | [] => next []
  | first :: path => next (first :: path) || first != slash && acrossName next path

/-- Whether `next` accepts some rest of the path. -/
def acrossAll (next : List UInt8 → Bool) : List UInt8 → Bool
  | [] => next []
  | first :: path => next (first :: path) || acrossAll next path

/-- Whether `next` accepts the rest of the path behind one of its slashes. -/
def behindSlash (next : List UInt8 → Bool) : List UInt8 → Bool
  | [] => false
  | first :: path => first == slash && next path || behindSlash next path

/-- The ranges of bytes that a range of characters stands for.  The bytes of a longer character
count one by one; only the last of the lower and the first of the upper bound make a range. -/
def byteRanges (range : Char × Char) : List (UInt8 × UInt8) :=
  let lower := String.utf8EncodeChar range.1
  let upper := String.utf8EncodeChar range.2
  if range.1 = range.2 then lower.map fun byte => (byte, byte)
  else
    lower.dropLast.map (fun byte => (byte, byte)) ++
      (lower.getLast?.toList.zip upper.head?.toList) ++
      upper.tail.map fun byte => (byte, byte)

/-- Whether a byte lies in one of the ranges. -/
def inRanges (ranges : List (Char × Char)) (byte : UInt8) : Bool :=
  (ranges.flatMap byteRanges).any fun range => range.1 ≤ byte && byte ≤ range.2

mutual

/-- Whether a piece stands for some start of a path, and `next` accepts the rest. -/
def Piece.accepts : Piece → (List UInt8 → Bool) → List UInt8 → Bool
  | .character value, next, path => dropBytes next (String.utf8EncodeChar value) path
  | .any, next, path =>
    match path with
    | first :: rest => first != slash && next rest
    | [] => false
  | .star, next, path => acrossName next path
  | .leading, next, path => next path || behindSlash next path
  | .trailing, next, path =>
    match path with
    | first :: rest => first == slash && acrossAll next rest
    | [] => false
  | .between, next, path =>
    match path with
    | first :: rest => first == slash && (next rest || behindSlash next rest)
    | [] => false
  | .oneOf negated ranges, next, path =>
    match path with
    | first :: rest => inRanges ranges first != negated && next rest
    | [] => false
  | .alternatives branches, next, path =>
    if branches.all List.isEmpty then next path else acceptsSome branches next path

/-- Whether pieces one after the other stand for some start of a path, and `next` accepts the
rest. -/
def acceptsAll : List Piece → (List UInt8 → Bool) → List UInt8 → Bool
  | [], next, path => next path
  | piece :: rest, next, path => piece.accepts (acceptsAll rest next) path

/-- Whether one of the branches that are not empty stands for some start of a path, and `next`
accepts the rest. -/
def acceptsSome : List (List Piece) → (List UInt8 → Bool) → List UInt8 → Bool
  | [], _, _ => false
  | branch :: rest, next, path =>
    !branch.isEmpty && acceptsAll branch next path || acceptsSome rest next path

end

/-- Whether a pattern stands for a path. -/
def matchesPath (glob : Glob) (path : String) : Bool :=
  match glob with
  | [.leading] => true
  | _ => acceptsAll glob List.isEmpty path.toUTF8.data.toList

/-! ## Reading patterns -/

/-- Why a text is not a pattern. -/
inductive Defect where
  | backwardRange (lower upper : Char)
  | unopened
  | unclosed
  | danglingEscape
deriving DecidableEq, Repr

def Defect.message : Defect → String
  | backwardRange lower upper =>
    "invalid range; '" ++ lower.toString ++ "' > '" ++ upper.toString ++ "'"
  | unopened =>
    "unopened alternate group; missing '\x7b' (maybe escape '\x7d' with '[\x7d]'?)"
  | unclosed =>
    "unclosed alternate group; missing '\x7d' (maybe escape '\x7b' with '[\x7b]'?)"
  | danglingEscape => "dangling '\\'"

/-- A class in a pattern, as far as it could be read. -/
inductive ClassReading where
  | closed (ranges : List (Char × Char)) (rest : List Char)
  | unclosed
  | defective (defect : Defect)

/-- Read the members of a class, last member first.  A hyphen between two characters makes a range;
anywhere else it stands for itself, and so does a closing bracket in front. -/
def readClass (atStart inRange : Bool) (members : List (Char × Char)) :
    List Char → ClassReading
  | [] => .unclosed
  | first :: rest =>
    if first == ']' && !atStart then
      .closed (if inRange then ('-', '-') :: members else members).reverse rest
    else if inRange then
      match members with
      | (lower, _) :: earlier =>
        if first < lower then .defective (.backwardRange lower first)
        else readClass false false ((lower, first) :: earlier) rest
      | [] => readClass false false [(first, first)] rest
    else if first == '-' && !atStart then readClass false true members rest
    else readClass false false ((first, first) :: members) rest

/-- A group of alternatives that is not closed yet: what stands in front of it, and its finished
branches, all with the last piece first. -/
structure OpenGroup where
  before : List Piece
  finished : List (List Piece)

/-- What has been read of a pattern. -/
structure Reader where
  /-- The pieces of the current branch, the last one first. -/
  pieces : List Piece
  /-- The groups around the current branch, the innermost first. -/
  groups : List OpenGroup
  /-- Whether a bracket was found that opens no class; then none does. -/
  bracketsAreText : Bool

namespace Reader

/-- Add a piece to the current branch. -/
def push (reader : Reader) (piece : Piece) : Reader :=
  { reader with pieces := piece :: reader.pieces }

/-- Put a piece that stands for directories in the place of the slash in front of it.  One that
stands there already is kept. -/
def pushAcross (reader : Reader) (piece : Piece) : Reader :=
  match reader.pieces with
  | .leading :: _ | .trailing :: _ => reader
  | _ :: earlier => { reader with pieces := piece :: earlier }
  | [] => { reader with pieces := [piece] }

def openGroup (reader : Reader) : Reader :=
  { reader with pieces := [], groups := ⟨reader.pieces, []⟩ :: reader.groups }

/-- Finish a branch and start the next one.  Outside a group a comma stands for itself. -/
def nextBranch (reader : Reader) : Reader :=
  match reader.groups with
  | group :: outer =>
    { reader with
      pieces := [], groups := ⟨group.before, reader.pieces :: group.finished⟩ :: outer }
  | [] => reader.push (.character ',')

def closeGroup (reader : Reader) : Except Defect Reader :=
  match reader.groups with
  | group :: outer =>
    let branches := (reader.pieces :: group.finished).reverse.map List.reverse
    .ok { reader with pieces := .alternatives branches :: group.before, groups := outer }
  | [] => .error .unopened

def finish (reader : Reader) : Except Defect Glob :=
  if reader.groups.isEmpty then .ok reader.pieces.reverse else .error .unclosed

end Reader

/-- Two stars in a row, given the character in front of them and what follows.  They stand for
directories if they are alone between slashes. -/
def readStars (reader : Reader) (before : Option Char) (rest : List Char) :
    Reader × Option Char × List Char :=
  let plain := ((reader.push .star).push .star, some '*', rest)
  let inGroup := !reader.groups.isEmpty
  if reader.pieces.isEmpty then
    match rest with
    | [] => (reader.push .leading, some '*', [])
    | '/' :: behind => (reader.push .leading, some '/', behind)
    | _ => plain
  else if before == some '/' || inGroup && (before == some ',' || before == some '\x7b') then
    match rest with
    | [] => (reader.pushAcross .trailing, some '*', [])
    | '/' :: behind => (reader.pushAcross .between, some '/', behind)
    | next :: _ =>
      if inGroup && (next == ',' || next == '\x7d') then
        (reader.pushAcross .trailing, some '*', rest)
      else plain
  else plain

/-- Read characters of a pattern; each step takes at least one off, so as many steps as there are
characters suffice. -/
def readPieces : Nat → Reader → Option Char → List Char → Except Defect Reader
  | 0, reader, _, _ => .ok reader
  | _, reader, _, [] => .ok reader
  | steps + 1, reader, before, first :: rest =>
    let continued (next : Reader) := readPieces steps next (some first) rest
    match first with
    | '?' => continued (reader.push .any)
    | '*' =>
      match rest with
      | '*' :: behind =>
        let (next, last, left) := readStars reader before behind
        readPieces steps next last left
      | _ => continued (reader.push .star)
    | '[' =>
      if reader.bracketsAreText then continued (reader.push (.character '['))
      else
        let (negated, members) := match rest with
          | '!' :: members => (true, members)
          | '^' :: members => (true, members)
          | members => (false, members)
        match readClass true false [] members with
        | .closed ranges left => readPieces steps (reader.push (.oneOf negated ranges)) (some ']') left
        | .unclosed => continued { reader.push (.character '[') with bracketsAreText := true }
        | .defective defect => .error defect
    | '\x7b' => continued reader.openGroup
    | '\x7d' =>
      match reader.closeGroup with
      | .ok next => continued next
      | .error defect => .error defect
    | ',' => continued reader.nextBranch
    | '\\' =>
      match rest with
      | escaped :: left => readPieces steps (reader.push (.character escaped)) (some escaped) left
      | [] => .error .danglingEscape
    | other => continued (reader.push (.character other))

def ofText (text : String) : Except Defect Glob :=
  match readPieces text.length ⟨[], [], false⟩ none text.toList with
  | .ok reader => reader.finish
  | .error defect => .error defect

end Glob
end Ignore
end Instrument
