import Instrument.Ignore.Glob
import Instrument.Text.Blank

/-!
# Rules that exclude files

A file of rules has one rule per line.  Of the rules that stand for a path the last one decides:
it excludes the path, or with an exclamation mark in front takes it in again.
-/

namespace Instrument
namespace Ignore

/-- What rules say about a path. -/
inductive Verdict where
  | excluded
  | included
deriving DecidableEq, Repr

/-- One line of a file of rules. -/
structure Rule where
  glob : Glob
  verdict : Verdict
  onlyDirectories : Bool

namespace Rule

/-- A line without the blanks at its end.  A blank with a backslash in front belongs to the
pattern. -/
def trimmed (line : List Char) : List Char :=
  if ['\\', ' '].isSuffixOf line then line
  else (line.reverse.dropWhile Text.isWhiteSpace).reverse

/-- The text of the pattern of a rule.  A pattern without a slash stands for names in every
directory, and one that ends in a slash and two stars for everything below a directory, but not for
the directory. -/
def globText (anchored : Bool) (body : List Char) : List Char :=
  let placed :=
    if anchored || body.contains '/' || body == ['*', '*'] then body else '*' :: '*' :: '/' :: body
  if ['/', '*', '*'].isSuffixOf placed then placed ++ ['/', '*'] else placed

/-- The rule in a line that is neither empty nor a comment. -/
def ofBody (verdict : Verdict) (anchored : Bool) (body : List Char) :
    Except Glob.Defect Rule :=
  let onlyDirectories := body.getLast? == some '/'
  let names :=
    if !onlyDirectories then body
    else if body.dropLast.getLast? == some '\\' then body.dropLast.dropLast
    else body.dropLast
  match Glob.ofText (String.ofList (globText anchored names)) with
  | .ok glob => .ok ⟨glob, verdict, onlyDirectories⟩
  | .error defect => .error defect

/-- The rule in a line that is neither empty nor a comment.  An exclamation mark takes paths in
again, and a slash in front binds the pattern to the directory of the rules. -/
def ofText : List Char → Except Glob.Defect Rule
  | '\\' :: '!' :: rest => ofBody .excluded false ('!' :: rest)
  | '\\' :: '#' :: rest => ofBody .excluded false ('#' :: rest)
  | '!' :: '/' :: rest => ofBody .included true rest
  | '!' :: rest => ofBody .included false rest
  | '/' :: rest => ofBody .excluded true rest
  | line => ofBody .excluded false line

/-- The rule in a line, if there is one. -/
def ofLine (line : List Char) : Except Glob.Defect (Option Rule) :=
  if line.head? == some '#' || (trimmed line).isEmpty then .ok none
  else match ofText (trimmed line) with
  | .ok rule => .ok (some rule)
  | .error defect => .error defect

/-- Whether the rule stands for a path. -/
def appliesTo (rule : Rule) (path : String) (isDirectory : Bool) : Bool :=
  (!rule.onlyDirectories || isDirectory) && rule.glob.matchesPath path

end Rule

/-- The rule that decides about a path is the last one that stands for it. -/
def decideBy (rules : List Rule) (path : String) (isDirectory : Bool) : Option Verdict :=
  (rules.reverse.find? fun rule => rule.appliesTo path isDirectory).map Rule.verdict

/-! ## Files of rules -/

/-- What is wrong with a line. -/
inductive LineFault where
  | defective (line : String) (defect : Glob.Defect)
  | notText
deriving DecidableEq, Repr

def LineFault.message : LineFault → String
  | defective line defect => "error parsing glob '" ++ line ++ "': " ++ defect.message
  | notText => "stream did not contain valid UTF-8"

/-- The rules of a file, and the faults with the numbers of their lines. -/
structure RuleFile where
  rules : List Rule
  faults : List (Nat × LineFault)

namespace RuleFile

def empty : RuleFile := ⟨[], []⟩

def splitLines : List UInt8 → List (List UInt8)
  | [] => []
  | byte :: rest =>
    if byte == 0x0a then [] :: splitLines rest
    else match splitLines rest with
      | line :: more => (byte :: line) :: more
      | [] => [[byte]]

/-- Read lines from a number on.  Nothing is read behind a line that is not text. -/
def readLines (number : Nat) : List (List UInt8) → RuleFile
  | [] => empty
  | bytes :: rest =>
    match String.fromUTF8? ⟨bytes.toArray⟩ with
    | none => ⟨[], [(number, .notText)]⟩
    | some text =>
      let line :=
        if number = 1 then text.toList.dropWhile (· == '\ufeff') else text.toList
      let further := readLines (number + 1) rest
      match Rule.ofLine line with
      | .ok (some rule) => { further with rules := rule :: further.rules }
      | .ok none => further
      | .error defect =>
        let written := String.ofList (Rule.trimmed line)
        { further with faults := (number, .defective written defect) :: further.faults }

def ofBytes (content : ByteArray) : RuleFile :=
  readLines 1 (splitLines content.data.toList)

/-- The faults of a file that are to be reported: a file that merely is not text is passed over. -/
def reports (file : RuleFile) (path : String) : List String :=
  match file.faults with
  | [(_, .notText)] => []
  | faults => faults.map fun (number, fault) =>
    path ++ ": line " ++ toString number ++ ": " ++ fault.message

end RuleFile
end Ignore
end Instrument
