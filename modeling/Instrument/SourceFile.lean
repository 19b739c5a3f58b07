import Instrument.Grammar.Parse
import Instrument.Token.Display

/-!
# Source files

A file may start with a line that tells the system which program to run it with.  The line is not
part of the language, but it belongs to the file and is written back with it.
-/

namespace Instrument

/-- A parsed file. -/
structure SourceFile where
  shebang : Option String
  tree : Tree Token
deriving DecidableEq, Repr, Inhabited

namespace SourceFile

open Lexer

/-- What is left behind blanks and comments. -/
def skipBlank : Nat → List Char → List Char
  | 0, characters => characters
  | _, [] => []
  | fuel + 1, first :: rest =>
    if Text.isBlank first then skipBlank fuel rest
    else match afterComment? (first :: rest) with
    | some behind => skipBlank fuel behind
    | none => first :: rest

/-- The line in front of the program text: it starts with `#!`, and is not the start of an
attribute. -/
def splitShebang (characters : List Char) : Option (List Char) × List Char :=
  match characters with
  | '#' :: '!' :: rest =>
    match skipBlank rest.length rest with
    | '[' :: _ => (none, characters)
    | _ => (some (characters.takeWhile (· != '\n')), characters.dropWhile (· != '\n'))
  | _ => (none, characters)

/-- Read a text as the program text of a file, without a line in front of it. -/
def parseProgram (text : String) : Except Failure SourceFile :=
  match Grammar.parseText Grammar.file text with
  | .ok tree => .ok ⟨none, tree⟩
  | .error failure => .error failure

/-- Read a text as a file: one byte order mark and the line that names a program are taken off
first. -/
def parse (text : String) : Except Failure SourceFile :=
  let (shebang, program) := splitShebang (withoutMark text.toList)
  match parseProgram (String.ofList program) with
  | .ok file => .ok ⟨shebang.map String.ofList, file.tree⟩
  | .error failure => .error failure

end SourceFile
end Instrument
