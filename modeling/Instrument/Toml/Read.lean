import Instrument.Toml.Grammar

/-!
# Reading settings

A text that cannot be read is reported with the line where the failure was noticed and a mark under
the character.  Columns count characters, except at a character beyond the first 128, where they
count bytes.
-/

namespace Instrument
namespace Toml

/-- The place of a failure in a text. -/
structure Place where
  line : Nat
  column : Nat
  /-- The number of bytes of the character there. -/
  width : Nat
deriving DecidableEq, Repr

/-- The characters behind the last line end. -/
def lastLine (characters : List Char) : List Char :=
  (characters.reverse.takeWhile (· != '\n')).reverse

def lineEnds (characters : List Char) : Nat :=
  characters.count '\n'

/-- The place between two parts of a text.  The end of the text is behind its last character, even
if that ends a line. -/
def placeBetween (before after : List Char) : Place :=
  match after with
  | next :: _ =>
    let current := lastLine before
    let column := if next.toNat < 0x80 then current.length
      else (String.ofList current).utf8ByteSize
    ⟨lineEnds before, column, next.utf8Size⟩
  | [] => ⟨lineEnds before.dropLast,
      (lastLine before.dropLast).length + if before.isEmpty then 0 else 1, 0⟩

namespace Failure

def reason (failure : Failure) : String :=
  let parts := (failure.label.map fun name => "invalid " ++ name).toList ++
    (if failure.expected.isEmpty then []
    else ["expected " ++ ", ".intercalate failure.expected]) ++
    (failure.cause.map Conflict.message).toList
  "\n".intercalate parts

/-- The report of a failure to read a text. -/
def message (failure : Failure) (text : String) : String :=
  let characters := text.toList
  let place := placeBetween (characters.take (characters.length - failure.rest.length)) failure.rest
  let content := ((text.splitOn "\n")[place.line]?).getD ""
  let number := toString (place.line + 1)
  let gutter := "".pushn ' ' (number.length + 1) ++ "|"
  let carets := max 1 (min place.width content.utf8ByteSize)
  "TOML parse error at line " ++ number ++ ", column " ++ toString (place.column + 1) ++ "\n" ++
    gutter ++ "\n" ++
    number ++ " | " ++ content ++ "\n" ++
    gutter ++ "".pushn ' ' (place.column + 1) ++ "".pushn '^' carets ++ "\n" ++
    failure.reason ++ "\n"

end Failure

/-- Read a text as a table of settings. -/
def read (text : String) : Except Failure Entries :=
  match document Construction.tables text.toList with
  | .error failure => .error failure
  | .ok (builder, rest) =>
    match builder.close with
    | .ok entries => .ok entries
    | .error conflict => .error ⟨true, rest, none, [], some conflict⟩

end Toml
end Instrument
