import Instrument.Layout.Document

/-!
# Laying out

A document is laid out in three passes over its pieces.  The first drops the gaps that have nothing
to separate.  The second goes backwards and finds out how much text has to fit behind each gap and
from each box on, up to the next gap at which the line could end instead.  The third writes lines.

A gap that is dropped still ends the stretch of text in front of it.
-/

namespace Instrument
namespace Layout

/-- The widest column that text is written in. -/
def margin : Int := 89

/-- The room that every line has, however far it is indented. -/
def leastRoom : Int := 60

/-- A document taken apart. -/
inductive Piece where
  | text (content : String)
  | gap (gap : Gap)
  /-- A gap that was dropped. -/
  | fence
  | opening (style : Style) (indent : Int)
  | closing (limit : Option Nat)
deriving DecidableEq, Repr, Inhabited

/-- Move the next line behind the last gap. -/
def shiftLast (columns : Int) : List Piece → List Piece
  | .gap gap :: earlier => .gap { gap with offset := gap.offset + columns } :: earlier
  | earlier => earlier

/-- Close a box.  One that holds nothing but a gap disappears, and an optional gap at its end is
dropped. -/
def closeBox (limit : Option Nat) : List Piece → List Piece
  | .gap _ :: .opening _ _ :: earlier => earlier
  | .gap gap :: earlier =>
    if gap.isOptional then .closing limit :: .fence :: earlier
    else .closing limit :: .gap gap :: earlier
  | earlier => .closing limit :: earlier

/-- The pieces of a document behind those that are given, the last piece first. -/
def piecesBehind (earlier : List Piece) : Document → List Piece
  | .empty => earlier
  | .text content => .text content :: earlier
  | .gap gap => .gap gap :: earlier
  | .shift columns => shiftLast columns earlier
  | .box style indent limit content =>
    closeBox limit (piecesBehind (.opening style indent :: earlier) content)
  | .append first second => piecesBehind (piecesBehind earlier first) second

/-- A box that is being measured, from its end on. -/
structure OpenBox where
  widthBehind : Nat
  limit : Option Nat
  /-- The width of all that follows the next gap in or behind the box. -/
  nextGap : Nat
deriving Repr

/-- The state of measuring: what was measured so far stands behind what is still to come. -/
structure Measured where
  width : Nat
  /-- The width of all that follows the next gap outside all boxes. -/
  nextGap : Nat
  boxes : List OpenBox
  /-- The pieces that follow.  Gaps and boxes come with the width that has to fit. -/
  pieces : List (Piece × Nat)

namespace Measured

/-- The width of all that follows the next gap. -/
def gapAhead (state : Measured) : Nat :=
  match state.boxes with
  | innermost :: _ => innermost.nextGap
  | [] => state.nextGap

/-- The width from here to the next gap. -/
def stretch (state : Measured) : Nat :=
  state.width - state.gapAhead

/-- A gap stands here. -/
def markGap (state : Measured) : Measured :=
  match state.boxes with
  | innermost :: outer => { state with boxes := { innermost with nextGap := state.width } :: outer }
  | [] => { state with nextGap := state.width }

/-- Widen the text by so much that a box around it does not fit. -/
def exceed (state : Measured) (closed : OpenBox) : Measured :=
  match closed.limit with
  | some limit =>
    if limit < state.width - closed.widthBehind then
      { state with width := state.width + unbounded }
    else state
  | none => state

def step (state : Measured) (piece : Piece) : Measured :=
  match piece with
  | .text content =>
    { state with
      width := state.width + content.utf8ByteSize
      pieces := (piece, 0) :: state.pieces }
  | .gap gap =>
    let here := { state with width := state.width + gap.blank }
    let marked := here.markGap
    { marked with pieces := (piece, here.stretch) :: state.pieces }
  | .fence => state.markGap
  | .closing limit =>
    { state with
      boxes := ⟨state.width, limit, state.gapAhead⟩ :: state.boxes
      pieces := (piece, 0) :: state.pieces }
  | .opening _ _ =>
    match state.boxes with
    | closed :: outer =>
      let outside := { state.exceed closed with boxes := outer }
      { outside with pieces := (piece, outside.stretch) :: state.pieces }
    | [] => { state with pieces := (piece, 0) :: state.pieces }

end Measured

/-- The pieces of a document with the widths that have to fit. -/
def measure (document : Document) : List (Piece × Nat) :=
  ((piecesBehind [] document).foldl Measured.step ⟨0, 0, [], []⟩).pieces

/-- How the gaps of an open box are written. -/
inductive Frame where
  | fits
  /-- It does not.  The indentation is the one to go back to behind the box. -/
  | broken (indent : Int) (style : Style)
deriving DecidableEq, Repr

/-- The state of writing. -/
structure Writer where
  written : String
  room : Int
  indent : Int
  /-- Spaces that are written once text follows them. -/
  pending : Nat
  frames : List Frame

namespace Writer

def start : Writer := ⟨"", margin, 0, 0, []⟩

/-- Write text behind the spaces that are due. -/
def put (writer : Writer) (content : String) : Writer :=
  { writer with
    written := writer.written ++ "".pushn ' ' writer.pending ++ content
    pending := 0
    room := writer.room - content.utf8ByteSize }

/-- The line goes on at a gap with something of the given width behind it. -/
def goesOn (writer : Writer) (gap : Gap) (width : Nat) : Bool :=
  gap.isFixed || match writer.frames with
  | .fits :: _ => true
  | .broken _ .consistent :: _ => false
  | _ => decide ((width : Int) ≤ writer.room)

def endLine (writer : Writer) (gap : Gap) : Writer :=
  let ended := if gap.before.isEmpty then writer else writer.put gap.before
  let indent := writer.indent + gap.offset
  let next := { ended with
    written := ended.written ++ "\n"
    pending := indent.toNat
    room := max (margin - indent) leastRoom }
  if gap.after.isEmpty then next else next.put gap.after

/-- Go on with the line at a gap. -/
def goOn (writer : Writer) (gap : Gap) : Writer :=
  { writer with
    written := writer.written ++ gap.joined
    pending := writer.pending + gap.blank
    room := writer.room - gap.blank - gap.joined.utf8ByteSize }

/-- Write a piece that comes with the width that has to fit. -/
def write (writer : Writer) : Piece × Nat → Writer
  | (.text content, _) => writer.put content
  | (.fence, _) => writer
  | (.gap gap, width) => if writer.goesOn gap width then writer.goOn gap else writer.endLine gap
  | (.opening style indent, width) =>
    if writer.room < width then
      { writer with
        frames := .broken writer.indent style :: writer.frames
        indent := writer.indent + indent }
    else { writer with frames := .fits :: writer.frames }
  | (.closing _, _) =>
    match writer.frames with
    | .broken indent _ :: outer => { writer with frames := outer, indent := indent }
    | _ => { writer with frames := writer.frames.tail }

end Writer

def Document.render (document : Document) : String :=
  ((measure document).foldl Writer.write .start).written

end Layout
end Instrument
