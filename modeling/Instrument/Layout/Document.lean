/-!
# Documents to be laid out

A document is text in which some places are marked as gaps.  A gap is either blank or the end of a
line, and which of the two it becomes is decided for boxes: a box that fits on the rest of the line
keeps all its gaps blank.  In a consistent box that does not fit every gap ends a line, in an
inconsistent one only those behind which the next piece would not fit.

Nothing in a document depends on the width of the line, so a document is also the list of the texts
in it.
-/

namespace Instrument
namespace Layout

/-- The gaps of a box that does not fit on a line. -/
inductive Style where
  /-- All of them end a line. -/
  | consistent
  /-- Only those end a line that have to. -/
  | inconsistent
deriving DecidableEq, Repr, Inhabited

/-- The width of what never fits on a line. -/
def unbounded : Nat := 65535

/-- A place where a line may end.  If the line goes on, there are `blank` spaces and what is `joined`.
If it ends, `before` stands in front of the end and `after` at the start of the next line, which
starts `offset` columns from the indentation of the box.  An optional gap is dropped if it is the last
thing in its box. -/
structure Gap where
  blank : Nat := 0
  offset : Int := 0
  joined : String := ""
  before : String := ""
  after : String := ""
  isOptional : Bool := false
  isFixed : Bool := false
deriving DecidableEq, Repr, Inhabited

/-- Text with gaps and boxes. -/
inductive Document where
  | empty
  | text (content : String)
  | gap (gap : Gap)
  /-- A box whose lines are indented further by a number of columns, to the left if it is
  negative.  One that is wider than its limit does not fit anywhere. -/
  | box (style : Style) (indent : Int) (limit : Option Nat) (content : Document)
  | shift (columns : Int)
  | append (first second : Document)
deriving Repr, Inhabited

namespace Document

instance : Append Document := ⟨append⟩

def join : List Document → Document
  | [] => empty
  | first :: rest => first ++ join rest

/-- Every element with the knowledge whether it is the last. -/
def eachLast {α : Type} (render : α → Bool → Document) : List α → Document
  | [] => empty
  | [last] => render last true
  | first :: rest => render first false ++ eachLast render rest

def separated (separator : Document) : List Document → Document
  | [] => empty
  | [last] => last
  | first :: rest => first ++ separator ++ separated separator rest

/-- The number of columns that a body is indented by. -/
def step : Nat := 4

/-- A consistent box whose lines keep the indentation around it. -/
def level (content : Document) : Document :=
  box .consistent 0 none content

/-- A consistent box whose lines are indented. -/
def body (content : Document) : Document :=
  box .consistent step none content

/-- A consistent box whose lines are indented less than those around it. -/
def outdented (content : Document) : Document :=
  box .consistent (-step) none content

/-- An inconsistent box whose lines are indented by a number of columns. -/
def filled (indent : Int) (content : Document) : Document :=
  box .inconsistent indent none content

/-- A space where no line ends. -/
def blank : Document := text " "

/-- A gap that leaves no space. -/
def cut : Document := gap {}

/-- A gap that leaves a space. -/
def space : Document := gap { blank := 1 }

/-- A gap that leaves a space, unless nothing follows in its box. -/
def optionalSpace : Document := gap { blank := 1, isOptional := true }

/-- The end of a line. -/
def line : Document := gap { blank := unbounded }

/-- The end of a line, unless nothing follows in its box. -/
def optionalLine : Document := gap { blank := unbounded, isOptional := true }

/-- A gap at which the line never ends. -/
def glue : Document := gap { isFixed := true }

/-- The line behind the gap in front of this place starts one step to the left. -/
def outdent : Document := shift (-step)

/-- A comma behind an element.  Behind the last one it stands only at the end of a line. -/
def comma (isLast : Bool) : Document :=
  if isLast then gap { before := "," } else text "," ++ space

/-- A comma behind an element.  In place of the one behind the last element there is a space, if the
line goes on. -/
def commaOrSpace (isLast : Bool) : Document :=
  if isLast then gap { blank := 1, before := "," } else text "," ++ space

end Document
end Layout
end Instrument
