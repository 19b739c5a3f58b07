import Instrument.Log
import Instrument.Text.Blank
import Instrument.Text.Identifier

/-!
# Filters for log events

A filter is a list of directives with commas between them.  A directive names a level, and may
restrict itself to the events that come from some part of the tool or that have certain details.  Of
the directives that apply to an event the most specific one decides.
-/

namespace Instrument
namespace CommandLine

/-- One directive of a filter. -/
structure LogDirective where
  /-- What the origin of an event has to start with. -/
  origin : Option String
  details : List (String × Bool)
  /-- Whether the directive only applies inside a named span of work. -/
  namesSpan : Bool
  /-- The greatest rank of a level that is let through. -/
  rank : Nat
deriving DecidableEq, Repr

namespace LogDirective

/-- The rank that a number or a name stands for. -/
def rank? (text : List Char) : Option Nat :=
  let digits := match text with
    | '+' :: rest => rest
    | _ => text
  if !digits.isEmpty && digits.all Char.isDigit then
    let value := Nat.ofDigitChars 10 digits 0
    if value ≤ 5 then some value else none
  else match String.ofList (text.map Char.toLower) with
    | "" => some LogLevel.error.rank
    | "off" => some 0
    | "error" => some LogLevel.error.rank
    | "warn" => some LogLevel.warn.rank
    | "info" => some LogLevel.info.rank
    | "debug" => some LogLevel.debug.rank
    | "trace" => some LogLevel.trace.rank
    | _ => none

/-- How far a directive has been read.  A number is the place where a part starts. -/
inductive State where
  | start
  | levelOrOrigin (lower : Nat)
  | span (lower : Nat)
  | detail (lower : Nat)
  | details
  | behindSpan
  | level (lower : Nat)

/-- A part of a text between two places. -/
def slice (text : List Char) (lower upper : Nat) : List Char :=
  (text.drop lower).take (upper - lower)

/-- A detail: its name, and whether a value is asked for. -/
def detailOf (text : List Char) : String × Bool :=
  (String.ofList (text.takeWhile (· != '=')), text.contains '=')

/-- Whether a directive can start with a character. -/
def canStart (character : Char) : Bool :=
  character == '-' || character == ':' || character == '_' || character.isDigit ||
    Text.isIdentifierStart character

/-- The next state, and what is known of the directive by then.  Places count from the start of the
text as it was written, although blanks around it are not read. -/
def advance (text : List Char) (place : Nat) (character : Char) :
    State → LogDirective → Option (State × LogDirective)
  | .start, directive =>
    if character == '[' then some (.span (place + 1), directive)
    else if canStart character then some (.levelOrOrigin place, directive)
    else none
  | .levelOrOrigin lower, directive =>
    let found := { directive with origin := some (String.ofList (slice text lower place)) }
    if character == '=' then some (.level (place + 1), found)
    else if character == '[' then some (.span (place + 1), found)
    else some (.levelOrOrigin lower, directive)
  | .behindSpan, directive =>
    if character == '=' then some (.level (place + 1), directive) else none
  | .span lower, directive =>
    if character == ']' then some (.behindSpan, { directive with namesSpan := true })
    else if character == '\x7b' then
      some (.detail (place + 1), { directive with namesSpan := lower != place })
    else some (.span lower, directive)
  | .detail lower, directive =>
    if character == '\x7d' then
      let written := slice text lower place
      if written.isEmpty then none
      else some (.details,
        { directive with details := directive.details ++ [detailOf written] })
    else some (.detail lower, directive)
  | .details, directive =>
    if character == ']' then some (.behindSpan, directive) else none
  | .level lower, directive => some (.level lower, directive)

/-- What is known of a directive after some more characters. -/
def readFrom (text : List Char) :
    Nat → State → LogDirective → List Char → Option (State × LogDirective)
  | _, state, directive, [] => some (state, directive)
  | place, state, directive, character :: rest =>
    match advance text place character state directive with
    | some (next, found) => readFrom text (place + 1) next found rest
    | none => none

/-- The end of a directive: what is left is a level, or an origin for which every level is let
through. -/
def finish (text : List Char) : State → LogDirective → Option LogDirective
  | .levelOrOrigin lower, directive =>
    let rest := text.drop lower
    match rank? rest with
    | some rank => some { directive with rank }
    | none => some { directive with origin := some (String.ofList rest) }
  | .level lower, directive =>
    let rest := text.drop lower
    if rest.isEmpty then some directive
    else (rank? rest).map fun rank => { directive with rank }
  | .behindSpan, directive => some directive
  | _, _ => none

def ofText? (text : List Char) : Option LogDirective :=
  let trimmed := ((text.dropWhile Text.isWhiteSpace).reverse.dropWhile Text.isWhiteSpace).reverse
  match readFrom text 0 .start ⟨none, [], false, LogLevel.trace.rank⟩ trimmed with
  | some (state, directive) => finish text state directive
  | none => none

/-- Whether a directive can apply to an event: no work of the tool is inside a span, and values of
details are only asked for in spans. -/
def isStatic (directive : LogDirective) : Bool :=
  !directive.namesSpan && directive.details.all fun detail => !detail.2

/-- Whether a directive applies to an event. -/
def appliesTo (directive : LogDirective) (event : LogEvent) : Bool :=
  directive.isStatic &&
    directive.origin.all (fun origin => origin.toList.isPrefixOf event.origin.toList) &&
    directive.details.all fun detail =>
      detail.1 == "message" || (event.details.map Prod.fst).contains detail.1

/-- How specific a directive is; a greater value means more specific. -/
def specificity (directive : LogDirective) : Nat × Nat :=
  (match directive.origin with
    | some origin => origin.utf8ByteSize + 1
    | none => 0, directive.details.length)

/-- Whether a directive gives way to a later one. -/
def yieldsTo (earlier later : LogDirective) : Bool :=
  earlier.specificity.1 < later.specificity.1 ||
    earlier.specificity.1 == later.specificity.1 &&
      (earlier.specificity.2 < later.specificity.2 ||
        earlier.specificity.2 == later.specificity.2 &&
          !decide (later.details.map Prod.fst < earlier.details.map Prod.fst))

end LogDirective

/-- A filter for log events. -/
abbrev LogFilter := List LogDirective

namespace LogFilter

/-- The filter that lets through events up to a level. -/
def upTo (level : LogLevel) : LogFilter := [⟨none, [], false, level.rank⟩]

/-- The parts of a text between commas. -/
def splitAtCommas : List Char → List (List Char)
  | [] => [[]]
  | ',' :: rest => [] :: splitAtCommas rest
  | first :: rest =>
    match splitAtCommas rest with
    | part :: more => (first :: part) :: more
    | [] => [[first]]

/-- Read a filter.  A text without any directive lets errors through. -/
def ofText? (text : String) : Option LogFilter :=
  let parts := (splitAtCommas text.toList).filter fun part => !part.isEmpty
  if parts.isEmpty then some (upTo .error)
  else parts.mapM LogDirective.ofText?

/-- The filter that a setting asks for.  Without one, and if it cannot be read, warnings are let
through. -/
def ofSetting (setting : Option String) : LogFilter :=
  ((setting.bind ofText?)).getD (upTo .warn)

/-- The directive that decides about an event. -/
def decisive? (filter : LogFilter) (event : LogEvent) : Option LogDirective :=
  (filter.filter fun directive => directive.appliesTo event).foldl (fun best directive =>
    match best with
    | some earlier => if earlier.yieldsTo directive then some directive else some earlier
    | none => some directive) none

def lets (filter : LogFilter) (event : LogEvent) : Bool :=
  (filter.decisive? event).any fun directive => event.level.rank ≤ directive.rank

/-- The lines of the log for events. -/
def text (filter : LogFilter) (log : List LogEvent) : String :=
  String.join ((log.filter filter.lets).map LogEvent.line)

end LogFilter
end CommandLine
end Instrument
