import Instrument.Marker.Scan
import Instrument.Instrumentation
import Instrument.Text.Escape

/-!
# Log events

What is worth telling while work is going on.  Warnings are about what the user wrote and does not
have the effect it seems to have; the other events tell what was done.
-/

namespace Instrument

/-- How much an event matters, from most to least. -/
inductive LogLevel where
  | error
  | warn
  | info
  | debug
  | trace
deriving DecidableEq, Repr

namespace LogLevel

/-- The place of a level among the levels, from the one that matters most. -/
def rank : LogLevel → Nat
  | error => 1
  | warn => 2
  | info => 3
  | debug => 4
  | trace => 5

/-- The name of a level in the log. -/
def name : LogLevel → String
  | error => "ERROR"
  | warn => "WARN"
  | info => "INFO"
  | debug => "DEBUG"
  | trace => "TRACE"

end LogLevel

/-- An event worth telling. -/
inductive LogEvent where
  | unknownSetting (key manifest : String)
  | ignoredMarker (file : String) (marker : IgnoredMarker)
  | instrumentation (outcome : Instrumentation.Outcome)
deriving DecidableEq, Repr

namespace LogEvent

def level : LogEvent → LogLevel
  | unknownSetting _ _ => .warn
  | ignoredMarker _ _ => .warn
  | instrumentation _ => .debug

/-- The part of the tool that an event comes from; a filter of events selects by it. -/
def origin : LogEvent → String
  | unknownSetting _ _ => "method_logger::config"
  | ignoredMarker _ _ => "method_logger::project"
  | instrumentation _ => "method_logger::rewrite"

/-- What an event says, apart from its details. -/
def message : LogEvent → String
  | unknownSetting _ _ => "unknown method-logger setting"
  | ignoredMarker _ marker => marker.reason.message
  | instrumentation (.instrumented _ _) => "instrumented"
  | instrumentation (.skipped _) => "tagged declaration has no body, skipping"

/-- The details of an event by name, as a line of the log shows them. -/
def details : LogEvent → List (String × String)
  | unknownSetting key manifest => [("key", Text.quoted key), ("manifest", manifest)]
  | ignoredMarker file marker =>
    [("file", file), ("line", toString marker.line), ("item", marker.item)]
  | instrumentation (.instrumented name _) => [("function", name)]
  | instrumentation (.skipped name) => [("function", name)]

/-- The line of the log for an event. -/
def line (event : LogEvent) : String :=
  event.level.name ++ " " ++ event.message ++
    String.join (event.details.map fun detail => " " ++ detail.1 ++ "=" ++ detail.2) ++ "\n"

end LogEvent
end Instrument
