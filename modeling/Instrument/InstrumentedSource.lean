import Instrument.Print.File
import Instrument.Instrumentation

/-!
# Instrumented source texts

A text is parsed, instrumented and printed.  A text in which nothing is to be changed is handed back
as it is, with its comments and its layout; any other is laid out anew as a whole.
-/

namespace Instrument

namespace InstrumentedFile

/-- The text of an instrumented file, given the text it was parsed from.  There is none if the file
was changed and cannot be printed. -/
def render? (result : InstrumentedFile) (source : String) : Option String :=
  if result.changed then
    if result.file.canPrint then some result.file.text else none
  else some source

end InstrumentedFile

/-- Why a text cannot be instrumented. -/
inductive InstrumentationFailure where
  | unparsed (failure : Failure)
  | unprintable
deriving DecidableEq, Repr

/-- An instrumented text and what happened to its declarations. -/
structure InstrumentedSource where
  source : String
  outcomes : List Instrumentation.Outcome
deriving DecidableEq, Repr

namespace InstrumentedSource

/-- The declarations whose body received the diagnostic, in visiting order. -/
def instrumented (result : InstrumentedSource) : List String :=
  Instrumentation.instrumentedNames result.outcomes

/-- The tagged declarations that were left alone because they have no body. -/
def skipped (result : InstrumentedSource) : List String :=
  Instrumentation.skippedNames result.outcomes

end InstrumentedSource

/-- Instrument a file that was parsed from a text. -/
def instrumentParsed (kind : MarkerKind) (policy : MarkerPolicy) (file : SourceFile)
    (source : String) : Except InstrumentationFailure InstrumentedSource :=
  let result := file.instrument kind policy
  match result.render? source with
  | some changed => .ok ⟨changed, result.outcomes⟩
  | none => .error .unprintable

def instrumentSource (kind : MarkerKind) (policy : MarkerPolicy) (source : String) :
    Except InstrumentationFailure InstrumentedSource :=
  match SourceFile.parseProgram source with
  | .ok file => instrumentParsed kind policy file source
  | .error failure => .error (.unparsed failure)

end Instrument
