import Instrument.Files.Edit
import Instrument.Project.Error

/-!
# Instrumenting a file in its place

The new text takes the place of the file as a whole, so that nobody sees half of it.  A file whose
text stays the same is not touched.
-/

namespace Instrument
namespace Project

open Files (FileTree)

/-- What happened to the tagged declarations, as events. -/
def outcomeEvents (outcomes : List Instrumentation.Outcome) : List LogEvent :=
  outcomes.map .instrumentation

/-- Read a file and instrument its text. -/
def instrumentFile (tree : FileTree) (path : String) (kind : MarkerKind) (policy : MarkerPolicy) :
    Except ProjectError (String × InstrumentedSource) :=
  match tree.readText path with
  | .error obstacle => .error (.unreadable path obstacle)
  | .ok text =>
    match instrumentSource kind policy text with
    | .error failure => .error (.ofInstrumentation path failure)
    | .ok result => .ok (text, result)

def instrumentInPlace (tree : FileTree) (path : String) (kind : MarkerKind)
    (policy : MarkerPolicy) : Changed InstrumentedSource :=
  match instrumentFile tree path kind policy with
  | .error error => ⟨tree, [], .error error⟩
  | .ok (text, result) =>
    let log := outcomeEvents result.outcomes
    if result.source = text then ⟨tree, log, .ok result⟩
    else match tree.replace path result.source.toUTF8 with
    | .error obstacle => ⟨tree, log, .error (.obstructed obstacle)⟩
    | .ok changed => ⟨changed, log, .ok result⟩

end Project
end Instrument
