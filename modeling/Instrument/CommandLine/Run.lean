import Instrument.CommandLine.Invocation
import Instrument.CommandLine.Listing
import Instrument.CommandLine.LogFilter
import Instrument.Project.Settings
import Instrument.Project.Staging

/-!
# Running the tool

A run of the tool is a function of the files it finds, of the setting that filters its log, and of
its arguments.  It tells what to show, and leaves files.
-/

namespace Instrument
namespace CommandLine

open Files (FileTree)

/-- What a run of the tool leads to. -/
structure Response where
  exitCode : Nat
  output : String
  errors : String
  tree : FileTree

/-- What an invocation leads to: the files afterwards, the events on the way, and what to show on
either stream. -/
abbrev Execution := Changed (String × String)

/-- The lines of a report for the functions of a file. -/
def functionLines (instrumented skipped : List String) : String :=
  String.join (instrumented.map fun name => "    " ++ name ++ "\n") ++
    String.join (skipped.map fun name => "    " ++ name ++ " (no body, skipped)\n")

def fileReport (file : String) (result : InstrumentedSource) : String :=
  "instrumented " ++ toString result.instrumented.length ++ " function(s) in " ++ file ++ "\n" ++
    functionLines result.instrumented result.skipped

def stagingReport (out : String) (report : Project.Report) : String :=
  "instrumented " ++ toString report.instrumentedCount ++ " function(s) across " ++
    toString report.files.length ++ " file(s)\n" ++
    String.join (report.files.map fun file =>
      "  " ++ Files.relativeText file.path ++ ":\n" ++
        functionLines file.instrumented file.skipped) ++
    "staged: " ++ out ++ "\n"

/-- Instrument a file, and show or write the result. -/
def instrumentTo (tree : FileTree) (file : String) (output : Option String)
    (policy : MarkerPolicy) : Execution :=
  match Project.instrumentFile tree file .methodLogger policy with
  | .error error => ⟨tree, [], .error error⟩
  | .ok (_, result) =>
    let log := Project.outcomeEvents result.outcomes
    let report := fileReport file result
    match output with
    | none => ⟨tree, log, .ok (Text.plain result.source, report)⟩
    | some out =>
      match tree.write out result.source.toUTF8 with
      | .error obstacle => ⟨tree, log, .error (.obstructed obstacle)⟩
      | .ok written => ⟨written, log, .ok ("", report)⟩

def instrumentHere (tree : FileTree) (file : String) (policy : MarkerPolicy) : Execution :=
  let changed := Project.instrumentInPlace tree file .methodLogger policy
  { changed with result := changed.result.map fun result => ("", fileReport file result) }

/-- Put events in front of those of an execution. -/
def after (log : List LogEvent) (execution : Execution) : Execution :=
  { execution with log := log ++ execution.log }

/-- Carry out the instrumenting of one file. -/
def executeFile (tree : FileTree) (file : String) (output : Option String)
    (inPlace keepMarker : Bool) : Execution :=
  if !tree.isFile file then ⟨tree, [], .error (.notFound file)⟩
  else
    let settings := Config.discover tree file
    match settings.result with
    | .error error => ⟨tree, settings.log, .error error⟩
    | .ok config =>
      let policy := (config.withKeepMarker keepMarker).policy
      after settings.log
        (if inPlace then instrumentHere tree file policy else instrumentTo tree file output policy)

def executeList (tree : FileTree) (path : String) (json : Bool) : Execution :=
  match scanPath tree .methodLogger path with
  | .error error => ⟨tree, [], .error error⟩
  | .ok scans =>
    ⟨tree, [], .ok (if json then (listingJson scans, "")
      else (listingText scans, listingReport scans))⟩

/-- Carry out the staging of a project. -/
def executeProject (tree : FileTree) (project out : String) (keepMarker : Bool) : Execution :=
  if !tree.isDirectory project then ⟨tree, [], .error (.notFound project)⟩
  else
    let settings := Config.load tree project
    match settings.result with
    | .error error => ⟨tree, settings.log, .error error⟩
    | .ok config =>
      let policy := (config.withKeepMarker keepMarker).policy
      let staged := Project.stage tree project out .methodLogger policy
      after settings.log
        { staged with
          result := staged.result.map fun report => (out ++ "\n", stagingReport out report) }

/-- Carry out what the tool is asked to do. -/
def execute (tree : FileTree) : Invocation → Execution
  | .file file output inPlace keepMarker => executeFile tree file output inPlace keepMarker
  | .list path json => executeList tree path json
  | .project project out keepMarker => executeProject tree project out keepMarker

/-- The exit code of a run that ends with an error. -/
def failureCode : ProjectError → Nat
  | .unprintable => 101
  | _ => 1

def run (tree : FileTree) (logSetting : Option String) (arguments : List String) : Response :=
  match Request.ofArguments arguments with
  | .inform text => ⟨0, text, "", tree⟩
  | .refuse text => ⟨2, "", text, tree⟩
  | .run invocation =>
    let execution := execute tree invocation
    let log := (LogFilter.ofSetting logSetting).text execution.log
    match execution.result with
    | .ok (output, report) => ⟨0, output, log ++ report, execution.tree⟩
    | .error error =>
      ⟨failureCode error, "", log ++ "error: " ++ error.message ++ "\n", execution.tree⟩

end CommandLine
end Instrument
