import Instrument.Project.InPlace
import Instrument.Project.Sources

/-!
# Staging a project

A project is staged by copying it into a directory of its own, with the tagged functions of its
program text instrumented on the way.  Program text that nowhere mentions the marker is copied
without being parsed, like everything that is not program text.  Every counterpart is made as soon
as the walk through the project comes to the original, so the tree changes under the walk.
-/

namespace Instrument
namespace Project

open Files (FileTree Location Obstacle)

/-- What happened to a file that mentions the marker. -/
structure FileReport where
  /-- The names of the file below the root of the project. -/
  path : List String
  instrumented : List String
  skipped : List String
  ignored : List IgnoredMarker
deriving DecidableEq, Repr

/-- What happened to a project. -/
structure Report where
  /-- The files that mention the marker, in the order of their names. -/
  files : List FileReport
  /-- The number of files that were copied without being parsed. -/
  copied : Nat
deriving DecidableEq, Repr

namespace Report

/-- The number of functions that were instrumented. -/
def instrumentedCount (report : Report) : Nat :=
  report.files.foldl (fun count file => count + file.instrumented.length) 0

end Report

/-- What becomes of a file: its new content, and a report if it mentions the marker. -/
structure StagedFile where
  content : ByteArray
  report : Option FileReport

/-- Stage a text that mentions the marker. -/
def stageMarked (kind : MarkerKind) (policy : MarkerPolicy) (path : List String)
    (text : String) : Logged StagedFile :=
  let shown := Files.relativeText path
  match SourceFile.parse text with
  | .error failure => ⟨[], .error (.unparsed shown failure)⟩
  | .ok file =>
    let scan := kind.scan file.tree
    let warnings := scan.ignored.map (LogEvent.ignoredMarker shown)
    let result := file.instrument kind policy
    let log := warnings ++ outcomeEvents result.outcomes
    match result.render? text with
    | none => ⟨log, .error .unprintable⟩
    | some source =>
      ⟨log, .ok ⟨source.toUTF8,
        some ⟨path, result.instrumented, result.skipped, scan.ignored⟩⟩⟩

def stageSource (kind : MarkerKind) (policy : MarkerPolicy) (path : List String)
    (content : ByteArray) : Logged StagedFile :=
  match FileTree.decode content with
  | .error obstacle => ⟨[], .error (.unreadable (Files.relativeText path) obstacle)⟩
  | .ok text =>
    if mentions kind text then stageMarked kind policy path text
    else ⟨[], .ok ⟨content, none⟩⟩

def stageFile (kind : MarkerKind) (policy : MarkerPolicy) (path : List String)
    (content : ByteArray) : Logged StagedFile :=
  if Files.isSourcePath path then stageSource kind policy path content
  else ⟨[], .ok ⟨content, none⟩⟩

/-- How far staging has come: the files, the events so far, and the reports, last one first. -/
structure Progress where
  tree : FileTree
  log : List LogEvent
  reports : List FileReport
  copied : Nat

namespace Progress

/-- Make a directory below the output, if it is not there.  The walk has come to the one that is to
hold it before. -/
def addDirectory (progress : Progress) (out : Location) (path : List String) :
    Except Obstacle Progress :=
  match progress.tree.makeDirectory out path with
  | .ok made => .ok { progress with tree := made }
  | .error obstacle =>
    match progress.tree.unlessDirectory out path obstacle with
    | .ok () => .ok progress
    | .error obstacle => .error obstacle

/-- Write a file below the output, and take it into the account. -/
def addFile (progress : Progress) (out : Location) (path : List String) (log : List LogEvent)
    (file : StagedFile) : Except Obstacle Progress :=
  match progress.tree.writeFrom out path file.content with
  | .ok written => .ok
    { tree := written
      log := progress.log ++ log
      reports := file.report.toList ++ progress.reports
      copied := if file.report.isSome then progress.copied else progress.copied + 1 }
  | .error obstacle => .error obstacle

/-- What staging leads to that was not given up. -/
def finish (progress : Progress) : Changed Report :=
  ⟨progress.tree, progress.log,
    .ok ⟨progress.reports.mergeSort fun first second => Files.inOrder first.path second.path,
      progress.copied⟩⟩

/-- What staging leads to that was given up. -/
def giveUp (progress : Progress) (error : ProjectError) : Changed Report :=
  ⟨progress.tree, progress.log, .error error⟩

end Progress

/-- Make the counterpart of what is visited, below a location. -/
def stageVisit (kind : MarkerKind) (policy : MarkerPolicy) (out : Location) (progress : Progress) :
    Walk.Visit → Except (Changed Report) Progress
  | .directory path =>
    match progress.addDirectory out path with
    | .ok next => .ok next
    | .error obstacle => .error (progress.giveUp (.obstructed obstacle))
  | .file path content =>
    match stageFile kind policy path content with
    | ⟨log, .ok file⟩ =>
      match progress.addFile out path log file with
      | .ok next => .ok next
      | .error obstacle =>
        .error ({ progress with log := progress.log ++ log }.giveUp (.obstructed obstacle))
    | ⟨log, .error error⟩ =>
      .error ({ progress with log := progress.log ++ log }.giveUp error)
  | .link _ => .ok progress

/-- To stage is to make counterparts while the walk goes on. -/
def staging (kind : MarkerKind) (policy : MarkerPolicy) (out : Location) :
    Walk.Errand Progress (Changed Report) where
  tree := Progress.tree
  visit := stageVisit kind policy out
  giveUp := fun progress failure => progress.giveUp (.walkFailed failure)

/-- How to walk through a project: links are followed, and the output is left out. -/
def stagingWalk (root out : Location) : Walk :=
  ⟨true, fun path => !isBuildOutput path && root ++ path != out⟩

/-- Why a directory cannot be used for the output: it is not a directory, or not empty. -/
def outputError? (tree : FileTree) (out : String) : Option ProjectError :=
  if tree.isPresent out then
    match tree.list out with
    | .error obstacle => some (.obstructed obstacle)
    | .ok [] => none
    | .ok _ => some (.outputNotEmpty out)
  else none

/-- Stage what is below one directory into another one.  The walk goes through what has been made so
far as it does through everything else, if it gets there. -/
def stageFrom (made : FileTree) (root out : Location) (kind : MarkerKind) (policy : MarkerPolicy) :
    Changed Report :=
  match (stagingWalk root out).run (staging kind policy out) ⟨made, [], [], 0⟩
      (Files.absoluteText root) with
  | .ok last => last.finish
  | .error changed => changed

/-- Stage a project into a directory that is empty or is not there. -/
def stage (tree : FileTree) (root out : String) (kind : MarkerKind) (policy : MarkerPolicy) :
    Changed Report :=
  if !tree.isDirectory root then ⟨tree, [], .error (.notFound root)⟩
  else match outputError? tree out with
  | some error => ⟨tree, [], .error error⟩
  | none =>
    match tree.makeDirectories out with
    | (.error obstacle, left) => ⟨left, [], .error (.obstructed obstacle)⟩
    | (.ok (), made) =>
      match made.resolve root with
      | .error obstacle => ⟨made, [], .error (.obstructed obstacle)⟩
      | .ok rootLocation =>
        match made.resolve out with
        | .error obstacle => ⟨made, [], .error (.obstructed obstacle)⟩
        | .ok outLocation =>
          stageFrom made rootLocation outLocation kind policy

end Project
end Instrument
