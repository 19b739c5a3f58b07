import Instrument.CommandLine.Json
import Instrument.Project.Sources
import Instrument.SourceFile
import Instrument.Text.Terminal

/-!
# Listing tagged functions

A listing shows, file by file, the functions that are tagged and the markers that have no effect.
Files in which there is nothing to show are left out; those that do not mention the marker are not
even parsed.
-/

namespace Instrument
namespace CommandLine

open Files (FileTree)

/-- What was found in a file. -/
structure FileScan where
  file : String
  scan : Scan
deriving DecidableEq, Repr

/-- A file to scan: its path, the path as the listing shows it, and its content. -/
structure Candidate where
  path : String
  shown : String
  content : ByteArray

/-- The files to scan in what a path leads to. -/
def candidates (tree : FileTree) (path : String) : Except ProjectError (List Candidate) :=
  if tree.isDirectory path then
    match Project.findSources tree path with
    | .error error => .error error
    | .ok sources => .ok (sources.map fun source =>
        ⟨Files.below path source.path, Files.relativeText source.path, source.content⟩)
  else
    match tree.entry path with
    | .ok (.file content) => .ok [⟨path, path, content⟩]
    | _ => .error (.notFound path)

/-- Scan a file, if it mentions the marker. -/
def scanCandidate (kind : MarkerKind) (candidate : Candidate) :
    Except ProjectError (Option FileScan) :=
  match FileTree.decode candidate.content with
  | .error obstacle => .error (.unreadable candidate.path obstacle)
  | .ok text =>
    if Project.mentions kind text then
      match SourceFile.parse text with
      | .error failure => .error (.unparsed candidate.path failure)
      | .ok file =>
        let scan := kind.scan file.tree
        if scan.tagged.isEmpty && scan.ignored.isEmpty then .ok none
        else .ok (some ⟨candidate.shown, scan⟩)
    else .ok none

def scanAll (kind : MarkerKind) : List Candidate → Except ProjectError (List FileScan)
  | [] => .ok []
  | candidate :: rest =>
    match scanCandidate kind candidate with
    | .error error => .error error
    | .ok found =>
      match scanAll kind rest with
      | .error error => .error error
      | .ok scans => .ok (found.toList ++ scans)

def scanPath (tree : FileTree) (kind : MarkerKind) (path : String) :
    Except ProjectError (List FileScan) :=
  match candidates tree path with
  | .error error => .error error
  | .ok found => scanAll kind found

namespace FileScan

def json (found : FileScan) : Json :=
  .record [("file", .text found.file),
    ("tagged", .list (found.scan.tagged.map fun declaration =>
      .record [("name", .text declaration.name), ("line", .number declaration.line),
        ("has_body", .truth declaration.hasBody)])),
    ("ignored", .list (found.scan.ignored.map fun marker =>
      .record [("item", .text marker.item), ("line", .number marker.line),
        ("reason", .text marker.reason.label)]))]

/-- A number at the right of a column of five. -/
def column (number : Nat) : String :=
  let digits := toString number
  "".pushn ' ' (5 - digits.length) ++ digits

/-- The lines of a listing for the tagged functions of a file. -/
def lines (found : FileScan) : List String :=
  (found.file ++ ":\n") :: found.scan.tagged.map fun declaration =>
    "  " ++ column declaration.line ++ "  " ++ declaration.name ++
      (if declaration.hasBody then "" else " (no body)") ++ "\n"

/-- The warnings of a listing for the markers of a file that have no effect. -/
def warnings (found : FileScan) : List String :=
  found.scan.ignored.map fun marker =>
    "warning: " ++ found.file ++ ":" ++ toString marker.line ++ ": " ++ marker.item ++ " -- " ++
      marker.reason.message ++ "\n"

end FileScan

/-- The listing of what was found, as JSON. -/
def listingJson (scans : List FileScan) : String :=
  Text.plain ((Json.list (scans.map FileScan.json)).print 0 ++ "\n")

/-- The listing of what was found, as lines. -/
def listingText (scans : List FileScan) : String :=
  String.join ((scans.flatMap FileScan.lines).map Text.plain)

/-- What is told beside a listing: the markers without effect, and how much was found. -/
def listingReport (scans : List FileScan) : String :=
  String.join (scans.flatMap FileScan.warnings) ++
    "found " ++
    toString (scans.foldl (fun count found => count + found.scan.tagged.length) 0) ++
    " tagged function(s) across " ++ toString scans.length ++ " file(s)\n"

end CommandLine
end Instrument
