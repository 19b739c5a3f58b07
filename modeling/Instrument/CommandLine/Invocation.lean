import Instrument.CommandLine.Arguments

/-!
# Invocations of the tool

The first word that is not an option names the command, and the words behind it are its arguments.
-/

namespace Instrument
namespace CommandLine

/-- What the tool is asked to do. -/
inductive Invocation where
  | file (file : String) (output : Option String) (inPlace keepMarker : Bool)
  | list (path : String) (json : Bool)
  | project (project out : String) (keepMarker : Bool)
deriving DecidableEq, Repr

/-- What the arguments of the tool say. -/
inductive Request where
  | run (invocation : Invocation)
  | inform (text : String)
  | refuse (text : String)
deriving DecidableEq, Repr

/-- A misuse as what the arguments say. -/
def Misuse.request (misuse : Misuse) : Request := .refuse misuse.report

namespace Command

/-- Read the arguments of a command, and turn them into what is to be done. -/
def request (command : Command) (invocation : Reading → Option Invocation)
    (words : List String) : Request :=
  match command.read words with
  | .error .help => .inform command.help
  | .error (.misuse misuse) => misuse.request
  | .ok reading =>
    match invocation reading with
    | some found => .run found
    | none => .inform command.help

end Command

/-- The instrumenting of one file that arguments ask for. -/
def fileInvocation (reading : Reading) : Option Invocation :=
  (fileCommand.operand.bind reading.operand?).map fun file =>
    .file file (reading.value? outputFlag) (reading.has inPlaceFlag)
      (reading.has keepMarkerFlag)

def listInvocation (reading : Reading) : Option Invocation :=
  (listCommand.operand.bind reading.operand?).map fun path =>
    .list path (reading.has jsonFlag)

def projectInvocation (reading : Reading) : Option Invocation :=
  (reading.value? projectFlag).bind fun project =>
    (reading.value? outFlag).map fun out =>
      .project project out (reading.has keepMarkerFlag)

/-- What a command is asked to do with arguments. -/
def commandRequest (name : String) (words : List String) : Option Request :=
  match name with
  | "rewrite" => some (fileCommand.request fileInvocation words)
  | "list" => some (listCommand.request listInvocation words)
  | "project" => some (projectCommand.request projectInvocation words)
  | _ => none

/-- The help that is asked for by the names of commands. -/
def helpRequest : List String → Request
  | [] => .inform toolHelp
  | name :: rest =>
    if name = "help" then
      match rest with
      | [] => .inform helpHelp
      | other :: _ =>
        Misuse.request ⟨.unknownCommand other [], some (toolName ++ " help [COMMAND]...")⟩
    else match commands.lookup name, rest with
    | some command, [] => .inform command.help
    | some command, other :: _ =>
      Misuse.request ⟨.unknownCommand other [], some command.usage⟩
    | none, _ => Misuse.request ⟨.unknownCommand name [], some toolUsage⟩

/-- The usage line of the tool with one of its own options. -/
def toolUsageWith (flag : Flag) : String :=
  toolName ++ " " ++ flag.shown ++ " <COMMAND>"

def toolFlags : List Flag := [helpFlag, versionFlag]

/-- What an option of the tool itself asks for. -/
def flagRequest (flag : Flag) : Request :=
  if flag = helpFlag then .inform toolHelp
  else .inform (toolName ++ " " ++ toolVersion ++ "\n")

/-- The option of a later command that may have been meant by an option in front of it. -/
def meantLater? (name : String) (later : List String) : Option (Option String × String) :=
  later.findSome? fun word =>
    (commands.lookup word).bind fun command =>
      ((similarWords name (command.allFlags.map Flag.long)).getLast?).map fun similar =>
        (some word, "--" ++ similar)

/-- What an option in front of all commands asks for, given the words that follow. -/
def longRequest (name : String) (value : Option String) (later : List String) : Request :=
  match toolFlags.find? fun flag => flag.long == name, value with
  | some flag, none => flagRequest flag
  | some flag, some attached =>
    Misuse.request ⟨.needlessValue attached flag.shown, some (toolUsageWith flag)⟩
  | none, _ =>
    let written := "--" ++ name
    let similar := (similarWords name (toolFlags.map Flag.long)).getLast?
    match similar.bind fun found => toolFlags.find? fun flag => flag.long == found with
    | some flag =>
      Misuse.request ⟨.unexpected written (some (none, flag.shown)) false,
        some (toolUsageWith flag)⟩
    | none => Misuse.request ⟨.unexpected written (meantLater? name later) false, some toolUsage⟩

/-- What letters in front of all commands ask for. -/
def shortRequest (letters : List Char) : Request :=
  match letters with
  | [] => .refuse toolHelp
  | letter :: _ =>
    match toolFlags.find? fun flag => flag.short == some letter with
    | some flag => flagRequest flag
    | none => Misuse.request ⟨.unexpected ("-" ++ letter.toString) none false, some toolUsage⟩

/-- A word that should name a command and does not. -/
def unknownRequest (word : String) : Request :=
  Misuse.request ⟨.unknownCommand word (similarWords word (commandSummaries.map Prod.fst)),
    some toolUsage⟩

/-- What words ask for that stand behind two dashes alone: nothing that can be done. -/
def valueRequest : List String → Request
  | [] => .refuse toolHelp
  | word :: _ =>
    if (commandSummaries.map Prod.fst).contains word then
      Misuse.request ⟨.commandAsValue word, some toolUsage⟩
    else unknownRequest word

/-- What the arguments of the tool ask for. -/
def Request.ofArguments : List String → Request
  | [] => .refuse toolHelp
  | word :: rest =>
    if word = "help" then helpRequest rest
    else match commandRequest word rest with
    | some request => request
    | none =>
      match Word.ofText word with
      | .dashes => valueRequest rest
      | .long name value => longRequest name value rest
      | .short letters => shortRequest letters
      | .plain => unknownRequest word

end CommandLine
end Instrument
