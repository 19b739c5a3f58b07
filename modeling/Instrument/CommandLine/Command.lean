/-!
# Commands

What a command takes: at most one operand, and options.  From that follow its usage line and its
help text.
-/

namespace Instrument
namespace CommandLine

/-- An option of a command. -/
structure Flag where
  long : String
  short : Option Char
  /-- What the value of the option is called; without one, the option is given or not. -/
  value : Option String
  help : String
  fallback : Option String
  required : Bool
  excludes : List String
deriving DecidableEq, Repr, Inhabited

/-- The operand of a command.  It has to be given, unless it has a value without that. -/
structure Operand where
  name : String
  help : String
  fallback : Option String
deriving DecidableEq, Repr, Inhabited

/-- A command. -/
structure Command where
  name : String
  summary : String
  operand : Option Operand
  flags : List Flag
deriving DecidableEq, Repr, Inhabited

namespace Flag

/-- The option as it is written, with the name of its value. -/
def shown (flag : Flag) : String :=
  "--" ++ flag.long ++ (match flag.value with
    | some value => " <" ++ value ++ ">"
    | none => "")

/-- The option as a help text lists it, with its letter. -/
def listed (flag : Flag) : String :=
  (match flag.short with
    | some letter => "-" ++ letter.toString ++ ", "
    | none => "    ") ++ flag.shown

end Flag

namespace Operand

/-- Whether the operand has to be given. -/
def required (operand : Operand) : Bool := operand.fallback.isNone

/-- The operand where it has to be given. -/
def demanded (operand : Operand) : String := "<" ++ operand.name ++ ">"

/-- The operand as it is written: in brackets if it can be left out. -/
def shown (operand : Operand) : String :=
  if operand.required then operand.demanded else "[" ++ operand.name ++ "]"

end Operand

def helpFlag : Flag := ⟨"help", some 'h', none, "Print help", none, false, []⟩

/-- The option that asks for the version. -/
def versionFlag : Flag := ⟨"version", some 'V', none, "Print version", none, false, []⟩

/-- What can be given to a command. -/
inductive Argument where
  | operand
  | flag (flag : Flag)
deriving DecidableEq, Repr

namespace Command

/-- The options of a command, with the one that asks for help. -/
def allFlags (command : Command) : List Flag := command.flags ++ [helpFlag]

/-- The options that have to be given. -/
def requiredFlags (command : Command) : List Flag := command.flags.filter Flag.required

/-- The usage line without any arguments given. -/
def usage (command : Command) : String :=
  " ".intercalate ([command.name] ++
    (if command.requiredFlags.length < command.flags.length then ["[OPTIONS]"] else []) ++
    command.requiredFlags.map Flag.shown ++ command.operand.toList.map Operand.shown)

/-- The usage line with the arguments that were given: those that have to be given come first, and
an operand that was given is shown as one that has to be. -/
def usageWith (command : Command) (given : List Argument) : String :=
  if given.isEmpty then command.usage
  else
    let givenFlags := given.filterMap fun
      | .flag flag => some flag
      | .operand => none
    let operand := command.operand.toList.map fun operand =>
      if given.contains .operand then operand.demanded else operand.shown
    " ".intercalate ([command.name] ++
      ((command.requiredFlags ++ givenFlags).map Flag.shown).eraseDups ++ operand)

/-- An argument of a command as it is written. -/
def spelled (command : Command) : Argument → String
  | .flag flag => flag.shown
  | .operand => (command.operand.map Operand.shown).getD ""

end Command

/-! ## Help texts -/

/-- Rows of a help text: what there is and what it is for, the latter in one column. -/
def rows (entries : List (String × String)) : String :=
  let width := (entries.map fun entry => entry.1.length).foldl max 0
  "\n".intercalate (entries.map fun entry =>
    "  " ++ entry.1 ++ "".pushn ' ' (width - entry.1.length + 2) ++ entry.2)

/-- What an argument is for, and the value it has if it is not given. -/
def described (help : String) (fallback : Option String) : String :=
  help ++ (match fallback with
    | some value => " [default: " ++ value ++ "]"
    | none => "")

/-- The part of a help text that lists options. -/
def flagRows (flags : List Flag) : String :=
  "Options:\n" ++ rows (flags.map fun flag => (flag.listed, described flag.help flag.fallback))

def Command.help (command : Command) : String :=
  command.summary ++ "\n\nUsage: " ++ command.usage ++ "\n\n" ++
    (match command.operand with
      | some operand =>
        "Arguments:\n" ++ rows [(operand.shown, described operand.help operand.fallback)] ++ "\n\n"
      | none => "") ++
    flagRows command.allFlags ++ "\n"

/-! ## The commands of the tool -/

def toolName : String := "method-logger"

def toolVersion : String := "0.1.0"

def keepMarkerFlag : Flag :=
  ⟨"keep-marker", none, none, "Keep #[method_logger] attributes in the output", none, false, []⟩

/-- The option that names a file for the result. -/
def outputFlag : Flag :=
  ⟨"output", some 'o', some "PATH", "Write the rewritten source to PATH", none, false, ["in-place"]⟩

/-- The option that puts the result in the place of the file. -/
def inPlaceFlag : Flag :=
  ⟨"in-place", none, none, "Replace FILE with the rewritten source", none, false, ["output"]⟩

def jsonFlag : Flag :=
  ⟨"json", none, none, "Emit JSON instead of a table", none, false, []⟩

def projectFlag : Flag :=
  ⟨"project", none, some "PROJECT", "Project root (defaults to current directory)", some ".",
    false, []⟩

/-- The option that names a directory for the result. -/
def outFlag : Flag :=
  ⟨"out", none, some "DIR", "Output directory; must be empty or absent", none, true, []⟩

def fileCommand : Command :=
  ⟨toolName ++ " rewrite",
    "Rewrite one source file. Prints the result to stdout unless --output or --in-place is given",
    some ⟨"FILE", "Source file to rewrite", none⟩, [outputFlag, inPlaceFlag, keepMarkerFlag]⟩

def listCommand : Command :=
  ⟨toolName ++ " list", "List tagged functions in a file or directory tree",
    some ⟨"PATH", "File or directory to scan", some "."⟩, [jsonFlag]⟩

def projectCommand : Command :=
  ⟨toolName ++ " project", "Copy a project into DIR with every tagged function rewritten",
    none, [projectFlag, outFlag, keepMarkerFlag]⟩

/-- What the command that prints help is for. -/
def helpSummary : String := "Print this message or the help of the given subcommand(s)"

/-- The commands with the names they are called by. -/
def commands : List (String × Command) :=
  [("rewrite", fileCommand), ("list", listCommand), ("project", projectCommand)]

/-- The names that can be called, with what they are for. -/
def commandSummaries : List (String × String) :=
  (commands.map fun entry => (entry.1, entry.2.summary)) ++ [("help", helpSummary)]

def toolUsage : String := toolName ++ " <COMMAND>"

def toolHelp : String :=
  "Prepend a diagnostic println to every #[method_logger] function\n\nUsage: " ++ toolUsage ++
    "\n\nCommands:\n" ++ rows commandSummaries ++ "\n\n" ++ flagRows [helpFlag, versionFlag] ++
    "\n\nWorkflow: method-logger list src/, then method-logger project --out <DIR>\n"

/-- The help text of the command that prints help. -/
def helpHelp : String :=
  helpSummary ++ "\n\nUsage: " ++ toolName ++ " help [COMMAND]...\n\nArguments:\n" ++
    rows [("[COMMAND]...", "Print help for the subcommand(s)")] ++ "\n"

end CommandLine
end Instrument
