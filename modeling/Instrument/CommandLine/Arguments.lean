import Instrument.CommandLine.Command
import Instrument.CommandLine.Similarity

/-!
# Reading arguments

The arguments of a command are read from left to right.  A value is judged when the next argument
shows that nothing more belongs to it, so a mistake in an argument that cannot be read at all is
reported before one in the value in front of it.
-/

namespace Instrument
namespace CommandLine

/-- What is wrong with arguments. -/
inductive Mistake where
  /-- Nothing is called that.  Another name may have been meant, of this command or of another one;
  or what was written was meant as a value. -/
  | unexpected (written : String) (meant : Option (Option String × String)) (asValue : Bool)
  | commandAsValue (written : String)
  | unknownCommand (written : String) (meant : List String)
  | missingValue (argument : String)
  | needlessValue (value argument : String)
  | repeated (argument : String)
  | excluded (argument other : String)
  | missing (argument : String)
deriving DecidableEq, Repr

/-- A mistake, and the usage line that is shown with it. -/
structure Misuse where
  mistake : Mistake
  usage : Option String
deriving DecidableEq, Repr

namespace Mistake

def message : Mistake → String
  | unexpected written _ _ => "unexpected argument '" ++ written ++ "' found"
  | commandAsValue written => "unexpected argument '" ++ written ++ "' found"
  | unknownCommand written _ => "unrecognized subcommand '" ++ written ++ "'"
  | missingValue argument =>
    "a value is required for '" ++ argument ++ "' but none was supplied"
  | needlessValue value argument =>
    "unexpected value '" ++ value ++ "' for '" ++ argument ++ "' found; no more were expected"
  | repeated argument => "the argument '" ++ argument ++ "' cannot be used multiple times"
  | excluded argument other =>
    "the argument '" ++ argument ++ "' cannot be used with '" ++ other ++ "'"
  | missing argument => "the following required arguments were not provided:\n  " ++ argument

/-- Hints at what may have been meant. -/
def tips : Mistake → List String
  | unexpected written meant asValue =>
    (match meant with
      | some (none, name) => ["a similar argument exists: '" ++ name ++ "'"]
      | some (some command, name) => ["'" ++ command ++ " " ++ name ++ "' exists"]
      | none => []) ++
    if asValue then
      ["to pass '" ++ written ++ "' as a value, use '-- " ++ written ++ "'"]
    else []
  | commandAsValue written =>
    ["subcommand '" ++ written ++ "' exists; to use it, remove the '--' before it"]
  | unknownCommand _ [] => []
  | unknownCommand _ [name] => ["a similar subcommand exists: '" ++ name ++ "'"]
  | unknownCommand _ names =>
    ["some similar subcommands exist: " ++
      ", ".intercalate (names.map fun name => "'" ++ name ++ "'")]
  | _ => []

end Mistake

def Misuse.report (misuse : Misuse) : String :=
  let tips := misuse.mistake.tips
  "error: " ++ misuse.mistake.message ++
    (if tips.isEmpty then "" else "\n") ++
    String.join (tips.map fun tip => "\n  tip: " ++ tip) ++
    (match misuse.usage with
      | some usage => "\n\nUsage: " ++ usage
      | none => "") ++
    "\n\nFor more information, try '--help'.\n"

/-! ## Words of the command line -/

/-- How a word of the command line is written. -/
inductive Word where
  | dashes
  | long (name : String) (value : Option String)
  | short (letters : List Char)
  | plain
deriving DecidableEq, Repr

/-- How a word is written.  A dash alone is a word like any other. -/
def Word.ofText (text : String) : Word :=
  match text.toList with
  | ['-', '-'] => .dashes
  | '-' :: '-' :: rest =>
    match rest.dropWhile (· != '=') with
    | '=' :: value =>
      .long (String.ofList (rest.takeWhile (· != '='))) (some (String.ofList value))
    | _ => .long (String.ofList rest) none
  | '-' :: first :: rest => .short (first :: rest)
  | _ => .plain

/-- Whether a word looks like an option. -/
def looksLikeFlag (text : String) : Bool :=
  match Word.ofText text with
  | .long _ _ | .short _ => true
  | _ => false

/-! ## Arguments of one command -/

/-- An argument whose value is not judged yet; an option may still lack its value. -/
structure Pending where
  argument : Argument
  value : Option String

/-- What has been read of the arguments of a command. -/
structure Reading where
  given : List (Argument × String)
  pending : Option Pending
  awaitsValue : Bool
  /-- Whether two dashes alone have been read. -/
  onlyValues : Bool
  hasOperand : Bool

namespace Reading

def start : Reading := ⟨[], none, false, false, false⟩

def arguments (reading : Reading) : List Argument := reading.given.map Prod.fst

/-- Take an argument in.  The second result tells what is wrong with it. -/
def take (command : Command) (reading : Reading) (argument : Argument) (value : Option String) :
    Reading × Option Misuse :=
  let rest := { reading with pending := none, awaitsValue := false }
  match argument, value with
  | .flag flag, none =>
    if flag.value.isSome then (rest, some ⟨.missingValue flag.shown, none⟩)
    else insert rest (.flag flag) ""
  | argument, value =>
    let written := value.getD ""
    match insert rest argument written with
    | (taken, some misuse) => (taken, some misuse)
    | (taken, none) =>
      if written.isEmpty then (taken, some ⟨.missingValue (command.spelled argument), none⟩)
      else (taken, none)
where
  /-- Add an argument.  One that was given before is not given any more. -/
  insert (rest : Reading) (argument : Argument) (value : String) : Reading × Option Misuse :=
    if rest.arguments.contains argument then
      ({ rest with given := rest.given.filter fun entry => entry.1 != argument },
        some ⟨.repeated (command.spelled argument), command.usage⟩)
    else ({ rest with given := rest.given ++ [(argument, value)] }, none)

def settle (command : Command) (reading : Reading) : Reading × Option Misuse :=
  match reading.pending with
  | some pending => take command reading pending.argument pending.value
  | none => (reading, none)

/-- Take an argument in, once the pending one is judged. -/
def add (command : Command) (reading : Reading) (argument : Argument) (value : Option String) :
    Except Misuse Reading :=
  match settle command reading with
  | (_, some misuse) => .error misuse
  | (settled, none) =>
    match take command settled argument value with
    | (_, some misuse) => .error misuse
    | (taken, none) => .ok taken

/-- Wait for the value of an option, once the pending argument is judged. -/
def await (command : Command) (reading : Reading) (argument : Argument) : Except Misuse Reading :=
  match settle command reading with
  | (_, some misuse) => .error misuse
  | (settled, none) =>
    .ok { settled with pending := some ⟨argument, none⟩, awaitsValue := true }

end Reading

/-- How reading arguments ends before the last one: with a mistake, or with a wish. -/
inductive Interruption where
  | misuse (misuse : Misuse)
  | help
deriving DecidableEq, Repr

/-- A mistake as an interruption. -/
def interrupting {α : Type} : Except Misuse α → Except Interruption α
  | .ok value => .ok value
  | .error misuse => .error (.misuse misuse)

namespace Command

/-- Read a word that starts with two dashes. -/
def readLong (command : Command) (reading : Reading) (name : String) (value : Option String) :
    Except Interruption Reading :=
  match command.allFlags.find? fun flag => flag.long == name with
  | some flag =>
    match flag.value, value with
    | some _, some attached => interrupting (reading.add command (.flag flag) (some attached))
    | some _, none => interrupting (reading.await command (.flag flag))
    | none, some attached =>
      let given := reading.arguments.filter fun argument =>
        match argument with
        | .flag other => !other.required
        | .operand => !command.operand.any Operand.required
      .error (.misuse ⟨.needlessValue attached flag.shown,
        some (command.usageWith (given ++ [.flag flag]))⟩)
    | none, none =>
      if flag = helpFlag then
        match reading.settle command with
        | (_, some misuse) => .error (.misuse misuse)
        | (_, none) => .error .help
      else interrupting (reading.add command (.flag flag) none)
  | none =>
    let settled := (reading.settle command).1
    let meant := (similarWords name (command.allFlags.map Flag.long)).getLast?
    let given := settled.arguments ++ (match meant with
      | some similar => (command.allFlags.find? fun flag => flag.long == similar).toList.map .flag
      | none => [])
    .error (.misuse ⟨.unexpected ("--" ++ name) (meant.map fun similar => (none, "--" ++ similar))
      (meant.isNone && command.operand.isSome), some (command.usageWith given.eraseDups)⟩)

/-- Read letters behind a dash.  What stands behind the letter of an option that takes a value is
that value. -/
def readShort (command : Command) (reading : Reading) : List Char → Except Interruption Reading
  | [] => .ok reading
  | letter :: rest =>
    match command.allFlags.find? fun flag => flag.short == some letter with
    | some flag =>
      if flag.value.isSome then
        match rest with
        | [] => interrupting (reading.await command (.flag flag))
        | '=' :: value =>
          interrupting (reading.add command (.flag flag) (some (String.ofList value)))
        | value => interrupting (reading.add command (.flag flag) (some (String.ofList value)))
      else if flag = helpFlag then
        match reading.settle command with
        | (_, some misuse) => .error (.misuse misuse)
        | (_, none) => .error .help
      else
        match reading.add command (.flag flag) none with
        | .error misuse => .error (.misuse misuse)
        | .ok next => readShort command next rest
    | none =>
      .error (.misuse ⟨.unexpected ("-" ++ letter.toString) none command.operand.isSome,
        some command.usage⟩)

def readValue (command : Command) (reading : Reading) (word : String) :
    Except Interruption Reading :=
  if reading.awaitsValue && !reading.onlyValues then
    match reading.pending with
    | some pending =>
      .ok { reading with pending := some { pending with value := some word }, awaitsValue := false }
    | none => .ok reading
  else if command.operand.isSome && !reading.hasOperand then
    match reading.settle command with
    | (_, some misuse) => .error (.misuse misuse)
    | (settled, none) =>
      .ok { settled with pending := some ⟨.operand, some word⟩, hasOperand := true }
  else
    .error (.misuse ⟨.unexpected word none
      (!reading.onlyValues && command.operand.isSome && looksLikeFlag word), some command.usage⟩)

def readWord (command : Command) (reading : Reading) (word : String) :
    Except Interruption Reading :=
  if reading.onlyValues then command.readValue reading word
  else match Word.ofText word with
  | .dashes => .ok { reading with onlyValues := true }
  | .long name value => command.readLong reading name value
  | .short letters => command.readShort reading letters
  | .plain => command.readValue reading word

def readWords (command : Command) : Reading → List String → Except Interruption Reading
  | reading, [] =>
    match reading.settle command with
    | (_, some misuse) => .error (.misuse misuse)
    | (settled, none) => .ok settled
  | reading, word :: rest =>
    match command.readWord reading word with
    | .error interruption => .error interruption
    | .ok next => readWords command next rest

/-- The first argument that excludes another one that was given, with the latter. -/
def conflict? (given : List Argument) : List Argument → Option (Flag × Flag)
  | [] => none
  | .operand :: rest => conflict? given rest
  | .flag flag :: rest =>
    match given.filterMap (fun
      | .flag other => if flag.excludes.contains other.long then some other else none
      | .operand => none) with
    | other :: _ => some (flag, other)
    | [] => conflict? given rest

/-- The arguments that have to be given and were not. -/
def missingArguments (command : Command) (given : List Argument) : List Argument :=
  ((command.requiredFlags.map Argument.flag) ++
    (if command.operand.any Operand.required then [Argument.operand] else [])).filter
      fun argument => !given.contains argument

def check (command : Command) (reading : Reading) : Option Misuse :=
  let given := reading.arguments
  match conflict? given given with
  | some (flag, other) =>
    some ⟨.excluded flag.shown other.shown,
      some (command.usageWith (given.filter (· != .flag other)))⟩
  | none =>
    match command.missingArguments given with
    | [] => none
    | missing =>
      some ⟨.missing ("\n  ".intercalate (missing.map command.spelled)),
        some (command.usageWith (given ++ missing))⟩

def read (command : Command) (words : List String) : Except Interruption Reading :=
  match command.readWords .start words with
  | .error interruption => .error interruption
  | .ok reading =>
    match command.check reading with
    | some misuse => .error (.misuse misuse)
    | none => .ok reading

end Command

namespace Reading

/-- The value of an option that was given. -/
def value? (reading : Reading) (flag : Flag) : Option String :=
  (reading.given.lookup (.flag flag)).or flag.fallback

def has (reading : Reading) (flag : Flag) : Bool :=
  reading.arguments.contains (.flag flag)

def operand? (reading : Reading) (operand : Operand) : Option String :=
  (reading.given.lookup .operand).or operand.fallback

end Reading

end CommandLine
end Instrument
