import Instrument.CommandLine.Run
import Instrument.Proofs.Files.Writing
import Instrument.Proofs.Plain
import Instrument.Proofs.Unmentioned

/-!
# Where an instrumented text goes

The text of an instrumented file is shown, written to another file, or put in the place of the file
itself.  Up to that point the three ways are one: whether the file can be read and instrumented, and
what comes of it, does not depend on where the result goes.  So they succeed together, and the two
ways that leave a file leave the same bytes.  What is shown is the same text without its control
sequences, hence the same bytes only if the text holds none.
-/

namespace Instrument
namespace CommandLine

open Files (FileTree Location Obstacle)

/-! ## Runs and executions -/

section Responses

variable {tree : FileTree} {setting : Option String} {arguments : List String}
  {invocation : Invocation}

/-- No failure is told by the exit code of a success. -/
theorem failureCode_ne_zero (error : ProjectError) : failureCode error ≠ 0 := by
  cases error <;> exact fun code => by cases code

theorem run_tree_eq (asks : Request.ofArguments arguments = .run invocation) :
    (run tree setting arguments).tree = (execute tree invocation).tree := by
  rw [run, asks]
  dsimp only
  split <;> rfl

theorem run_exitCode_eq_zero_iff (asks : Request.ofArguments arguments = .run invocation) :
    (run tree setting arguments).exitCode = 0 ↔ (execute tree invocation).result.isOk = true := by
  rw [run, asks]
  dsimp only
  cases (execute tree invocation).result with
  | ok shown => exact ⟨fun _ => rfl, fun _ => rfl⟩
  | error error => exact ⟨fun code => absurd code (failureCode_ne_zero error), fun ok => by cases ok⟩

theorem run_output_eq (asks : Request.ofArguments arguments = .run invocation)
    {shown report : String} (succeeds : (execute tree invocation).result = .ok (shown, report)) :
    (run tree setting arguments).output = shown := by
  rw [run, asks]
  dsimp only
  rw [succeeds]

end Responses

/-! ## What comes of a file -/

/-- A file is instrumented: it is there, its settings can be found, and it holds a text of which an
instrumented text comes. -/
structure Instruments (tree : FileTree) (file : String) (keepMarker : Bool) (text : String)
    (result : InstrumentedSource) : Prop where
  isFile : tree.isFile file = true
  exists_config : ∃ config, (Config.discover tree file).result = .ok config ∧
    Project.instrumentFile tree file .methodLogger (config.withKeepMarker keepMarker).policy =
      .ok (text, result)

/-- The tree in which the instrumented text has been delivered. -/
def delivered (tree : FileTree) (file : String) (output : Option String) (inPlace : Bool)
    (text : String) (result : InstrumentedSource) : Except Obstacle FileTree :=
  if inPlace then
    if result.source = text then .ok tree else tree.replace file result.source.toUTF8
  else
    match output with
    | none => .ok tree
    | some out => tree.write out result.source.toUTF8

/-- What is shown of an instrumented text. -/
def shown (output : Option String) (inPlace : Bool) (result : InstrumentedSource) : String :=
  if inPlace || output.isSome then "" else Text.plain result.source

section Files

variable {tree : FileTree} {file : String} {output : Option String} {inPlace keepMarker : Bool}
  {text : String} {result : InstrumentedSource}

/-- What comes of a file is the same wherever it goes; only its delivery may fail. -/
theorem exists_executeFile_eq (instruments : Instruments tree file keepMarker text result)
    (output : Option String) (inPlace : Bool) :
    ∃ log, executeFile tree file output inPlace keepMarker =
      match delivered tree file output inPlace text result with
      | .ok left => ⟨left, log, .ok (shown output inPlace result, fileReport file result)⟩
      | .error obstacle => ⟨tree, log, .error (.obstructed obstacle)⟩ := by
  rcases instruments.exists_config with ⟨config, discovered, instrumented⟩
  refine ⟨(Config.discover tree file).log ++ Project.outcomeEvents result.outcomes, ?_⟩
  rw [executeFile, instruments.isFile, if_neg (by simp)]
  dsimp only
  rw [discovered]
  cases inPlace with
  | true =>
      dsimp only
      rw [if_pos rfl, instrumentHere, Project.instrumentInPlace, instrumented]
      unfold delivered
      rw [if_pos rfl]
      dsimp only
      split
      next => rfl
      next => cases tree.replace file result.source.toUTF8 <;> rfl
  | false =>
      dsimp only
      rw [if_neg (by simp), instrumentTo, instrumented]
      unfold delivered
      rw [if_neg (by simp)]
      cases output with
      | none => rfl
      | some out =>
          dsimp only
          cases tree.write out result.source.toUTF8 <;> rfl

/-- A file of which nothing comes is left alone, wherever the result was to go. -/
theorem executeFile_of_not_instruments
    (nothing : ∀ text result, ¬ Instruments tree file keepMarker text result)
    (output : Option String) (inPlace : Bool) :
    (executeFile tree file output inPlace keepMarker).tree = tree ∧
      (executeFile tree file output inPlace keepMarker).result.isOk = false := by
  rw [executeFile]
  split
  next => exact ⟨rfl, rfl⟩
  next isFile =>
    rw [Bool.not_eq_true, Bool.not_eq_false'] at isFile
    dsimp only
    cases discovered : (Config.discover tree file).result with
    | error error => exact ⟨rfl, rfl⟩
    | ok config =>
        dsimp only
        have fails : ∃ error, Project.instrumentFile tree file .methodLogger
            (config.withKeepMarker keepMarker).policy = .error error := by
          cases instrumented : Project.instrumentFile tree file .methodLogger
              (config.withKeepMarker keepMarker).policy with
          | error error => exact ⟨error, rfl⟩
          | ok found =>
              exact absurd ⟨isFile, config, discovered, instrumented⟩ (nothing found.1 found.2)
        rcases fails with ⟨error, fails⟩
        cases inPlace with
        | true =>
            rw [if_pos rfl, instrumentHere, Project.instrumentInPlace, fails]
            exact ⟨rfl, rfl⟩
        | false =>
            rw [if_neg (by simp), instrumentTo, fails]
            exact ⟨rfl, rfl⟩

/-- Carrying out the instrumenting of a file succeeds exactly if something comes of it and can be
delivered. -/
theorem isOk_executeFile_iff :
    (executeFile tree file output inPlace keepMarker).result.isOk = true ↔
      ∃ text result left, Instruments tree file keepMarker text result ∧
        delivered tree file output inPlace text result = .ok left := by
  constructor
  · intro ok
    by_contra! fails
    have something : ∃ text result, Instruments tree file keepMarker text result := by
      by_contra! nothing
      have notOk := (executeFile_of_not_instruments nothing output inPlace).2
      cases ok.symm.trans notOk
    rcases something with ⟨text, result, instruments⟩
    rcases exists_executeFile_eq instruments output inPlace with ⟨log, same⟩
    cases delivers : delivered tree file output inPlace text result with
    | ok left => exact fails text result left instruments delivers
    | error obstacle =>
        rw [same, delivers] at ok
        cases ok
  · rintro ⟨text, result, left, instruments, delivers⟩
    rcases exists_executeFile_eq instruments output inPlace with ⟨log, same⟩
    rw [same, delivers]
    rfl

/-- What comes of a file and is delivered is the tree afterwards, and what is shown. -/
theorem executeFile_of_delivered (instruments : Instruments tree file keepMarker text result)
    {left : FileTree} (delivers : delivered tree file output inPlace text result = .ok left) :
    (executeFile tree file output inPlace keepMarker).tree = left ∧
      (executeFile tree file output inPlace keepMarker).result =
        .ok (shown output inPlace result, fileReport file result) := by
  rcases exists_executeFile_eq instruments output inPlace with ⟨log, same⟩
  rw [same, delivers]
  exact ⟨rfl, rfl⟩

/-- Without success nothing changes. -/
theorem executeFile_tree_eq_of_not_isOk
    (fails : (executeFile tree file output inPlace keepMarker).result.isOk = false) :
    (executeFile tree file output inPlace keepMarker).tree = tree := by
  by_cases something : ∃ text result, Instruments tree file keepMarker text result
  · rcases something with ⟨text, result, instruments⟩
    rcases exists_executeFile_eq instruments output inPlace with ⟨log, same⟩
    rw [same] at fails ⊢
    cases delivers : delivered tree file output inPlace text result with
    | ok left => rw [delivers] at fails; cases fails
    | error obstacle => rfl
  · rw [not_exists] at something
    exact (executeFile_of_not_instruments (fun text => not_exists.mp (something text)) output
      inPlace).1

/-! ## The bytes that are left -/

theorem readBytes_of_instruments (instruments : Instruments tree file keepMarker text result) :
    tree.readBytes file = .ok text.toUTF8 := by
  rcases instruments.exists_config with ⟨config, -, instrumented⟩
  rw [Project.instrumentFile, FileTree.readText] at instrumented
  cases read : tree.readBytes file with
  | error obstacle => rw [read] at instrumented; cases instrumented
  | ok bytes =>
      rw [read] at instrumented
      dsimp only at instrumented
      cases decoded : FileTree.decode bytes with
      | error obstacle => rw [decoded] at instrumented; cases instrumented
      | ok held =>
          rw [decoded] at instrumented
          dsimp only at instrumented
          split at instrumented
          next => cases instrumented
          next =>
            cases instrumented
            rw [Project.toUTF8_of_decode decoded]

/-- In place, the text can always be delivered, and the file holds it afterwards. -/
theorem exists_delivered_inPlace (instruments : Instruments tree file keepMarker text result) :
    ∃ left, delivered tree file output true text result = .ok left ∧
      left.readBytes file = .ok result.source.toUTF8 := by
  unfold delivered
  rw [if_pos rfl]
  split
  next same => exact ⟨tree, rfl, same ▸ readBytes_of_instruments instruments⟩
  next different =>
    rcases FileTree.exists_namesEntry_of_isFile instruments.isFile with
      ⟨holder, last, names, stops, leaf⟩
    exact ⟨_, names.replace_eq result.source.toUTF8,
      names.readBytes_of_overwrites (FileTree.overwrites_put names.holds leaf) stops⟩

/-- Something new in a directory can always be written, and holds the text afterwards. -/
theorem exists_delivered_vacant {out : String} {holder : Files.Location} {last : String}
    (names : tree.NamesEntry out holder last) (free : tree.shape? (holder ++ [last]) = none)
    (text : String) (result : InstrumentedSource) :
    ∃ left, delivered tree file (some out) false text result = .ok left ∧
      left.readBytes out = .ok result.source.toUTF8 := by
  have leaf : tree.shape? (holder ++ [last]) ≠ some .directory := by
    rw [free]
    exact fun same => by cases same
  exact ⟨_, names.write_eq free result.source.toUTF8,
    names.readBytes_of_overwrites (FileTree.overwrites_put names.holds leaf)
      (FileTree.stops_of_free names.isName free)⟩

end Files

/-! ## The arguments of the three ways -/

namespace Reading

/-- The reading with one more argument that has been judged. -/
def including (reading : Reading) (argument : Argument) (value : String) : Reading :=
  { reading with
    given := reading.given ++ [(argument, value)]
    pending := none
    awaitsValue := false }

/-- Nothing is wrong with what is pending. -/
def Settles (command : Command) (reading settled : Reading) : Prop :=
  reading.settle command = (settled, none)

variable {command : Command} {reading : Reading} {argument : Argument} {flag : Flag} {value : String}

theorem settles_none (none : reading.pending = none) : Settles command reading reading := by
  rw [Settles, settle, none]

/-- An argument is taken in if it was not given before. -/
theorem insert_of_not_mem (new : argument ∉ reading.arguments) :
    take.insert command { reading with pending := none, awaitsValue := false } argument value =
      (reading.including argument value, none) := by
  rw [take.insert, if_neg]
  · rfl
  · rw [List.contains_iff_mem]
    exact new

/-- A value is taken in if there is something to it, and its argument was not given before. -/
theorem settles_value (pending : reading.pending = some ⟨argument, some value⟩)
    (present : value.isEmpty = false) (new : argument ∉ reading.arguments) :
    Settles command reading (reading.including argument value) := by
  have taken : take command reading argument (some value) =
      (reading.including argument value, none) := by
    cases argument <;> simp [take, insert_of_not_mem new, present]
  rw [Settles, settle, pending]
  exact taken

/-- An option without a value is taken in if it was not given before. -/
theorem take_flag (bare : flag.value = none) (new : .flag flag ∉ reading.arguments) :
    take command reading (.flag flag) none = (reading.including (.flag flag) "", none) := by
  simp [take, bare, insert_of_not_mem new]

end Reading

namespace Command

variable {command : Command} {reading settled : Reading} {word value name : String} {letter : Char}
  {flag : Flag} {rest : List String}

theorem readWords_nil (settles : reading.Settles command settled) :
    command.readWords reading [] = .ok settled := by
  rw [readWords, settles]

/-- A word that is no option is the operand, if there was none before. -/
theorem readWords_operand (plain : Word.ofText word = .plain) (takes : command.operand.isSome = true)
    (rest : List String) : command.readWords .start (word :: rest) =
      command.readWords ⟨[], some ⟨.operand, some word⟩, false, false, true⟩ rest := by
  simp [readWords, readWord, readValue, plain, takes, Reading.start, Reading.settle]

/-- An option without a value, by its name. -/
theorem readWords_long (looks : Word.ofText word = .long name none)
    (known : (command.allFlags.find? fun flag => flag.long == name) = some flag)
    (bare : flag.value = none) (noHelp : flag ≠ helpFlag) (words : reading.onlyValues = false)
    (settles : reading.Settles command settled) (new : .flag flag ∉ settled.arguments)
    (rest : List String) : command.readWords reading (word :: rest) =
      command.readWords (settled.including (.flag flag) "") rest := by
  have added : reading.add command (.flag flag) none = .ok (settled.including (.flag flag) "") := by
    rw [Reading.add, settles]
    dsimp only
    rw [Reading.take_flag bare new]
  simp [readWords, readWord, readLong, looks, known, bare, noHelp, words, added, interrupting]

/-- An option with a value, by its letter. -/
theorem readWords_short (looks : Word.ofText word = .short [letter])
    (known : (command.allFlags.find? fun flag => flag.short == some letter) = some flag)
    (valued : flag.value.isSome = true) (words : reading.onlyValues = false)
    (words' : settled.onlyValues = false) (settles : reading.Settles command settled)
    (plain : Word.ofText value = .plain) (rest : List String) :
    command.readWords reading (word :: value :: rest) = command.readWords
      { settled with pending := some ⟨.flag flag, some value⟩, awaitsValue := false } rest := by
  have awaits : reading.await command (.flag flag) =
      .ok { settled with pending := some ⟨.flag flag, none⟩, awaitsValue := true } := by
    rw [Reading.await, settles]
  simp [readWords, readWord, readShort, readValue, looks, known, valued, words, words', awaits, plain,
    interrupting]

end Command

/-- What tells whether to keep the markers. -/
def keepWords (keepMarker : Bool) : List String :=
  if keepMarker then ["--keep-marker"] else []

/-- The last word may tell to keep the markers. -/
theorem readWords_keepWords {reading settled : Reading} (words : reading.onlyValues = false)
    (settles : reading.Settles fileCommand settled)
    (new : .flag keepMarkerFlag ∉ settled.arguments) (keepMarker : Bool) :
    fileCommand.readWords reading (keepWords keepMarker) =
      .ok (if keepMarker then settled.including (.flag keepMarkerFlag) "" else settled) := by
  have looks : Word.ofText "--keep-marker" = .long "keep-marker" none := by decide
  cases keepMarker with
  | false => exact Command.readWords_nil settles
  | true =>
      rw [keepWords, if_pos rfl, Command.readWords_long looks (by decide) rfl (by decide) words
        settles new, Command.readWords_nil (Reading.settles_none rfl)]
      rfl

/-- What has been read is what is to be done, if nothing is missing and nothing is excluded. -/
theorem request_of_readWords {words : List String} {reading : Reading} {invocation : Invocation}
    (reads : fileCommand.readWords .start words = .ok reading)
    (passes : fileCommand.check reading = none)
    (means : fileInvocation reading = some invocation) :
    Request.ofArguments ("rewrite" :: words) = .run invocation := by
  rw [Request.ofArguments, if_neg (by decide), commandRequest, Command.request, Command.read, reads]
  dsimp only
  rw [passes]
  dsimp only
  rw [means]

/-- The words that ask for each of the three ways, for every file and output that do not look like an
option. -/
theorem ofArguments_rewrite {file out : String} (plain : Word.ofText file = .plain)
    (present : file.isEmpty = false) (plainOut : Word.ofText out = .plain)
    (presentOut : out.isEmpty = false) (keepMarker : Bool) :
    Request.ofArguments (["rewrite", file] ++ keepWords keepMarker) =
        .run (.file file none false keepMarker) ∧
      Request.ofArguments (["rewrite", file, "-o", out] ++ keepWords keepMarker) =
        .run (.file file (some out) false keepMarker) ∧
      Request.ofArguments (["rewrite", file, "--in-place"] ++ keepWords keepMarker) =
        .run (.file file none true keepMarker) := by
  let named : Reading := ⟨[], some ⟨.operand, some file⟩, false, false, true⟩
  have settles : named.Settles fileCommand (named.including .operand file) :=
    Reading.settles_value rfl present List.not_mem_nil
  have reads (rest : List String) : fileCommand.readWords .start (file :: rest) =
      fileCommand.readWords named rest :=
    Command.readWords_operand plain rfl rest
  have noFlag (flag : Flag) : .flag flag ∉ (named.including .operand file).arguments :=
    fun member => by cases List.mem_singleton.mp member
  have short : Word.ofText "-o" = .short ['o'] := by decide
  have long : Word.ofText "--in-place" = .long "in-place" none := by decide
  refine ⟨?_, ?_, ?_⟩
  · have result := (reads _).trans (readWords_keepWords rfl settles (noFlag _) keepMarker)
    cases keepMarker <;> exact request_of_readWords result rfl rfl
  · let writing : Reading :=
      { named.including .operand file with
        pending := some ⟨.flag outputFlag, some out⟩, awaitsValue := false }
    have settles' : writing.Settles fileCommand (writing.including (.flag outputFlag) out) :=
      Reading.settles_value rfl presentOut (noFlag _)
    have reads' : fileCommand.readWords named ("-o" :: out :: keepWords keepMarker) =
        fileCommand.readWords writing (keepWords keepMarker) :=
      Command.readWords_short short (by decide) rfl rfl rfl settles plainOut _
    have new : Argument.flag keepMarkerFlag ∉ [.operand, .flag outputFlag] := by decide
    have result := (reads _).trans (reads'.trans (readWords_keepWords rfl settles' new keepMarker))
    cases keepMarker <;> exact request_of_readWords result rfl rfl
  · let replacing : Reading := (named.including .operand file).including (.flag inPlaceFlag) ""
    have reads' : fileCommand.readWords named ("--in-place" :: keepWords keepMarker) =
        fileCommand.readWords replacing (keepWords keepMarker) :=
      Command.readWords_long long (by decide) rfl (by decide) rfl settles (noFlag _) _
    have settles' : replacing.Settles fileCommand replacing := Reading.settles_none rfl
    have new : Argument.flag keepMarkerFlag ∉ [.operand, .flag inPlaceFlag] := by decide
    have result := (reads _).trans (reads'.trans (readWords_keepWords rfl settles' new keepMarker))
    cases keepMarker <;> exact request_of_readWords result rfl rfl

/-! ## The three ways compared -/

/-- The three ways to deliver an instrumented text succeed together.  The file that is written and
the file that is replaced hold the same bytes then, and what is shown is the text of these bytes
without its control sequences.  It is that text itself exactly if all characters are shown. -/
theorem outputs_agree {tree : FileTree} {setting : Option String} {file out : String}
    {keepMarker : Bool} {onScreen toFile inPlace : List String}
    (showing : Request.ofArguments onScreen = .run (.file file none false keepMarker))
    (writing : Request.ofArguments toFile = .run (.file file (some out) false keepMarker))
    (replacing : Request.ofArguments inPlace = .run (.file file none true keepMarker))
    {holder : Files.Location} {last : String} (names : tree.NamesEntry out holder last)
    (free : tree.shape? (holder ++ [last]) = none) :
    ((run tree setting toFile).exitCode = 0 ↔ (run tree setting onScreen).exitCode = 0) ∧
    ((run tree setting inPlace).exitCode = 0 ↔ (run tree setting onScreen).exitCode = 0) ∧
    ((run tree setting onScreen).exitCode = 0 → ∃ source : String,
      (run tree setting toFile).tree.readBytes out = .ok source.toUTF8 ∧
      (run tree setting inPlace).tree.readBytes file = .ok source.toUTF8 ∧
      (run tree setting onScreen).output = Text.plain source ∧
      ((run tree setting onScreen).output = source ↔
        ∀ character ∈ source.toList, Text.isShown character = true)) := by
  rw [run_exitCode_eq_zero_iff showing, run_exitCode_eq_zero_iff writing,
    run_exitCode_eq_zero_iff replacing, run_tree_eq writing, run_tree_eq replacing]
  simp only [execute, isOk_executeFile_iff]
  refine ⟨⟨?_, ?_⟩, ⟨?_, ?_⟩, ?_⟩
  · rintro ⟨text, result, left, instruments, -⟩
    exact ⟨text, result, tree, instruments, rfl⟩
  · rintro ⟨text, result, left, instruments, -⟩
    rcases exists_delivered_vacant names free text result with ⟨written, delivers, -⟩
    exact ⟨text, result, written, instruments, delivers⟩
  · rintro ⟨text, result, left, instruments, -⟩
    exact ⟨text, result, tree, instruments, rfl⟩
  · rintro ⟨text, result, left, instruments, -⟩
    rcases exists_delivered_inPlace instruments with ⟨replaced, delivers, -⟩
    exact ⟨text, result, replaced, instruments, delivers⟩
  · rintro ⟨text, result, left, instruments, delivers⟩
    rcases exists_delivered_vacant names free text result with ⟨written, writes, readWritten⟩
    rcases exists_delivered_inPlace instruments with ⟨replaced, replaces, readReplaced⟩
    have output : (run tree setting onScreen).output = Text.plain result.source :=
      run_output_eq showing (executeFile_of_delivered instruments delivers).2
    rw [(executeFile_of_delivered instruments writes).1,
      (executeFile_of_delivered instruments replaces).1, output]
    exact ⟨result.source, readWritten, readReplaced, rfl, Text.plain_eq_self_iff result.source⟩

/-- A file that is instrumented, and one that is new. -/
theorem outputs_agree_marked :
    let tree : FileTree := ⟨.directory [("src", .directory [
      ("main.rs", .file "#[method_logger]\nfn main() \x7b\x7d\n".toUTF8)])], []⟩
    let onScreen := run tree none ["rewrite", "src/main.rs"]
    let toFile := run tree none ["rewrite", "src/main.rs", "-o", "src/new.rs"]
    let inPlace := run tree none ["rewrite", "--in-place", "src/main.rs"]
    onScreen.exitCode = 0 ∧ ∃ source : String,
      toFile.tree.readBytes "src/new.rs" = .ok source.toUTF8 ∧
      inPlace.tree.readBytes "src/main.rs" = .ok source.toUTF8 ∧
      onScreen.output = Text.plain source ∧
      (onScreen.output = source ↔ ∀ character ∈ source.toList, Text.isShown character = true) := by
  intro tree onScreen toFile inPlace
  have succeeds : onScreen.exitCode = 0 := by decide +kernel
  have holds : tree.shape? ["src"] = some .directory := rfl
  have names : tree.NamesEntry "src/new.rs" ["src"] "new.rs" :=
    ⟨⟨["src"], by decide, 0, Nat.zero_le _, .enter rfl (by decide) holds (by simp) (.done _)⟩,
      holds, by decide⟩
  have asks := @ofArguments_rewrite "src/main.rs" "src/new.rs" (by decide) (by decide) (by decide)
    (by decide) false
  have replacing : Request.ofArguments ["rewrite", "--in-place", "src/main.rs"] =
      .run (.file "src/main.rs" none true false) := by decide +kernel
  exact ⟨succeeds, (outputs_agree asks.1 asks.2.1 replacing names rfl).2.2 succeeds⟩

/-- A text with a control sequence in it stays as it is, and is shown without the sequence. -/
theorem not_same_bytes_sequence :
    let source := "fn main() \x7b\n    print!(\"\x1b[2J\");\n\x7d\n"
    let tree : FileTree := ⟨.directory [("main.rs", .file source.toUTF8)], []⟩
    let onScreen := run tree none ["rewrite", "main.rs"]
    let toFile := run tree none ["rewrite", "main.rs", "-o", "out.rs"]
    let inPlace := run tree none ["rewrite", "main.rs", "--in-place"]
    onScreen.exitCode = 0 ∧ toFile.exitCode = 0 ∧ inPlace.exitCode = 0 ∧
      toFile.tree.readBytes "out.rs" = .ok source.toUTF8 ∧
      inPlace.tree.readBytes "main.rs" = .ok source.toUTF8 ∧
      onScreen.output.toUTF8 ≠ source.toUTF8 := by
  decide +kernel

end CommandLine
end Instrument
