import Instrument.Project.InPlace
import Instrument.Proofs.Changed
import Instrument.Proofs.Files.Writing
import Instrument.Proofs.Heading
import Instrument.Proofs.Runs
import Instrument.Proofs.Unmentioned

/-!
# Instrumenting a text a second time

Where markers are removed, a second pass has nothing to do.  For the trees this is a fact about the
tags alone; for texts the tree of the second pass is what the printed text is read as.  All that is
asked of the printed text is that it reads back with the tagged declarations that were printed, and
it is asked only if the first pass changed something.  A text that was handed back is the one that
was read, so there is nothing to ask.
-/

namespace Instrument

/-- What tells one tagged declaration from another, wherever it stands. -/
def TaggedDeclaration.description (declaration : TaggedDeclaration) : String × Bool :=
  (declaration.name, declaration.hasBody)

/-- A printed file reads back: its text parses, and to a tree with the same tagged declarations. -/
def ReadsBack (kind : MarkerKind) (printed : SourceFile) : Prop :=
  ∃ file, SourceFile.parseProgram printed.text = .ok file ∧
    (kind.scan file.tree).tagged.map TaggedDeclaration.description =
      (kind.scan printed.tree).tagged.map TaggedDeclaration.description

/-- Whether a file reads back is found out by parsing its text. -/
instance (kind : MarkerKind) (printed : SourceFile) : Decidable (ReadsBack kind printed) :=
  match parsed : SourceFile.parseProgram printed.text with
  | .ok file =>
    decidable_of_iff ((kind.scan file.tree).tagged.map TaggedDeclaration.description =
        (kind.scan printed.tree).tagged.map TaggedDeclaration.description)
      ⟨fun same => ⟨file, parsed, same⟩, fun ⟨_, parsed', same⟩ => by
        cases parsed.symm.trans parsed'
        exact same⟩
  | .error _ => isFalse fun ⟨_, parsed', _⟩ => by cases parsed.symm.trans parsed'

section Reports

variable (kind : MarkerKind) (policy : MarkerPolicy)

theorem map_name_filter_hasBody (hasBody : Bool) (listed : List TaggedDeclaration) :
    (listed.filter fun declaration => declaration.hasBody == hasBody).map
        (fun declaration => declaration.name) =
      ((listed.map TaggedDeclaration.description).filter fun described =>
        described.2 == hasBody).map Prod.fst := by
  rw [List.filter_map, List.map_map]
  rfl

/-- What is reported of a file follows from how its tagged declarations are described. -/
theorem reported_of_description_eq {first second : SourceFile}
    (same : (kind.scan first.tree).tagged.map TaggedDeclaration.description =
      (kind.scan second.tree).tagged.map TaggedDeclaration.description) :
    (first.instrument kind policy).instrumented = (second.instrument kind policy).instrumented ∧
      (first.instrument kind policy).skipped = (second.instrument kind policy).skipped := by
  have read (hasBody : Bool) :
      (declared none first.tree).filterMap (Instrumentation.taggedName? kind hasBody) =
        (declared none second.tree).filterMap (Instrumentation.taggedName? kind hasBody) := by
    rw [← Scan.map_name_filter_tagged, ← Scan.map_name_filter_tagged, map_name_filter_hasBody,
      map_name_filter_hasBody, same]
  constructor
  · exact (Instrumentation.instrumentedNames_outcomes kind policy none first.tree).trans
      ((read true).trans
        (Instrumentation.instrumentedNames_outcomes kind policy none second.tree).symm)
  · exact (Instrumentation.skippedNames_outcomes kind policy none first.tree).trans
      ((read false).trans
        (Instrumentation.skippedNames_outcomes kind policy none second.tree).symm)

/-- Where markers were removed, there is nothing left to be instrumented, and the same is
skipped. -/
theorem reported_of_strip (file : SourceFile) :
    let stripped := (file.instrument kind .strip).file
    (stripped.instrument kind policy).instrumented = [] ∧
      (stripped.instrument kind policy).skipped = (file.instrument kind .strip).skipped := by
  intro stripped
  have outcomes := Instrumentation.outcomes_step_of_strip kind [.strip] policy file
    (Instrumentation.lastingPolicy_strip_cons [])
  constructor
  · exact (congrArg Instrumentation.instrumentedNames outcomes).trans
      (Instrumentation.instrumentedNames_filter_isSkipped _)
  · exact Instrumentation.skipped_step kind [.strip] policy .strip file

end Reports

/-! ## Texts -/

section Texts

variable {kind : MarkerKind} {policy : MarkerPolicy} {source : String}

/-- A text is handed back as it is if nothing in it is to be instrumented. -/
theorem instrumentSource_of_instrumented_eq_nil {file : SourceFile}
    (parsed : SourceFile.parseProgram source = .ok file)
    (nothing : (file.instrument kind policy).instrumented = []) :
    instrumentSource kind policy source =
      .ok ⟨source, (file.instrument kind policy).outcomes⟩ := by
  have unchanged := (file.instrument kind policy).changed_eq_false_iff.mpr nothing
  rw [instrumentSource, parsed]
  dsimp only
  rw [instrumentParsed, InstrumentedFile.render?, unchanged]
  rfl

/-- What an instrumented text was made of: it was parsed, and what came of it was handed back or
printed. -/
theorem exists_of_instrumentSource {result : InstrumentedSource}
    (instrumented : instrumentSource kind policy source = .ok result) :
    ∃ file, SourceFile.parseProgram source = .ok file ∧
      result.outcomes = (file.instrument kind policy).outcomes ∧
      ((file.instrument kind policy).changed = false ∧ result.source = source ∨
        (file.instrument kind policy).changed = true ∧
          result.source = (file.instrument kind policy).file.text) := by
  unfold instrumentSource at instrumented
  split at instrumented
  next file parsed =>
      refine ⟨file, parsed, ?_⟩
      unfold instrumentParsed InstrumentedFile.render? at instrumented
      dsimp only at instrumented
      cases changed : (file.instrument kind policy).changed with
      | false =>
          rw [changed] at instrumented
          cases instrumented
          exact ⟨rfl, .inl ⟨rfl, rfl⟩⟩
      | true =>
          rw [changed, if_pos rfl] at instrumented
          split at instrumented
          next found =>
              split at found
              next =>
                  cases found
                  cases instrumented
                  exact ⟨rfl, .inr ⟨rfl, rfl⟩⟩
              next => cases found
          next => cases instrumented
  next => cases instrumented

/-- A text of which markers were removed is read as a file in which there is nothing left to be
instrumented, and in which the same is skipped. -/
theorem exists_parsed_again {first : InstrumentedSource}
    (instrumented : instrumentSource kind .strip source = .ok first)
    (readsBack : ∀ file, SourceFile.parseProgram source = .ok file →
      (file.instrument kind .strip).changed = true →
        ReadsBack kind (file.instrument kind .strip).file) (policy : MarkerPolicy) :
    ∃ again, SourceFile.parseProgram first.source = .ok again ∧
      (again.instrument kind policy).instrumented = [] ∧
      (again.instrument kind policy).skipped = first.skipped := by
  rcases exists_of_instrumentSource instrumented with ⟨file, parsed, outcomes, ends⟩
  have skipped : first.skipped = (file.instrument kind .strip).skipped :=
    congrArg Instrumentation.skippedNames outcomes
  rw [skipped]
  rcases ends with ⟨unchanged, same⟩ | ⟨changed, printed⟩
  · -- The text was handed back, so it is read as the same file.
    have nothing := (InstrumentedFile.changed_eq_false_iff _).mp unchanged
    have still := (InstrumentedFile.file_eq_iff kind .strip file).mpr nothing
    have reported := reported_of_strip kind policy file
    rw [still] at reported
    exact ⟨file, same ▸ parsed, reported⟩
  · rcases readsBack file parsed changed with ⟨again, parsedAgain, described⟩
    have reported := reported_of_description_eq kind policy described
    have stripped := reported_of_strip kind policy file
    exact ⟨again, printed ▸ parsedAgain, reported.1.trans stripped.1,
      reported.2.trans stripped.2⟩

end Texts

/-! ## Files -/

namespace Project

open Files (FileTree)

variable {tree : FileTree} {path source : String}

theorem readBytes_of_readText (read : tree.readText path = .ok source) :
    tree.readBytes path = .ok source.toUTF8 := by
  unfold FileTree.readText at read
  split at read
  next => cases read
  next content found => rw [found, toUTF8_of_decode read]

theorem isFile_of_readText (read : tree.readText path = .ok source) :
    tree.isFile path = true := by
  have bytes := readBytes_of_readText read
  unfold FileTree.readBytes FileTree.readBytesFrom at bytes
  split at bytes
  next => cases bytes
  next entry found =>
      unfold FileTree.content at bytes
      split at bytes
      next content =>
          rw [FileTree.isFile, FileTree.entry, found]
          rfl
      next => cases bytes

theorem readText_of_readBytes (read : tree.readBytes path = .ok source.toUTF8) :
    tree.readText path = .ok source := by
  rw [FileTree.readText, read]
  exact decode_toUTF8 source

/-- What comes of the text of a file can be put in its place, and is what the file holds then. -/
theorem exists_instrumentInPlace_eq {kind : MarkerKind} {policy : MarkerPolicy}
    {result : InstrumentedSource} (read : tree.readText path = .ok source)
    (instrumented : instrumentSource kind policy source = .ok result) :
    ∃ left, instrumentInPlace tree path kind policy =
        ⟨left, outcomeEvents result.outcomes, .ok result⟩ ∧
      left.readText path = .ok result.source ∧
      (result.source = source → left = tree) := by
  rw [instrumentInPlace, instrumentFile, read]
  dsimp only
  rw [instrumented]
  dsimp only
  split
  next same => exact ⟨tree, rfl, same ▸ read, fun _ => rfl⟩
  next different =>
      rcases FileTree.exists_namesEntry_of_isFile (isFile_of_readText read) with
        ⟨holder, last, names, stops, leaf⟩
      rw [names.replace_eq result.source.toUTF8]
      refine ⟨_, rfl, readText_of_readBytes ?_, fun same => absurd same different⟩
      exact names.readBytes_of_overwrites (FileTree.overwrites_put names.holds leaf) stops

end Project

/-- Once the markers of a text were removed, instrumenting what came of it changes nothing, under
either policy: the text is handed back, nothing is instrumented, and the same is skipped.  It has to
be known of the printer that what it printed reads back, if it printed anything.  A file that was
instrumented in its place is not touched the second time. -/
theorem instrumentSource_again {kind : MarkerKind} {source : String} {first : InstrumentedSource}
    (instrumented : instrumentSource kind .strip source = .ok first)
    (readsBack : ∀ file, SourceFile.parseProgram source = .ok file →
      (file.instrument kind .strip).changed = true →
        ReadsBack kind (file.instrument kind .strip).file)
    (policy : MarkerPolicy) :
    ∃ second, instrumentSource kind policy first.source = .ok second ∧
      second.source = first.source ∧ second.instrumented = [] ∧
      second.skipped = first.skipped ∧
      ∀ (tree : Files.FileTree) (path : String), tree.readText path = .ok source →
        let once := Project.instrumentInPlace tree path kind .strip
        let twice := Project.instrumentInPlace once.tree path kind policy
        once.result = .ok first ∧ twice.result = .ok second ∧ twice.tree = once.tree := by
  rcases exists_parsed_again instrumented readsBack policy with ⟨again, parsed, nothing, skipped⟩
  have unchanged := instrumentSource_of_instrumented_eq_nil parsed nothing
  refine ⟨_, unchanged, rfl, nothing, skipped, fun tree path read => ?_⟩
  rcases Project.exists_instrumentInPlace_eq read instrumented with ⟨left, once, readLeft, -⟩
  rcases Project.exists_instrumentInPlace_eq readLeft unchanged with ⟨left', twice, -, same⟩
  dsimp only
  rw [once, twice]
  exact ⟨rfl, rfl, same rfl⟩

/-- A text with a tagged function that is instrumented and one that has no body, and a file that
holds it. -/
theorem instrumentSource_again_bodiless :
    let source := "#[method_logger]\nfn main() \x7b\x7d\n\n" ++
      "extern \"C\" \x7b\n    #[method_logger]\n    fn tick();\n\x7d\n"
    let tree : Files.FileTree := ⟨.directory [("main.rs", .file source.toUTF8)], []⟩
    let once := Project.instrumentInPlace tree "main.rs" .methodLogger .strip
    let twice := Project.instrumentInPlace once.tree "main.rs" .methodLogger .retain
    ∃ first second, instrumentSource .methodLogger .strip source = .ok first ∧
      instrumentSource .methodLogger .retain first.source = .ok second ∧
      first.instrumented = ["main"] ∧ first.skipped = ["tick"] ∧
      second.source = first.source ∧ second.instrumented = [] ∧ second.skipped = ["tick"] ∧
      twice.tree = once.tree := by
  intro source tree once twice
  have reports : (instrumentSource .methodLogger .strip source).toOption.any (fun result =>
      decide (result.instrumented = ["main"] ∧ result.skipped = ["tick"])) = true := by
    decide +kernel
  have readsBack : (SourceFile.parseProgram source).toOption.all (fun file =>
      decide (ReadsBack .methodLogger (file.instrument .methodLogger .strip).file)) = true := by
    decide +kernel
  obtain ⟨first, instrumented, reports⟩ := exists_ok_of_any reports
  obtain ⟨names, skipped⟩ := of_decide_eq_true reports
  obtain ⟨second, again, same, nothing, skippedAgain, inPlace⟩ :=
    instrumentSource_again instrumented (fun file parsed _ => by
      rw [parsed] at readsBack
      exact of_decide_eq_true readsBack) .retain
  have read : tree.readText "main.rs" = .ok source := by
    refine Project.readText_of_readBytes ?_
    rfl
  exact ⟨first, second, instrumented, again, names, skipped, same, nothing,
    skippedAgain.trans skipped, (inPlace tree "main.rs" read).2.2⟩

end Instrument
