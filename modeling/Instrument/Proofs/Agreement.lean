import Instrument.Proofs.Traversal

/-!
# What a scan promises

A scan and an instrumentation are separate passes over a file.  The first one lists the tagged
declarations and tells which of them have a body; the second one reports what became of each.  The
two lists are the same list: what is listed with a body is what is instrumented, and what is listed
without one is what is skipped, under the same names and in the same order.
-/

namespace Instrument

/-- The tagged declarations that a scan lists with a body are those that are instrumented, and those
that it lists without one are those that are skipped. -/
theorem scan_tagged_eq_reported (kind : MarkerKind) (policy : MarkerPolicy) (file : SourceFile) :
    let listed := (kind.scan file.tree).tagged
    let result := file.instrument kind policy
    (listed.filter fun declaration => declaration.hasBody).map (fun declaration =>
        declaration.name) = result.instrumented ∧
      (listed.filter fun declaration => !declaration.hasBody).map (fun declaration =>
        declaration.name) = result.skipped := by
  intro listed result
  have withBody := Scan.map_name_filter_tagged kind true file.tree
  have withoutBody := Scan.map_name_filter_tagged kind false file.tree
  simp only [beq_true] at withBody
  simp only [beq_false] at withoutBody
  constructor
  · have reported := Instrumentation.instrumentedNames_outcomes kind policy none file.tree
    exact withBody.trans reported.symm
  · have reported := Instrumentation.skippedNames_outcomes kind policy none file.tree
    exact withoutBody.trans reported.symm

end Instrument
