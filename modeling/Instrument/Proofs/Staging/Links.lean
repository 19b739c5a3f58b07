import Instrument.Proofs.Staging.Counterparts
import Instrument.Proofs.Staging.Runaways

/-!
# Ways back into the output

The output may lie inside the project.  Staging leaves it out by its place: the walk does not take
in the names that lead from the root of the project straight to the output.  A link may lead there
all the same, under other names.  So an entry that is visited lies in the output only if the walk
has come to it over a link that leads to the output, to something in it, or to a directory above it;
without such a link, staging never visits what it has made itself, but only what was there before.

If no rules apply, a walk that has come to the output itself does not get to its end.  So of staging
that succeeds only links to something in the output remain, which lead nowhere at first.
-/

namespace Instrument

namespace Files.FileTree

variable {tree : FileTree} {links : Nat} {here location : Location}

/-- A path of names leads straight down. -/
def IsStraight (tree : FileTree) (here : Location) (path : List String) : Prop :=
  ∀ above, above <+: path → ∃ links, tree.Leads links here above (here ++ above)

theorem isStraight_nil (tree : FileTree) (here : Location) : tree.IsStraight here [] := by
  intro above within
  cases List.prefix_nil.mp within
  rw [List.append_nil]
  exact ⟨0, .done here⟩

/-- A link on the way of a path is the last one if names lead straight on from where the link leads
to. -/
structure IsLastLink (tree : FileTree) (here : Location) (path : List String)
    (location target : Location) : Prop where
  exists_parts : ∃ front name rest between text, path = front ++ name :: rest ∧
    (∃ links, tree.Leads links here front between) ∧
    tree.shape? (between ++ [name]) = some (.link text) ∧
    (∃ links, tree.Leads links between [name] target) ∧
    tree.IsStraight target rest ∧ location = target ++ rest

theorem IsLastLink.cons {name : String} {rest : List String} {between target : Location}
    (first : tree.Leads links here [name] between)
    (last : tree.IsLastLink between rest location target) :
    tree.IsLastLink here (name :: rest) location target := by
  rcases last.exists_parts with
    ⟨front, other, behind, holder, text, rfl, ⟨used, before⟩, found, jumps, straight, rfl⟩
  exact ⟨name :: front, other, behind, holder, text, rfl, ⟨_, first.append before⟩, found, jumps,
    straight, rfl⟩

/-- Names lead straight down, unless there is a link on the way. -/
theorem isStraight_or_isLastLink {path : List String}
    (isNames : ∀ name ∈ path, isEntryName name = true)
    (leads : tree.Leads links here path location) :
    (tree.IsStraight here path ∧ location = here ++ path) ∨
      ∃ target, tree.IsLastLink here path location target := by
  induction path generalizing here links with
  | nil =>
      cases leads
      exact .inl ⟨isStraight_nil tree _, (List.append_nil _).symm⟩
  | cons name rest inductionHypothesis =>
      have parts : tree.Leads links here ([name] ++ rest) location := leads
      rcases exists_of_leads_append parts with ⟨between, used, used', -, first, further⟩
      rcases inductionHypothesis (fun other member => isNames other (.tail _ member)) further with
        ⟨straight, rfl⟩ | ⟨target, last⟩
      · rcases first.enters_or_jumps (isNames name (.head _)) with
          ⟨shape, -, -, there⟩ | ⟨target, used'', found, -, -⟩
        · cases there
          refine .inl ⟨fun above within => ?_, List.append_assoc _ _ _⟩
          cases above with
          | nil => exact isStraight_nil tree here [] List.prefix_rfl
          | cons other above =>
              rcases List.cons_prefix_cons.mp within with ⟨rfl, behind⟩
              rcases straight above behind with ⟨links, leads⟩
              rw [List.append_cons]
              exact ⟨_, first.append leads⟩
        · exact .inr ⟨between, [], name, rest, here, target, rfl, ⟨_, .done here⟩, found,
            ⟨_, first⟩, straight, rfl⟩
      · exact .inr ⟨target, last.cons first⟩

/-- A part of the path behind the last link leads straight on from where the link leads to. -/
theorem IsLastLink.exists_prefix {path : List String} {target : Location}
    (last : tree.IsLastLink here path location target) {out : Location}
    (above : target <+: out) (below : out <+: location) :
    ∃ front, front <+: path ∧ front ≠ [] ∧ ∃ links, tree.Leads links here front out := by
  rcases last.exists_parts with
    ⟨front, name, rest, between, text, rfl, ⟨used, before⟩, -, ⟨used', jumps⟩, straight, rfl⟩
  rcases above with ⟨more, rfl⟩
  have within := (List.prefix_append_right_inj target).mp below
  rcases straight more within with ⟨used'', further⟩
  refine ⟨front ++ name :: more, ?_, by simp, _, before.append (jumps.append further)⟩
  exact (List.prefix_append_right_inj front).mpr (List.cons_prefix_cons.mpr ⟨rfl, within⟩)

end Files.FileTree

namespace Project

open Files (Entry FileTree Location Shape)
open Walk (Step Visit)

variable {kind : MarkerKind} {policy : MarkerPolicy}

section Steps

variable {made : FileTree} {location outLocation found : Location} {step : Step}

/-- What a step visits is where its names lead to.  It lies in the output only if the last link on
the way leads to the output, to something in it, or to a directory above it. -/
theorem exists_of_mem_stagingSteps (sound : made.IsSound)
    (holds : made.shape? location = some .directory) (outside : ¬ outLocation <+: location)
    (member : step ∈ stagingSteps kind policy made location outLocation) :
    ∃ found, (∃ links, step.tree.Leads links location step.visit.path found) ∧
      (outLocation <+: found → ∃ target,
        step.tree.IsLastLink location step.visit.path found target ∧
          (outLocation <+: target ∨ target <+: outLocation)) := by
  rcases (traces_stageFrom sound holds).exists_of_mem member with ⟨-, found, comes⟩
  refine ⟨found, comes.leads, fun output => ?_⟩
  rcases comes.leads with ⟨links, leads⟩
  rcases FileTree.isStraight_or_isLastLink comes.isEntryNames leads with
    ⟨-, rfl⟩ | ⟨target, last⟩
  · exact absurd output (not_prefix_of_admits outside comes.admitted)
  · refine ⟨target, last, ?_⟩
    -- What is found lies below both, so one of them lies below the other.
    rcases last.exists_parts with ⟨front, name, rest, between, text, -, -, -, -, -, rfl⟩
    exact List.prefix_or_prefix_of_prefix output (List.prefix_append target rest)

/-- What a step visits outside of the output was there from the start. -/
theorem shape?_of_mem_stagingSteps (sound : made.IsSound)
    (holds : made.shape? location = some .directory)
    (empty : made.at? outLocation = some (.directory []))
    (member : step ∈ stagingSteps kind policy made location outLocation)
    (leads : ∃ links, step.tree.Leads links location step.visit.path found)
    (outside : ¬ outLocation <+: found) :
    made.shape? found ≠ none ∧ step.tree.shape? found = made.shape? found := by
  rcases (traces_stageFrom sound holds).exists_of_mem member with ⟨⟨steps, traces⟩, -⟩
  have same : step.tree.shape? found = made.shape? found := by
    by_contra changed
    rcases traces.exists_step_of_isLinkFree (FileTree.isLinkFree_of_empty empty) changed with
      ⟨_, -, -, rfl⟩
    exact outside (List.prefix_append _ _)
  rcases leads with ⟨links, leads⟩
  rcases leads.exists_shape? (traces.keeps.directories _ holds) with ⟨shape, there⟩
  exact ⟨same ▸ there ▸ Option.some_ne_none shape, same⟩

/-- Staging that succeeds without rules visits something in the output only over a link to something
in it. -/
theorem exists_link_of_isOk (sound : made.IsSound)
    (holds : made.shape? location = some .directory) (outside : ¬ outLocation <+: location)
    (empty : made.at? outLocation = some (.directory [])) (noRules : Ignore.HasNoRules made)
    (ok : (stageFrom made location outLocation kind policy).result.isOk = true)
    (member : step ∈ stagingSteps kind policy made location outLocation)
    (leads : ∃ links, step.tree.Leads links location step.visit.path found)
    (output : outLocation <+: found) :
    ∃ target, step.tree.IsLastLink location step.visit.path found target ∧
      outLocation <+: target ∧ target ≠ outLocation := by
  rcases exists_of_mem_stagingSteps sound holds outside member with ⟨found', leads', inOutput⟩
  rcases leads with ⟨links, leads⟩
  rcases leads' with ⟨links', leads'⟩
  cases leads'.unique leads
  rcases inOutput output with ⟨target, last, ways⟩
  have notAbove : ¬ target <+: outLocation := by
    intro above
    rcases last.exists_prefix above output with ⟨front, within, inside, _, reached⟩
    rcases allBypass_of_isOk sound holds empty noRules ok step member front within inside with
      ⟨other, ⟨_, reached'⟩, away⟩
    exact away (reached'.unique reached)
  rcases ways with below | above
  · exact ⟨target, last, below, fun same => notAbove (same ▸ List.prefix_rfl)⟩
  · exact absurd above notAbove

end Steps

/-- An entry that staging visits is where its names lead to from the root of the project, in the tree
as it is by then.  It lies in the output only if the last link on the way leads to the output, to
something in it, or to a directory above it.  If the output is empty at first, everything else that is
visited was there before; whatever staging makes below the output, it makes for a visit; and if no
rules apply and staging succeeds, it has come into the output only over links to something in it. -/
theorem exists_link_of_visit_in_output {tree made : FileTree} {root out : String}
    {location outLocation : Location} (sound : tree.IsSound)
    (holds : made.shape? location = some .directory)
    (makes : tree.makeDirectories out = (.ok (), made))
    (reached : made.resolve root = .ok location) (reached' : made.resolve out = .ok outLocation)
    (inside : location <+: outLocation) (proper : location ≠ outLocation) :
    (∀ step ∈ stagingSteps kind policy made location outLocation, ∃ found,
      (∃ links, step.tree.Leads links location step.visit.path found) ∧
        (outLocation <+: found → ∃ target,
          step.tree.IsLastLink location step.visit.path found target ∧
            (outLocation <+: target ∨ target <+: outLocation))) ∧
    (made.at? outLocation = some (.directory []) →
      (∀ step ∈ stagingSteps kind policy made location outLocation, ∀ found,
        (∃ links, step.tree.Leads links location step.visit.path found) →
        ¬ outLocation <+: found →
          made.shape? found ≠ none ∧ step.tree.shape? found = made.shape? found) ∧
      (∀ path shape,
        (stage tree root out kind policy).tree.shape? (outLocation ++ path) = some shape →
        made.shape? (outLocation ++ path) ≠ some shape →
        ∃ step ∈ stagingSteps kind policy made location outLocation, step.visit.path = path) ∧
      (Ignore.HasNoRules made → (stage tree root out kind policy).result.isOk = true →
        ∀ step ∈ stagingSteps kind policy made location outLocation, ∀ found,
          (∃ links, step.tree.Leads links location step.visit.path found) →
          outLocation <+: found → ∃ target,
            step.tree.IsLastLink location step.visit.path found target ∧
              outLocation <+: target ∧ target ≠ outLocation)) := by
  have grows := FileTree.growsTo_of_makeDirectories makes
  have sound' := grows.sound sound
  have outside : ¬ outLocation <+: location := fun output =>
    proper (inside.eq_of_length_le output.length_le)
  refine ⟨fun step member => exists_of_mem_stagingSteps sound' holds outside member, fun empty =>
    ⟨fun step member found => shape?_of_mem_stagingSteps sound' holds empty member, ?_, ?_⟩⟩
  · intro path shape found new
    rcases @stage_cases kind policy tree root out with ⟨-, same | same⟩ |
      ⟨made', location', outLocation', -, -, makes', reachedRoot, reachedOut, same⟩
    · rw [same] at found
      exact absurd (grows.keeps _ _ found) new
    · rw [same, makes] at found
      exact absurd found new
    · cases makes.symm.trans makes'
      cases reached.symm.trans reachedRoot
      cases reached'.symm.trans reachedOut
      rw [same] at found
      have changed : (stageFrom made location outLocation kind policy).tree.shape?
          (outLocation ++ path) ≠ made.shape? (outLocation ++ path) := by
        rw [found]
        exact new.symm
      rcases (traces_stageFrom sound' holds).exists_step_of_isLinkFree
        (FileTree.isLinkFree_of_empty empty) changed with ⟨step, member, -, same⟩
      exact ⟨step, member, (List.append_cancel_left same).symm⟩
  · intro noRules ok step member found leads output
    rcases @stage_cases kind policy tree root out with ⟨fails, -⟩ |
      ⟨made', location', outLocation', -, -, makes', reachedRoot, reachedOut, same⟩
    · cases fails.symm.trans ok
    · cases makes.symm.trans makes'
      cases reached.symm.trans reachedRoot
      cases reached'.symm.trans reachedOut
      rw [same] at ok
      exact exists_link_of_isOk sound' holds outside empty noRules ok member leads output

/-- A project with a link to one of its own directories and one to something that is being staged. -/
theorem exists_link_of_visit_in_output_nested :
    let project := Entry.directory [("a.txt", .file "b".toUTF8), ("again", .link "out/a.txt"),
      ("z", .link "src"), ("src", .directory [("b.txt", .file "b".toUTF8)])]
    let tree : FileTree := ⟨.directory [("proj", project)], []⟩
    let made := (tree.makeDirectories "proj/out").2
    let steps := stagingSteps .methodLogger .strip made ["proj"] ["proj", "out"]
    steps.length = 7 ∧ ∀ step ∈ steps, ∀ found,
      (∃ links, step.tree.Leads links ["proj"] step.visit.path found) →
      ["proj", "out"] <+: found → ∃ target,
        step.tree.IsLastLink ["proj"] step.visit.path found target ∧
          ["proj", "out"] <+: target ∧ target ≠ ["proj", "out"] := by
  intro project tree made steps
  have sound : tree.IsSound := ⟨Entry.isSound_of_all (by decide +kernel), rfl⟩
  have succeeds : (tree.makeDirectories "proj/out").1 = .ok () := by decide +kernel
  have makes := FileTree.makeDirectories_of_fst succeeds
  have holds : made.shape? ["proj"] = some .directory :=
    FileTree.shape?_of_isDirectory (by decide +kernel)
  have reached : made.resolve "proj/out" = .ok ["proj", "out"] := by decide +kernel
  have absent : (tree.resolve "proj/out").isOk = false := by decide +kernel
  have fresh : tree.IsFresh "proj/out" := FileTree.isFresh_of_not_mem (by decide +kernel)
  have empty := FileTree.at?_of_makeDirectories fresh
    (fun location found => by rw [found] at absent; cases absent) makes reached
  have result := @exists_link_of_visit_in_output .methodLogger .strip tree made "proj" "proj/out"
    ["proj"] ["proj", "out"] sound holds makes (by decide +kernel) reached (by decide) (by decide)
  have noRules : Ignore.HasNoRules made := Ignore.hasNoRules_of_all (by decide +kernel)
  exact ⟨by decide +kernel, (result.2 empty).2.2 noRules (by decide +kernel)⟩

/-- A link into the output is visited like the directory it leads to, and gets a counterpart there.
The rules keep what is in it from being visited as well. -/
theorem visits_output_by_link :
    let tree : FileTree := ⟨.directory [("proj", .directory [("z", .link "out"),
      (".ignore", .file "/z/*\n".toUTF8), ("a.txt", .file "b".toUTF8)])], []⟩
    let changed := stage tree "proj" "proj/out" .methodLogger .strip
    tree.isPresent "proj/out" = false ∧ changed.result.isOk = true ∧
      (changed.tree.shape? ["proj", "out", "z"]).isSome = true ∧
      changed.tree.resolve "proj/z" = .ok ["proj", "out"] := by
  decide +kernel

end Project
end Instrument
