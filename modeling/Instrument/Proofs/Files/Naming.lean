import Instrument.Proofs.Files.Following

/-!
# Paths as text, and where they lead

Taking the text of a path apart gives back the names it was put together from, so a location written
as a path leads to itself.  The names of a path are its pieces without some that stay where they
are.
-/

namespace Instrument
namespace Files

/-! ## Pieces -/

theorem splitAtSlashes_append {piece : List Char} (plain : '/' ∉ piece) (rest : List Char) :
    splitAtSlashes (piece ++ '/' :: rest) = piece :: splitAtSlashes rest := by
  induction piece with
  | nil => rfl
  | cons first piece inductionHypothesis =>
      rw [List.mem_cons, not_or] at plain
      rw [List.cons_append, splitAtSlashes, inductionHypothesis plain.2]
      exact fun slash => plain.1 slash.symm

theorem splitAtSlashes_of_plain {piece : List Char} (plain : '/' ∉ piece) :
    splitAtSlashes piece = [piece] := by
  induction piece with
  | nil => rfl
  | cons first piece inductionHypothesis =>
      rw [List.mem_cons, not_or] at plain
      rw [splitAtSlashes, inductionHypothesis plain.2]
      exact fun slash => plain.1 slash.symm

theorem plain_of_mem_splitAtSlashes {text piece : List Char}
    (member : piece ∈ splitAtSlashes text) : '/' ∉ piece := by
  fun_induction splitAtSlashes text generalizing piece with
  | case1 =>
      cases List.mem_singleton.mp member
      exact List.not_mem_nil
  | case2 rest inductionHypothesis =>
      rcases List.mem_cons.mp member with rfl | member
      · exact List.not_mem_nil
      · exact inductionHypothesis member
  | case3 first rest notSlash next more same inductionHypothesis =>
      rcases List.mem_cons.mp member with rfl | member
      · rw [List.mem_cons, not_or]
        refine ⟨fun slash => notSlash slash.symm, inductionHypothesis ?_⟩
        rw [same]
        exact .head _
      · refine inductionHypothesis ?_
        rw [same]
        exact .tail _ member
  | case4 first rest notSlash same inductionHypothesis =>
      cases List.mem_singleton.mp member
      rw [List.mem_singleton]
      exact fun slash => notSlash slash.symm

theorem pieces_ne_nil (path : String) : pieces path ≠ [] := by
  rw [pieces, ne_eq, List.map_eq_nil_iff]
  fun_cases splitAtSlashes path.toList <;> simp_all

theorem plain_of_mem_pieces {path piece : String} (member : piece ∈ pieces path) :
    '/' ∉ piece.toList := by
  rcases List.mem_map.mp member with ⟨written, within, rfl⟩
  rw [String.toList_ofList]
  exact plain_of_mem_splitAtSlashes within

theorem pieces_relativeText {path : List String} (inside : path ≠ [])
    (plain : ∀ name ∈ path, '/' ∉ name.toList) : pieces (relativeText path) = path := by
  induction path with
  | nil => exact absurd rfl inside
  | cons name path inductionHypothesis =>
      have first := plain name (.head _)
      cases path with
      | nil =>
          rw [relativeText, String.intercalate_singleton, pieces, splitAtSlashes_of_plain first]
          simp
      | cons next path =>
          have rest := inductionHypothesis (List.cons_ne_nil _ _)
            (fun name member => plain name (.tail _ member))
          rw [relativeText, pieces] at rest
          rw [relativeText, String.intercalate_cons_cons, pieces, String.toList_append,
            String.toList_append, List.append_assoc]
          change List.map _ (splitAtSlashes (name.toList ++ '/' :: String.toList _)) = _
          rw [splitAtSlashes_append first, List.map_cons, rest, String.ofList_toList]

theorem pieces_absoluteText (path : List String) :
    pieces (absoluteText path) = "" :: pieces (relativeText path) := by
  rw [absoluteText, pieces, String.toList_append]
  rfl

theorem isAbsolute_absoluteText (path : List String) : isAbsolute (absoluteText path) = true := by
  rw [absoluteText, isAbsolute, String.toList_append]
  rfl

theorem absoluteText_ne_dash (path : List String) : absoluteText path ≠ "-" := by
  intro same
  have absolute := isAbsolute_absoluteText path
  rw [same] at absolute
  exact absurd absolute (by decide)

/-! ## Names -/

namespace FileTree.Shortens

theorem names (path : String) : Shortens (pieces path) (names path) := by
  have byDots (rest : List String) : Shortens rest (rest.filter (· != ".")) :=
    filter (fun piece dropped => .inr (by simpa using dropped)) rest
  have byBlanks (rest : List String) : Shortens rest (rest.filter (· != "")) :=
    filter (fun piece dropped => .inl (by simpa using dropped)) rest
  rw [Files.names]
  cases pieces path with
  | nil => exact .nil
  | cons first rest => exact (Shortens.keep first (byDots rest)).trans (byBlanks _)

end FileTree.Shortens

theorem blank_not_mem_names (path : String) : "" ∉ names path := by
  rw [names]
  cases pieces path with
  | nil => exact List.not_mem_nil
  | cons first rest => simp

theorem dot_not_mem_tail_names (path : String) : "." ∉ (names path).tail := by
  rw [names]
  cases pieces path with
  | nil => exact List.not_mem_nil
  | cons first rest =>
      dsimp only
      rw [List.filter_cons]
      split
      next => simp
      next =>
        intro member
        have member := List.mem_of_mem_tail member
        simp at member

theorem mem_pieces_of_mem_names {path name : String} (member : name ∈ names path) :
    name ∈ pieces path := by
  rw [names] at member
  cases same : pieces path with
  | nil => rw [same] at member; cases member
  | cons first rest =>
      rw [same] at member
      rcases List.mem_cons.mp (List.mem_filter.mp member).1 with rfl | member
      · exact .head _
      · exact .tail _ (List.mem_filter.mp member).1

/-- The names of a path behind a number of its pieces are among the further pieces. -/
theorem exists_names_append {path : String} {front rest : List String}
    (same : pieces path = front ++ rest) :
    ∃ front' rest', names path = front' ++ rest' ∧ FileTree.Shortens front front' ∧
      ∀ name ∈ rest', name ∈ rest := by
  cases front with
  | nil =>
      refine ⟨[], names path, rfl, .nil, fun name member => ?_⟩
      rw [List.nil_append] at same
      exact same ▸ mem_pieces_of_mem_names member
  | cons first front =>
      refine ⟨(first :: front.filter (· != ".")).filter (· != ""),
        (rest.filter (· != ".")).filter (· != ""), ?_, ?_, ?_⟩
      · rw [names, same, List.cons_append]
        simp only [List.filter_cons, List.filter_append]
        split <;> rfl
      · exact (FileTree.Shortens.keep first (.filter (fun piece dropped =>
          .inr (by simpa using dropped)) front)).trans
            (.filter (fun piece dropped => .inl (by simpa using dropped)) _)
      · intro name member
        exact (List.mem_filter.mp (List.mem_filter.mp member).1).1

/-! ## Locations as paths -/

namespace FileTree

variable {tree : FileTree} {location : Location}

/-- The location of a directory, written as a path, leads to it. -/
theorem resolve_absoluteText (sound : tree.IsSound)
    (holds : tree.shape? location = some .directory) :
    tree.resolve (absoluteText location) = .ok location := by
  have root : tree.shape? [] = some .directory := by
    cases location with
    | nil => exact holds
    | cons name rest => exact shape?_append_cons holds
  have present : (absoluteText location).isEmpty = false := by
    rw [absoluteText]
    simp
  rw [resolve, resolveFrom, present, if_neg (by simp), startOf, isAbsolute_absoluteText,
    if_pos rfl, pieces_absoluteText]
  suffices leads : tree.Leads 0 [] (pieces (relativeText location)) location from
    follow_of_leads (.stay root (.inl rfl) leads) (Nat.zero_le _)
  cases location with
  | nil => exact .stay root (.inl rfl) (.done _)
  | cons name rest =>
      rw [pieces_relativeText (List.cons_ne_nil _ _)]
      · exact leads_names [] sound holds (fun _ same => by cases same)
      · intro piece member
        rcases List.append_of_mem member with ⟨before, behind, same⟩
        rw [same] at holds
        exact (isName_of_shape? sound holds).2

end FileTree
end Files
end Instrument
