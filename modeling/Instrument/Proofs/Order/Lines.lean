import Instrument.Proofs.Order.Items
import Instrument.Proofs.Words

/-!
# The lines of landmarks

Groups in a sequence of tokens lie inside each other or apart, so a parsed file has its landmarks in
the order of the tokens.  The tokens of a text never go back to an earlier line, and a leaf is on
the line of the token it cites.  The lines of the landmarks of a parsed file therefore never
decrease.
-/

namespace Instrument

open Instrument.Parser

/-! ## Groups inside each other -/

/-- The ends of the token trees between two positions, and the ends of the groups that are closed
there but not opened: groups end behind their start, and none reaches beyond the bracket that closes
a group around it. -/
structure AreNestedFrom (start stop : Nat) (ends closed : List Nat) : Prop where
  bounds : ∀ index groupEnd, ends[index]? = some groupEnd →
    start + index < groupEnd ∧ groupEnd ≤ stop
  within : ∀ index groupEnd, ends[index]? = some groupEnd → ∀ closing ∈ closed,
    start + index < closing - 1 → groupEnd ≤ closing - 1
  nested : ∀ outer inner groupEnd innerEnd, outer < inner → ends[outer]? = some groupEnd →
    ends[inner]? = some innerEnd → start + inner < groupEnd - 1 → innerEnd ≤ groupEnd - 1
  closes : ∀ closing ∈ closed, start < closing ∧ closing ≤ stop
  ascending : closed.Pairwise (· < ·)

namespace AreNestedFrom

variable {start stop groupEnd : Nat} {ends closed closed' : List Nat}

/-- One more token in front, whose tree ends where no other tree is cut. -/
theorem cons (behind : AreNestedFrom (start + 1) stop ends closed)
    (bounds : start < groupEnd ∧ groupEnd ≤ stop)
    (around : ∀ index innerEnd, ends[index]? = some innerEnd → start + 1 + index < groupEnd - 1 →
      innerEnd ≤ groupEnd - 1)
    (within : ∀ closing ∈ closed', start < closing - 1 → groupEnd ≤ closing - 1)
    (known : ∀ closing ∈ closed', closing = start + 1 ∨ closing ∈ closed)
    (closes : ∀ closing ∈ closed', start < closing ∧ closing ≤ stop)
    (ascending : closed'.Pairwise (· < ·)) :
    AreNestedFrom start stop (groupEnd :: ends) closed' where
  bounds
    | 0, _, rfl => bounds
    | index + 1, innerEnd, found => by
        have := behind.bounds index innerEnd found
        omega
  within
    | 0, _, rfl => within
    | index + 1, innerEnd, found => by
        intro closing member inside
        rcases known closing member with rfl | member
        · omega
        · exact behind.within index innerEnd found closing member (by omega)
  nested
    | 0, inner + 1, _, innerEnd, _, rfl, found', inside =>
        around inner innerEnd found' (by omega)
    | outer + 1, inner + 1, outerEnd, innerEnd, order, found, found', inside =>
        behind.nested outer inner outerEnd innerEnd (by omega) found found' (by omega)
  closes := closes
  ascending := ascending

/-- A token that is a tree by itself. -/
theorem single (behind : AreNestedFrom (start + 1) stop ends closed) (inside : start < stop) :
    AreNestedFrom start stop ((start + 1) :: ends) closed := by
  refine behind.cons ⟨Nat.lt_succ_self _, inside⟩ ?_ ?_ (fun _ => .inr) ?_ behind.ascending
  · intro index innerEnd _ within
    omega
  · intro closing _ within
    omega
  · intro closing member
    have := behind.closes closing member
    omega

theorem ofTokens : ∀ (tokens : List Token) (start : Nat),
    AreNestedFrom start (start + tokens.length) (Source.endsFrom start tokens).1
      (Source.endsFrom start tokens).2
  | [], start => ⟨nofun, nofun, nofun, nofun, .nil⟩
  | token :: rest, start => by
      have behind := ofTokens rest (start + 1)
      have stop : start + 1 + rest.length = start + (token :: rest).length := by
        rw [List.length_cons]
        omega
      rw [stop] at behind
      have inside : start < start + (token :: rest).length := by
        rw [List.length_cons]
        omega
      rw [Source.endsFrom]
      rcases ends : Source.endsFrom (start + 1) rest with ⟨ends, closed⟩
      rw [ends] at behind
      dsimp only at behind ⊢
      split
      next =>
          refine behind.cons ⟨Nat.lt_succ_self _, inside⟩ ?_ ?_ ?_ ?_ ?_
          · intro index innerEnd _ within
            omega
          · intro closing _ within
            omega
          · exact fun closing member => List.mem_cons.mp member
          · intro closing member
            rcases List.mem_cons.mp member with rfl | member
            · exact ⟨Nat.lt_succ_self _, inside⟩
            · have := behind.closes closing member
              omega
          · exact List.pairwise_cons.mpr
              ⟨fun closing member => (behind.closes closing member).1, behind.ascending⟩
      next =>
          cases closed with
          | nil => exact behind.single inside
          | cons groupEnd outer =>
              have bounds := behind.closes groupEnd (.head _)
              have beyond := List.pairwise_cons.mp behind.ascending
              refine behind.cons (by omega) ?_ ?_ ?_ ?_ beyond.2
              · exact fun index innerEnd found within =>
                  behind.within index innerEnd found groupEnd (.head _) within
              · intro closing member _
                have := beyond.1 closing member
                omega
              · exact fun closing member => .inr (.tail _ member)
              · intro closing member
                have := behind.closes closing (.tail _ member)
                omega
      next => exact behind.single inside

end AreNestedFrom

namespace Source

variable (tokens : List Token)

theorem behindTrees_ofTokens (position : Nat) :
    behindTrees (ofTokens tokens) position 1 =
      ((endsFrom 0 tokens).1[position]?).getD (position + 1) := by
  simp [behindTrees, ofTokens]

theorem exists_behindTrees (position : Nat) :
    (endsFrom 0 tokens).1[position]? = some (behindTrees (ofTokens tokens) position 1) ∨
      behindTrees (ofTokens tokens) position 1 = position + 1 := by
  rw [behindTrees_ofTokens]
  cases (endsFrom 0 tokens).1[position]? with
  | none => exact .inr rfl
  | some groupEnd => exact .inl rfl

instance isNested : (ofTokens tokens).IsNested where
  lt_behindTrees position := by
    rcases exists_behindTrees tokens position with found | same
    · have := ((AreNestedFrom.ofTokens tokens 0).bounds _ _ found).1
      omega
    · omega
  behindTrees_le outer inner order inside := by
    rcases exists_behindTrees tokens outer with found | same
    · rcases exists_behindTrees tokens inner with found' | same'
      · exact (AreNestedFrom.ofTokens tokens 0).nested _ _ _ _ order found found' (by omega)
      · omega
    · omega

/-- No group goes beyond the last token. -/
theorem confines_ofTokens :
    (ofTokens tokens).Confines ⟨0, (ofTokens tokens).tokens.size, none⟩ := by
  intro position _ inside
  have size : (ofTokens tokens).tokens.size = tokens.length := List.size_toArray
  dsimp only at inside ⊢
  rw [size] at inside ⊢
  rcases exists_behindTrees tokens position with found | same
  · have := ((AreNestedFrom.ofTokens tokens 0).bounds _ _ found).2
    omega
  · omega

end Source

/-! ## Lines of tokens -/

namespace Lexer

/-- Everything that is found at the front of a text is on its first line. -/
theorem line_of_step? {opened : List Delimiter} {line : Nat} {characters : List Char} {step : Step}
    (found : step? opened line characters = some step) :
    ∀ token ∈ step.tokens, token.line = line := by
  unfold step? at found
  split at found
  next => cases found
  next first rest =>
      repeat' split at found
      all_goals cases found
      next => exact nofun
      next => exact nofun
      next comment _ =>
          intro token member
          rcases List.mem_map.mp member with ⟨lexeme, _, rfl⟩
          rfl
      all_goals
        intro token member
        rw [List.mem_singleton.mp member]

/-- The tokens of a text never go back to an earlier line. -/
theorem lines_scanFrom {fuel line : Nat} {opened : List Delimiter} {characters : List Char}
    {tokens : List Token} (scanned : scanFrom fuel opened line characters = some tokens) :
    (∀ token ∈ tokens, line ≤ token.line) ∧
      tokens.Pairwise fun first second => first.line ≤ second.line := by
  refine scan_induction (motive := fun line _ tokens => (∀ token ∈ tokens, line ≤ token.line) ∧
    tokens.Pairwise fun first second => first.line ≤ second.line) (fun _ => ⟨nofun, .nil⟩)
    (fun opened line characters step behind found later => ?_) scanned
  have here := line_of_step? found
  have beyond (token : Token) (member : token ∈ behind) : line ≤ token.line :=
    Nat.le_trans (Nat.le_add_right _ _) (later.1 token member)
  refine ⟨fun token member => ?_, List.pairwise_append.mpr ⟨?_, later.2, ?_⟩⟩
  · rcases List.mem_append.mp member with member | member
    · exact Nat.le_of_eq (here token member).symm
    · exact beyond token member
  · refine List.pairwise_of_forall_mem_list fun first inFront second inFront' => ?_
    exact Nat.le_of_eq ((here first inFront).trans (here second inFront').symm)
  · intro first inFront second member
    rw [here first inFront]
    exact beyond second member

theorem lines_tokens? {text : String} {tokens : List Token} (found : tokens? text = some tokens) :
    tokens.Pairwise fun first second => first.line ≤ second.line :=
  (lines_scanFrom found).2

end Lexer

/-! ## Lines of landmarks -/

namespace Tree

variable {α β : Type}

theorem keyword_map (change : α → β) (signature : Tree α) :
    (signature.map change).keyword = signature.keyword.map change := by
  cases signature with
  | leaf value => rfl
  | node kind parts =>
      rw [map_node]
      cases kind <;> try rfl
      change (parts.map (map change)).getD 4 .absent = (parts.getD 4 .absent).map change
      rw [List.getD_eq_getElem?_getD, List.getD_eq_getElem?_getD, List.getElem?_map]
      cases parts[4]? <;> rfl

theorem ownLandmark_map (change : α → β) (kind : Kind) (parts : List (Tree α)) :
    ownLandmark kind (parts.map (map change)) = (ownLandmark kind parts).map (map change) := by
  cases kind <;> try rfl
  all_goals
    rcases parts with _ | ⟨_, _ | ⟨_, _ | ⟨_, _ | ⟨_, _ | ⟨_, _ | ⟨_, _ | ⟨_, _⟩⟩⟩⟩⟩⟩⟩ <;>
      first
      | rfl
      | exact congrArg (fun keyword => [keyword]) (keyword_map change _)

theorem behindFirst_map {γ δ : Type} (change : γ → δ) (kind : Kind) (own : List γ)
    (parts : List (List γ)) :
    behindFirst kind (own.map change) (parts.map (List.map change)) =
      (behindFirst kind own parts).map change := by
  cases parts with
  | nil => rfl
  | cons first rest =>
      rw [List.map_cons, behindFirst, behindFirst, Kind.restInSource_map, List.map_append,
        List.map_append, List.map_flatten]
      cases kind.isOperator <;> rfl

/-- Landmarks depend on nothing but kinds and places in the tree. -/
theorem landmarks_map (change : α → β) (tree : Tree α) :
    (tree.map change).landmarks = tree.landmarks.map (map change) := by
  induction tree using Tree.induction with
  | leaf value => rfl
  | node kind parts inductionHypothesis =>
      rw [map_node, landmarks, landmarks]
      cases kind.isLifetime with
      | true => rfl
      | false =>
          rw [if_neg Bool.false_ne_true, if_neg Bool.false_ne_true, ownLandmark_map,
            landmarksOfParts_eq_map, landmarksOfParts_eq_map, ← behindFirst_map, List.map_map,
            List.map_map]
          exact congrArg _ (List.map_congr_left inductionHypothesis)

end Tree

namespace Citation

theorem line_token (source : Source) (citation : Citation) :
    (citation.token source).line = (source.tokens.getD citation.position nothing).line := by
  cases citation <;> rfl

end Citation

namespace Tree

/-- The line of a landmark is that of the token at its place. -/
theorem line_map_token (source : Source) {tree : Node}
    (inside : source.place tree < source.tokens.size) :
    (tree.map (Citation.token source)).line =
      (source.tokens.getD (source.place tree) Citation.nothing).line := by
  cases tree with
  | leaf citation => exact citation.line_token source
  | node kind parts => exact absurd inside (Nat.lt_irrefl _)

end Tree

namespace Source

/-- Later tokens are on later lines, or on the same one. -/
theorem line_mono {tokens : List Token} (rising : tokens.Pairwise fun first second =>
      first.line ≤ second.line) {first second : Nat} (order : first < second)
    (inside : second < (ofTokens tokens).tokens.size) :
    ((ofTokens tokens).tokens.getD first Citation.nothing).line ≤
      ((ofTokens tokens).tokens.getD second Citation.nothing).line := by
  have size : (ofTokens tokens).tokens.size = tokens.length := List.size_toArray
  rw [size] at inside
  have present : first < tokens.length := Nat.lt_trans order inside
  simpa [ofTokens, Array.getD_eq_getD_getElem?, present, inside] using
    List.pairwise_iff_getElem.mp rising first second present inside order

end Source

/-- The lines of the landmarks of a parsed file never decrease. -/
theorem SourceFile.lines_landmarks {text : String} {file : SourceFile}
    (parsed : SourceFile.parse text = .ok file) :
    (file.tree.landmarks.map Tree.line).Pairwise (· ≤ ·) := by
  rcases exists_tokens_of_parse parsed with ⟨program, tokens, tree, _, found, cited, same⟩
  let source := Source.ofTokens tokens
  have places := source.rising_places_of_cite (Source.confines_ofTokens tokens) cited
  have inside (landmark : Node) (member : landmark ∈ tree.landmarks) :
      source.place landmark < source.tokens.size :=
    places.2 _ (List.mem_map_of_mem member)
  have lines : file.tree.landmarks.map Tree.line = (source.places tree).map fun place =>
      (source.tokens.getD place Citation.nothing).line := by
    rw [same, Tree.landmarks_map, List.map_map, Source.places, List.map_map]
    exact List.map_congr_left fun landmark member => Tree.line_map_token source (inside _ member)
  rw [lines, List.pairwise_map]
  refine places.1.imp_of_mem fun {first second} member member' order => ?_
  exact Source.line_mono (Lexer.lines_tokens? found) order (places.2 second member')

end Instrument
