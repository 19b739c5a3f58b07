import Instrument.Proofs.Heading
import Instrument.Proofs.Printing

/-!
# The words of a parsed file

Every token but those of a documentation comment is cut out of the text.  Such a comment stands for
an attribute, and its only word is followed by an equals sign.  A parsed tree has no words of its
own: each of its leaves is a token of the text or is made of marks and digits.
-/

namespace Instrument

/-! ## From the text to the tokens -/

namespace Lexer

open Text Token

/-- Every word among the tokens stands in the text, or is the name of a documentation attribute and
followed by its equals sign. -/
inductive Spelled (text : List Char) : List Token → Prop
  | nil : Spelled text []
  | other {token : Token} {rest : List Token} (noWord : ∀ word, token.lexeme ≠ .word word)
      (behind : Spelled text rest) : Spelled text (token :: rest)
  | word {word : String} {line : Nat} {rest : List Token} (inside : word.toList <:+: text)
      (behind : Spelled text rest) : Spelled text (⟨.word word, line⟩ :: rest)
  | doc {line line' : Nat} {joint : Bool} {rest : List Token}
      (behind : Spelled text (⟨.mark "=" joint, line'⟩ :: rest)) :
      Spelled text (⟨.word "doc", line⟩ :: ⟨.mark "=" joint, line'⟩ :: rest)

namespace Spelled

variable {text : List Char}

theorem append {first second : List Token} (spelled : Spelled text first)
    (spelled' : Spelled text second) : Spelled text (first ++ second) := by
  induction spelled with
  | nil => exact spelled'
  | other noWord _ inductionHypothesis => exact .other noWord inductionHypothesis
  | word inside _ inductionHypothesis => exact .word inside inductionHypothesis
  | doc _ inductionHypothesis => exact .doc inductionHypothesis

theorem mono {whole : List Char} {tokens : List Token} (inside : text <:+: whole)
    (spelled : Spelled text tokens) : Spelled whole tokens := by
  induction spelled with
  | nil => exact .nil
  | other noWord _ inductionHypothesis => exact .other noWord inductionHypothesis
  | word inside' _ inductionHypothesis => exact .word (inside'.trans inside) inductionHypothesis
  | doc _ inductionHypothesis => exact .doc inductionHypothesis

theorem at_position {tokens : List Token} (spelled : Spelled text tokens) {position line : Nat}
    {word : String} (found : tokens[position]? = some ⟨.word word, line⟩) :
    word.toList <:+: text ∨
      word = "doc" ∧ ∃ joint line', tokens[position + 1]? = some ⟨.mark "=" joint, line'⟩ := by
  induction spelled generalizing position with
  | nil => cases found
  | other noWord _ inductionHypothesis =>
      cases position with
      | zero =>
          cases found
          exact absurd rfl (noWord word)
      | succ position => exact inductionHypothesis found
  | word inside _ inductionHypothesis =>
      cases position with
      | zero =>
          cases found
          exact .inl inside
      | succ position => exact inductionHypothesis found
  | @doc _ line' joint _ _ inductionHypothesis =>
      cases position with
      | zero =>
          cases found
          exact .inr ⟨rfl, joint, line', rfl⟩
      | succ position => exact inductionHypothesis found

end Spelled

theorem spelled_docTokens (text : List Char) (comment : DocComment) (line : Nat) :
    Spelled text (docTokens comment line) := by
  have named : Spelled text
      (([.opening .bracket, .word "doc", .mark "=" false,
        .literal (stringLiteral (String.ofList comment.content)), .closing .bracket] :
          List Lexeme).map fun lexeme => ⟨lexeme, line⟩) :=
    .other nofun (.doc (.other nofun (.other nofun (.other nofun .nil))))
  unfold docTokens
  cases comment.isInner with
  | true => exact .other nofun (.other nofun named)
  | false => exact .other nofun named

theorem spelled_lexeme {characters : List Char} (form : Form) (used : Nat) (rest : List Char)
    (line : Nat) :
    Spelled characters [⟨lexeme form (String.ofList (characters.take used)) rest, line⟩] := by
  cases form with
  | word =>
      refine .word ?_ .nil
      rw [String.toList_ofList]
      exact (List.take_prefix used characters).isInfix
  | _ => exact .other nofun .nil

theorem spelled_step? {opened : List Delimiter} {line : Nat} {characters : List Char} {step : Step}
    (found : step? opened line characters = some step) : Spelled characters step.tokens := by
  unfold step? at found
  split at found
  next => cases found
  next first rest =>
      repeat' split at found
      all_goals cases found
      next => exact .nil
      next => exact .nil
      next comment _ => exact spelled_docTokens _ comment line
      next => exact .other nofun .nil
      next => exact .other nofun .nil
      next form rest' _ => exact spelled_lexeme form _ rest' line

theorem spelled_scanFrom {fuel line : Nat} {opened : List Delimiter} {characters : List Char}
    {tokens : List Token} (scanned : scanFrom fuel opened line characters = some tokens) :
    Spelled characters tokens := by
  refine scan_induction (motive := fun _ characters tokens => Spelled characters tokens)
    (fun _ => .nil) (fun opened line characters step behind found inside => ?_) scanned
  have within := (List.drop_suffix step.used characters).isInfix
  exact (spelled_step? found).append (inside.mono within)

theorem withoutMark_isSuffix (characters : List Char) : withoutMark characters <:+ characters := by
  cases characters with
  | nil => exact List.suffix_rfl
  | cons first rest =>
      change (if first == byteOrderMark then rest else first :: rest) <:+ first :: rest
      split
      · exact List.suffix_cons first rest
      · exact List.suffix_rfl

theorem spelled_tokens? {text : String} {tokens : List Token} (found : tokens? text = some tokens) :
    Spelled text.toList tokens :=
  (spelled_scanFrom found).mono (withoutMark_isSuffix text.toList).isInfix

end Lexer

/-! ## From the tokens to the tree -/

namespace Tree

variable {α β : Type}

theorem mapParts_eq_map (change : α → β) (parts : List (Tree α)) :
    mapParts change parts = parts.map (map change) := by
  induction parts with
  | nil => rfl
  | cons part rest inductionHypothesis => rw [mapParts, inductionHypothesis, List.map_cons]

@[simp] theorem map_leaf (change : α → β) (value : α) :
    map change (.leaf value) = .leaf (change value) :=
  map.eq_1 change value

@[simp] theorem map_node (change : α → β) (kind : Kind) (parts : List (Tree α)) :
    map change (.node kind parts) = .node kind (parts.map (map change)) := by
  rw [map, mapParts_eq_map]

theorem map_eq_leaf {change : α → β} {tree : Tree α} {value : β}
    (same : tree.map change = .leaf value) : ∃ original, tree = .leaf original ∧
      change original = value := by
  cases tree with
  | leaf original =>
      rw [map_leaf] at same
      cases same
      exact ⟨original, rfl, rfl⟩
  | node kind parts =>
      rw [map_node] at same
      cases same

theorem map_eq_node {change : α → β} {tree : Tree α} {kind : Kind} {parts : List (Tree β)}
    (same : tree.map change = .node kind parts) :
    ∃ originals, tree = .node kind originals ∧ originals.map (map change) = parts := by
  cases tree with
  | leaf original =>
      rw [map_leaf] at same
      cases same
  | node kind originals =>
      rw [map_node] at same
      cases same
      exact ⟨originals, rfl, rfl⟩

theorem IsSubtree.trans {first second third : Tree α} (within : first.IsSubtree second)
    (within' : second.IsSubtree third) : first.IsSubtree third := by
  induction within' with
  | refl => exact within
  | inside member _ inductionHypothesis => exact .inside member inductionHypothesis

/-- A subtree of a changed tree is a changed subtree. -/
theorem IsSubtree.of_map {change : α → β} {tree : Tree α} {inside : Tree β}
    (within : inside.IsSubtree (tree.map change)) :
    ∃ original : Tree α, original.IsSubtree tree ∧ original.map change = inside := by
  induction tree using Tree.induction with
  | leaf value => 
      rw [map_leaf] at within
      cases within
      exact ⟨.leaf value, .refl _, map_leaf change value⟩
  | node kind parts inductionHypothesis =>
      rw [map_node] at within
      cases within with
      | refl => exact ⟨.node kind parts, .refl _, map_node change kind parts⟩
      | inside member within =>
          rcases List.mem_map.mp member with ⟨part, inside, rfl⟩
          rcases inductionHypothesis part inside within with ⟨original, deeper, same⟩
          exact ⟨original, .inside inside deeper, same⟩

@[simp] theorem isLeaf_map (change : α → β) (tree : Tree α) :
    (tree.map change).isLeaf = tree.isLeaf := by
  cases tree <;> rfl

theorem elements_map (change : α → β) (tree : Tree α) :
    (tree.map change).elements = tree.elements.map (map change) := by
  cases tree with
  | leaf value => rfl
  | node kind parts =>
      rw [map_node]
      cases kind
      case sequence =>
          rw [elements, elements, List.filter_map]
          simp only [Function.comp_def, isLeaf_map]
      all_goals rfl

end Tree

namespace Citation

/-- A cited word is a token of the source. -/
theorem word_of_token {tokens : List Token} {citation : Citation} {word : String} {line : Nat}
    (same : citation.token (Source.ofTokens tokens) = ⟨.word word, line⟩) :
    ∃ position, (citation = .read position ∨ citation = .kept position) ∧
      tokens[position]? = some ⟨.word word, line⟩ := by
  have cited {position : Nat} {token : Token}
      (here : (Source.ofTokens tokens).tokens.getD position nothing = token)
      (lexeme : token.lexeme = .word word) : tokens[position]? = some token := by
    rw [Source.ofTokens, Array.getD_eq_getD_getElem?, List.getElem?_toArray] at here
    cases found : tokens[position]? with
    | some other =>
        rw [found] at here
        exact congrArg some here
    | none =>
        rw [found] at here
        subst here
        cases lexeme
  cases citation with
  | read position =>
      refine ⟨position, .inl rfl, ?_⟩
      rcases here : (Source.ofTokens tokens).tokens.getD position nothing with ⟨lexeme, line'⟩
      have alone : Token.mk lexeme.alone line' = ⟨.word word, line⟩ := by
        rw [← same, token, here]
        rfl
      cases lexeme <;> cases alone
      exact cited here rfl
  | kept position => exact ⟨position, .inr rfl, cited same rfl⟩
  | _ => cases same

end Citation

namespace SourceFile

open Lexer

theorem isSuffix_splitShebang (characters : List Char) :
    (splitShebang characters).2 <:+ characters := by
  unfold splitShebang
  split
  next rest =>
      split
      next => exact List.suffix_rfl
      next => exact List.dropWhile_suffix _
  next => exact List.suffix_rfl

/-- A parsed file is a tree that cites the tokens of a part of the text. -/
theorem exists_tokens_of_parse {text : String} {file : SourceFile} (parsed : parse text = .ok file) :
    ∃ (program : List Char) (tokens : List Token) (tree : Node), program <:+ text.toList ∧
      tokens? (String.ofList program) = some tokens ∧
      Grammar.cite Grammar.file (Source.ofTokens tokens) = .ok tree ∧
      file.tree = tree.map (Citation.token (Source.ofTokens tokens)) := by
  rcases heading : splitShebang (withoutMark text.toList) with ⟨shebang, program⟩
  have inside : program <:+ text.toList := by
    have := isSuffix_splitShebang (withoutMark text.toList)
    rw [heading] at this
    exact this.trans (withoutMark_isSuffix text.toList)
  rw [parse_eq heading] at parsed
  unfold parseProgram Grammar.parseText at parsed
  cases found : tokens? (String.ofList program) with
  | none =>
      rw [found] at parsed
      cases parsed
  | some tokens =>
      rw [found] at parsed
      dsimp only at parsed
      cases read : Grammar.parseTokens Grammar.file tokens with
      | error failure =>
          rw [read] at parsed
          cases parsed
      | ok whole =>
          rw [read] at parsed
          cases parsed
          obtain ⟨tree, cited, same⟩ := Grammar.parseTokens_eq_ok_iff.mp read
          exact ⟨program, tokens, tree, inside, found, cited, same⟩

/-- All words of the tokens that a parsed file cites stand in the text of the file. -/
theorem exists_cite_of_parse {text : String} {file : SourceFile} (parsed : parse text = .ok file) :
    ∃ (tokens : List Token) (tree : Node), Spelled text.toList tokens ∧
      Grammar.cite Grammar.file (Source.ofTokens tokens) = .ok tree ∧
      file.tree = tree.map (Citation.token (Source.ofTokens tokens)) := by
  rcases exists_tokens_of_parse parsed with ⟨program, tokens, tree, inside, found, cited, same⟩
  refine ⟨tokens, tree, ?_, cited, same⟩
  have spelled := spelled_tokens? found
  rw [String.toList_ofList] at spelled
  exact spelled.mono inside.isInfix

end SourceFile
end Instrument
