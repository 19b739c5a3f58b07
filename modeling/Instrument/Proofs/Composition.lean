import Instrument.Proofs.Treatment

/-!
# Treating a tree twice

What a treatment does to a node and what it does inside the node can be done in either order.  This
is what makes two treatments in a row a matter of one node at a time.  If the first treatment keeps
the markers, the second one meets the same declarations, and both together are one treatment.  If
the first one removes them, nothing is tagged any more that has a body, and the second one does
nothing.
-/

namespace Instrument

/-! ## Bodies -/

/-- A block of statements, which is what the body of a declaration has to be. -/
def IsBody (tree : Tree Token) : Prop :=
  ∃ opening statements closing,
    tree = .node .block [opening, .node .sequence statements, closing]

theorem hasBody_iff (declaration : Declaration) :
    declaration.hasBody = true ↔ IsBody declaration.body := by
  rw [Declaration.hasBody, Declaration.statements?]
  constructor
  · intro found
    split at found
    next opening statements closing equal => exact ⟨opening, statements, closing, equal⟩
    next => cases found
  · rintro ⟨opening, statements, closing, equal⟩
    rw [equal]
    rfl

theorem onBody_of_not_isBody (treatment : Treatment) (tree : Tree Token)
    (notBody : ¬ IsBody tree) : treatment.onBody tree = tree := by
  unfold Treatment.onBody
  split
  next opening statements closing => exact absurd ⟨opening, statements, closing, rfl⟩ notBody
  next => rfl

theorem isBody_onBody_iff (treatment : Treatment) (tree : Tree Token) :
    IsBody (treatment.onBody tree) ↔ IsBody tree := by
  by_cases body : IsBody tree
  · obtain ⟨opening, statements, closing, rfl⟩ := body
    exact ⟨fun _ => ⟨opening, statements, closing, rfl⟩,
      fun _ => ⟨opening, treatment.statements statements, closing, rfl⟩⟩
  · rw [onBody_of_not_isBody treatment tree body]

section Inside

variable (kind : MarkerKind) (treatment : Treatment)

theorem isBody_treat_iff (tree : Tree Token) :
    IsBody (treat kind treatment tree) ↔ IsBody tree := by
  constructor
  · rintro ⟨opening, statements, closing, equal⟩
    cases tree with
    | leaf token => cases equal
    | node node parts =>
        have same : node = .block := by
          rw [treat_node] at equal
          exact (Tree.node.inj equal).1
        subst node
        rw [treat_node_of_not_callable kind treatment .block parts rfl] at equal
        have places := (Tree.node.inj equal).2
        have three : parts.length = 3 := by
          simpa only [List.length_map, List.length_cons, List.length_nil] using
            congrArg List.length places
        obtain ⟨first, middle, last, rfl⟩ := List.length_eq_three.mp three
        have atMiddle := (List.cons.inj (List.cons.inj places).2).1
        cases middle with
        | leaf token => cases atMiddle
        | node inner inside =>
            rw [treat_node] at atMiddle
            have innerSame : inner = .sequence := (Tree.node.inj atMiddle).1
            subst inner
            exact ⟨first, inside, last, rfl⟩
  · rintro ⟨opening, statements, closing, rfl⟩
    rw [treat_node_of_not_callable kind treatment .block _ rfl]
    exact ⟨treat kind treatment opening, statements.map (treat kind treatment),
      treat kind treatment closing, by rw [← treat_sequence]; rfl⟩

@[simp] theorem hasBody_treatInside (declaration : Declaration) :
    (treatInside kind treatment declaration).hasBody = declaration.hasBody := by
  rw [Bool.eq_iff_iff, hasBody_iff, hasBody_iff]
  exact isBody_treat_iff kind treatment declaration.body

/-! ## A node and what is inside it -/

theorem onBody_treat (other : Treatment) (body : Tree Token) :
    other.onBody (treat kind treatment body) = treat kind treatment (other.onBody body) := by
  by_cases block : IsBody body
  · obtain ⟨opening, statements, closing, rfl⟩ := block
    have fixed := treat_of_isQuiet kind treatment Diagnostic.statement isQuiet_statement
    rw [Treatment.onBody, treat_node_of_not_callable kind treatment .block _ rfl,
      treat_node_of_not_callable kind treatment .block _ rfl]
    simp only [List.map_cons, List.map_nil, treat_sequence, Treatment.onBody,
      other.natural _ statements fixed]
  · have block' := mt (isBody_treat_iff kind treatment body).mp block
    rw [onBody_of_not_isBody other _ block, onBody_of_not_isBody other _ block']

theorem apply_treat (policy : MarkerPolicy) (asked : MarkerKind) (attributes : Tree Token) :
    policy.apply asked (treat kind treatment attributes) =
      treat kind treatment (policy.apply asked attributes) := by
  cases attributes with
  | leaf token => rfl
  | node node parts =>
      cases node with
      | sequence =>
          rw [treat_sequence]
          cases policy with
          | retain => exact (treat_sequence kind treatment parts).symm
          | strip =>
              rw [MarkerPolicy.apply, MarkerPolicy.apply, treat_sequence, MarkerKind.strip,
                MarkerKind.strip, List.filter_map]
              congr 2
              exact List.filter_congr fun candidate _ => by
                rw [Function.comp_apply, isMarker_treat]
      | _ => rw [treat_node]; exact (treat_node kind treatment _ parts).symm

/-- A treatment of the parts of a node commutes with any treatment inside them. -/
theorem onParts_map_treat (other : Treatment) (asked : MarkerKind) (parts : List (Tree Token)) :
    other.onParts asked (parts.map (treat kind treatment)) =
      (other.onParts asked parts).map (treat kind treatment) := by
  match parts with
  | [] | [_] | [_, _] | [_, _, _] | [_, _, _, _] | [_, _, _, _, _] => rfl
  | [outer, inner, visibility, mode, signature, body] =>
      simp only [List.map_cons, List.map_nil, Treatment.onParts, apply_treat, onBody_treat]
  | _ :: _ :: _ :: _ :: _ :: _ :: _ :: _ => rfl

end Inside

/-! ## What a treated declaration is -/

/-- Attributes as a policy leaves them. -/
def MarkerPolicy.leaves (policy : MarkerPolicy) (kind : MarkerKind)
    (attributes : List (Tree Token)) : List (Tree Token) :=
  match policy with
  | .strip => kind.strip attributes
  | .retain => attributes

theorem elements_apply (policy : MarkerPolicy) (kind : MarkerKind) (attributes : Tree Token) :
    (policy.apply kind attributes).elements = policy.leaves kind attributes.elements := by
  cases policy with
  | retain =>
      unfold MarkerPolicy.apply
      split <;> rfl
  | strip =>
      unfold MarkerPolicy.apply
      split
      next parts => exact List.filter_comm _ _ parts
      next notSequence =>
          cases attributes with
          | leaf token => rfl
          | node node parts =>
              rw [Tree.elements_of_ne_sequence node parts fun same =>
                notSequence parts (same ▸ rfl)]
              rfl

section Layer

variable (treatment : Treatment) (kind : MarkerKind)

/-- A declaration behind the treatment of itself. -/
def Treatment.onDeclaration (declaration : Declaration) : Declaration :=
  { declaration with
    outer := treatment.policy.apply kind declaration.outer
    inner := treatment.policy.apply kind declaration.inner
    body := treatment.onBody declaration.body }

theorem ofParts?_onParts (node : Kind) (parts : List (Tree Token)) :
    Declaration.ofParts? node (treatment.onParts kind parts) =
      (Declaration.ofParts? node parts).map (treatment.onDeclaration kind) := by
  unfold Declaration.ofParts?
  cases Callable.ofKind? node with
  | none => rfl
  | some callable =>
      match parts with
      | [] | [_] | [_, _] | [_, _, _] | [_, _, _, _] | [_, _, _, _, _] => rfl
      | [outer, inner, visibility, mode, signature, body] => rfl
      | _ :: _ :: _ :: _ :: _ :: _ :: _ :: _ => rfl

theorem attributes_onDeclaration (declaration : Declaration) :
    (treatment.onDeclaration kind declaration).attributes =
      treatment.policy.leaves kind declaration.attributes := by
  rw [Declaration.attributes, Declaration.attributes, Treatment.onDeclaration, elements_apply,
    elements_apply]
  cases treatment.policy with
  | retain => rfl
  | strip => exact (List.filter_append _ _).symm

@[simp] theorem hasBody_onDeclaration (declaration : Declaration) :
    (treatment.onDeclaration kind declaration).hasBody = declaration.hasBody := by
  rw [Bool.eq_iff_iff, hasBody_iff, hasBody_iff]
  exact isBody_onBody_iff treatment declaration.body

theorem isTagged_onDeclaration_retain (retains : treatment.policy = .retain)
    (asked : MarkerKind) (declaration : Declaration) :
    (treatment.onDeclaration kind declaration).isTagged asked = declaration.isTagged asked := by
  rw [Declaration.isTagged, Declaration.isMarked, attributes_onDeclaration, retains]
  rfl

theorem isMarked_onDeclaration_strip (strips : treatment.policy = .strip)
    (declaration : Declaration) :
    (treatment.onDeclaration kind declaration).isMarked kind = false := by
  rw [Declaration.isMarked, attributes_onDeclaration, strips, List.any_eq_false]
  intro candidate member
  have kept := (List.mem_filter.mp member).2
  simpa only [Bool.not_eq_true', Bool.not_eq_true] using kept

theorem isTagged_onDeclaration_strip (strips : treatment.policy = .strip)
    (declaration : Declaration) :
    (treatment.onDeclaration kind declaration).isTagged kind = false := by
  rw [Declaration.isTagged, isMarked_onDeclaration_strip treatment kind strips, Bool.and_false]

end Layer

/-! ## Which nodes a second treatment meets -/

section Second

variable (kind : MarkerKind) (treatment : Treatment)

/-- Everything inside a node can be treated without changing whether the node itself is to be. -/
theorem changesNode_map_treat (asked : MarkerKind) (node : Kind) (parts : List (Tree Token)) :
    Instrumentation.changesNode asked node (parts.map (treat kind treatment)) =
      Instrumentation.changesNode asked node parts := by
  rw [Instrumentation.changesNode, ofParts?_map_treat, Instrumentation.changesNode]
  cases Declaration.ofParts? node parts with
  | none => rfl
  | some declaration =>
      simp only [Option.map_some, Instrumentation.isInstrumented, isTagged_treatInside,
        hasBody_treatInside]

theorem changesNode_onParts_retain (retains : treatment.policy = .retain) (asked : MarkerKind)
    (node : Kind) (parts : List (Tree Token)) :
    Instrumentation.changesNode asked node (treatment.onParts kind parts) =
      Instrumentation.changesNode asked node parts := by
  rw [Instrumentation.changesNode, ofParts?_onParts, Instrumentation.changesNode]
  cases Declaration.ofParts? node parts with
  | none => rfl
  | some declaration =>
      simp only [Option.map_some, Instrumentation.isInstrumented, hasBody_onDeclaration,
        isTagged_onDeclaration_retain treatment kind retains]

theorem changesNode_onParts_strip (strips : treatment.policy = .strip)
    (node : Kind) (parts : List (Tree Token)) :
    Instrumentation.changesNode kind node (treatment.onParts kind parts) = false := by
  rw [Instrumentation.changesNode, ofParts?_onParts]
  cases Declaration.ofParts? node parts with
  | none => rfl
  | some declaration =>
      simp only [Option.map_some, Instrumentation.isInstrumented,
        isTagged_onDeclaration_strip treatment kind strips, Bool.false_and]

end Second

/-! ## Two treatments in a row -/

section Twice

variable (kind : MarkerKind) (first second : Treatment)

theorem onBody_onBody (body : Tree Token) :
    second.onBody (first.onBody body) = (second.after first).onBody body := by
  by_cases block : IsBody body
  · obtain ⟨opening, statements, closing, rfl⟩ := block
    rfl
  · rw [onBody_of_not_isBody first body block, onBody_of_not_isBody second body block,
      onBody_of_not_isBody (second.after first) body block]

theorem apply_retain (attributes : Tree Token) :
    MarkerPolicy.retain.apply kind attributes = attributes := by
  unfold MarkerPolicy.apply
  split <;> rfl

theorem onParts_onParts (retains : first.policy = .retain) (parts : List (Tree Token)) :
    second.onParts kind (first.onParts kind parts) = (second.after first).onParts kind parts := by
  match parts with
  | [] | [_] | [_, _] | [_, _, _] | [_, _, _, _] | [_, _, _, _, _] => rfl
  | [outer, inner, visibility, mode, signature, body] =>
      simp only [Treatment.onParts, retains, apply_retain, onBody_onBody]
      rfl
  | _ :: _ :: _ :: _ :: _ :: _ :: _ :: _ => rfl

/-- Two treatments in a row are a third one, if they are so on every node that the first one
changes.  Whether the second one meets a node is asked behind the first one. -/
theorem treat_treat (third : Treatment)
    (agree : ∀ node parts, Instrumentation.changesNode kind node parts = true →
      (if Instrumentation.changesNode kind node (first.onParts kind parts) then
        second.onParts kind (first.onParts kind parts) else first.onParts kind parts) =
          third.onParts kind parts) (tree : Tree Token) :
    treat kind second (treat kind first tree) = treat kind third tree := by
  induction tree using Tree.induction with
  | leaf token => rfl
  | node node parts inductionHypothesis =>
      have inside : (parts.map (treat kind first)).map (treat kind second) =
          parts.map (treat kind third) := by
        rw [List.map_map]
        exact List.map_congr_left inductionHypothesis
      rw [treat_node, treat_node, treat_node]
      congr 1
      unfold treatedParts
      by_cases changes : Instrumentation.changesNode kind node parts = true
      · -- What the first treatment does to the node is moved in front of what both do inside it.
        have changesInside : Instrumentation.changesNode kind node
            (parts.map (treat kind third)) = true := by
          rwa [changesNode_map_treat]
        have meets : Instrumentation.changesNode kind node
              (first.onParts kind (parts.map (treat kind first))) =
            Instrumentation.changesNode kind node
              (first.onParts kind (parts.map (treat kind third))) := by
          rw [onParts_map_treat, onParts_map_treat, changesNode_map_treat, changesNode_map_treat]
        simp only [changes, if_true]
        rw [meets, ← onParts_map_treat, inside]
        exact agree node _ changesInside
      · simp only [changes, changesNode_map_treat, Bool.false_eq_true, if_false]
        exact inside

/-- Two treatments in a row are one, if the first one keeps the markers. -/
theorem treat_treat_of_retain (retains : first.policy = .retain) (tree : Tree Token) :
    treat kind second (treat kind first tree) = treat kind (second.after first) tree := by
  refine treat_treat kind first second _ (fun node parts changes => ?_) tree
  rw [changesNode_onParts_retain kind first retains, if_pos changes]
  exact onParts_onParts kind first second retains parts

/-- Once a treatment has removed the markers, no further treatment changes anything. -/
theorem treat_treat_of_strip (strips : first.policy = .strip) (tree : Tree Token) :
    treat kind second (treat kind first tree) = treat kind first tree := by
  refine treat_treat kind first second _ (fun node parts _ => ?_) tree
  rw [changesNode_onParts_strip kind first strips]
  rfl

end Twice
end Instrument
