import Verdict.Proofs.Evaluation.Inequality
import Verdict.Proofs.Sentence.ReadBack

set_option autoImplicit false

namespace Verdict

namespace Sentence

mutual

/-- The tree that the sentence says, with its chains grouped from the right. -/
def toNode : Sentence → Node
  | .leaf node => node
  | .denied field => .not (.field field)
  | .array elements => .array (toNodes elements)
  | .call name args => .call name (toNodes args)
  | .group op left right => .binary op (toNode left) (toNode right)
  | .negation operand => .not (toNode operand)
  | .chain first link rest => link.join (toNode first) (toNode rest)

def toNodes : List Sentence → List Node
  | [] => []
  | s :: rest => toNode s :: toNodes rest

end

theorem toNodes_eq_map (ss : List Sentence) : toNodes ss = ss.map toNode := by
  induction ss with
  | nil => rfl
  | cons s rest ih => rw [toNodes, ih, List.map_cons]

/-- No chain goes on after its first link. -/
inductive Flat : Sentence → Prop where
  | leaf (node : Node) : Flat (.leaf node)
  | denied (field : String) : Flat (.denied field)
  | array {elements : List Sentence} : (∀ s ∈ elements, Flat s) → Flat (.array elements)
  | call {name : String} {args : List Sentence} : (∀ s ∈ args, Flat s) → Flat (.call name args)
  | group {op : Operator} {left right : Sentence} :
      Flat left → Flat right → Flat (.group op left right)
  | negation {operand : Sentence} : Flat operand → Flat (.negation operand)
  | chain {first rest : Sentence} {link : Link} :
      Flat first → Flat rest → rest.isTerm → Flat (.chain first link rest)

theorem append_of_isTerm {s : Sentence} (term : s.isTerm) (link : Link) (t : Sentence) :
    s.append link t = .chain s link t := by
  cases s <;> first | rfl | simp [isTerm] at term

theorem flat_append {s t : Sentence} {link : Link} :
    (s.append link t).Flat ↔ (s.Flat ∧ s.isTerm) ∧ t.Flat ∧ t.isTerm := by
  constructor
  · intro flat
    by_cases term : s.isTerm
    · rw [append_of_isTerm term] at flat
      cases flat with
      | chain hs ht termRest => exact ⟨⟨hs, term⟩, ht, termRest⟩
    · cases s with
      | chain first inner rest =>
        cases flat with
        | chain _ _ termRest => simp at termRest
      | _ => exact absurd rfl term
  · rintro ⟨⟨hs, term⟩, ht, termRest⟩
    rw [append_of_isTerm term]
    exact .chain hs ht termRest

end Sentence

namespace Node

theorem withNe_not (operand : Node) :
    (Node.not operand).withNe = operatorNe .not none (some operand.withNe) := rfl

theorem withNe_binary {op : Operator} (binary : op.isBinary) (left right : Node) :
    (Node.binary op left right).withNe = .binary op left.withNe right.withNe := by
  cases op <;> first | rfl | simp [Operator.isBinary] at binary

-- What a `not` makes is no `eq`, so a `not` above it stays.
theorem withNe_not_not (operand : Node) :
    (Node.not (.not operand)).withNe = .not (Node.not operand).withNe := by
  simp only [withNe_not]
  cases operand.withNe with
  | operator op left right => cases op <;> cases left <;> cases right <;> rfl
  | field | literal | array | call | unknown => rfl

end Node

namespace Link

theorem join_of_ofOperator? {op : Operator} {link : Link} (h : ofOperator? op = some link)
    (left right : Node) : link.join left right = .binary op left right := by
  cases op <;> cases h <;> rfl

theorem join_of_denial? {op : Operator} {link : Link} (h : denial? op = some link)
    (left right : Node) :
    link.join left.withNe right.withNe = (Node.not (.binary op left right)).withNe := by
  cases op <;> cases h <;> rfl

theorem withNe_not_of_denial? {op : Operator} (binary : op.isBinary) (h : denial? op = none)
    (left right : Node) :
    (Node.not (.binary op left right)).withNe = .not (.binary op left.withNe right.withNe) := by
  cases op <;> first | rfl | simp [denial?, Operator.isBinary] at h binary

end Link

namespace Node.Readable

theorem toNodes_parts {nodes : List Node}
    (h : ∀ n ∈ nodes, (Outline.ofNode n).part.Flat → (Outline.ofNode n).part.toNode = n.withNe)
    (flat : ∀ s ∈ Outline.parts nodes, s.Flat) :
    Sentence.toNodes (Outline.parts nodes) = withNeList nodes := by
  rw [Outline.parts_eq_map] at flat ⊢
  rw [Sentence.toNodes_eq_map, withNeList_eq_map, List.map_map]
  exact List.map_congr_left fun n mem => h n mem (List.forall_mem_map.mp flat n mem)

theorem toNode_ofSentence {s : Sentence} {n : Node} (kept : (Node.not n).withNe = .not n.withNe)
    (h : s.Flat → s.toNode = n.withNe) :
    ((Outline.ofSentence s).part.Flat → (Outline.ofSentence s).part.toNode = n.withNe) ∧
      ((Outline.ofSentence s).denial.Flat →
        (Outline.ofSentence s).denial.toNode = (Node.not n).withNe) := by
  refine ⟨h, fun flat => ?_⟩
  cases flat with
  | negation flat => rw [kept, ← h flat]; rfl

theorem toNode_ofBinary {op : Operator} (binary : op.isBinary) {left right : Node}
    {left' right' : Outline} (hl : left'.part.Flat → left'.part.toNode = left.withNe)
    (hr : right'.part.Flat → right'.part.toNode = right.withNe) :
    ((Outline.ofBinary op left' right').part.Flat →
        (Outline.ofBinary op left' right').part.toNode = (Node.binary op left right).withNe) ∧
      ((Outline.ofBinary op left' right').denial.Flat →
        (Outline.ofBinary op left' right').denial.toNode =
          (Node.not (.binary op left right)).withNe) := by
  have joined {link : Link} (flat : (left'.part.append link right'.part).Flat) :
      (left'.part.append link right'.part).toNode = link.join left.withNe right.withNe := by
    obtain ⟨⟨flatLeft, term⟩, flatRight, _⟩ := Sentence.flat_append.mp flat
    rw [Sentence.append_of_isTerm term, Sentence.toNode, hl flatLeft, hr flatRight]
  unfold Outline.ofBinary
  rcases Outline.ofBinary_cases binary with ⟨link, found, _⟩ | ⟨found, denial, _⟩
  · have part (flat : (left'.part.append link right'.part).Flat) :
        (left'.part.append link right'.part).toNode = (Node.binary op left right).withNe := by
      rw [joined flat, Link.join_of_ofOperator? found, withNe_binary binary]
    rw [found]
    refine ⟨part, ?_⟩
    dsimp only
    cases denial : Link.denial? op with
    | some link' =>
      intro flat
      rw [joined flat, Link.join_of_denial? denial]
    | none =>
      have kept := Link.withNe_not_of_denial? binary denial left right
      rw [← withNe_binary binary] at kept
      exact (toNode_ofSentence kept part).2
  · have kept := Link.withNe_not_of_denial? binary denial left right
    rw [← withNe_binary binary] at kept
    rw [found]
    refine toNode_ofSentence kept fun flat => ?_
    cases flat with
    | group flatLeft flatRight =>
      rw [Sentence.toNode, hl flatLeft, hr flatRight, withNe_binary binary]

theorem toNode_outline {n : Node} (h : n.Readable) :
    ((Outline.ofNode n).part.Flat → (Outline.ofNode n).part.toNode = n.withNe) ∧
      ((Outline.ofNode n).denial.Flat → (Outline.ofNode n).denial.toNode = (Node.not n).withNe) := by
  induction h with
  | field _ => exact ⟨fun _ => rfl, fun _ => rfl⟩
  | literal _ => exact toNode_ofSentence rfl fun _ => rfl
  | array _ ih =>
    refine toNode_ofSentence rfl fun flat => ?_
    cases flat with
    | array flat => rw [Sentence.toNode, withNe, toNodes_parts (fun n mem => (ih n mem).1) flat]
  | call _ _ ih =>
    refine toNode_ofSentence rfl fun flat => ?_
    cases flat with
    | call flat => rw [Sentence.toNode, withNe, toNodes_parts (fun n mem => (ih n mem).1) flat]
  | binary binary _ _ hl hr =>
    rw [Outline.ofNode_binary binary]
    exact toNode_ofBinary binary hl.1 hr.1
  | @not operand _ ih =>
    rw [Outline.ofNode_not]
    exact toNode_ofSentence (withNe_not_not operand) ih.2

end Node.Readable

end Verdict
