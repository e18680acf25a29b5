import Verdict.Proofs.Evaluation.Inequality
import Verdict.Proofs.Sentence.Legible

set_option autoImplicit false

namespace Verdict

namespace Phrase

theorem ofNode_operatorNe (op : Operator) (left right : Option Node) :
    ofNode (.operatorNe op left right) = ofNode (.operator op left right) := by
  unfold Node.operatorNe
  split
  · rfl
  · rfl

theorem ofOption_eq_map (operand? : Option Node) : ofOption operand? = operand?.map ofNode := by
  cases operand? <;> rfl

theorem ofNode_withNe (root : Node) : ofNode root.withNe = ofNode root := by
  have option {operand? : Option Node} (ih : ∀ n ∈ operand?, ofNode n.withNe = ofNode n) :
      ofOption (Node.withNeOption operand?) = ofOption operand? := by
    rw [ofOption_eq_map, ofOption_eq_map, Node.withNeOption_eq_map, Option.map_map]
    exact Option.map_congr ih
  have list {nodes : List Node} (ih : ∀ n ∈ nodes, ofNode n.withNe = ofNode n) :
      ofList (Node.withNeList nodes) = ofList nodes := by
    rw [ofList_eq_map, ofList_eq_map, Node.withNeList_eq_map, List.map_map]
    exact List.map_congr_left ih
  induction root using Node.induct with
  | operator op left right leftIh rightIh =>
    rw [Node.withNe, ofNode_operatorNe, ofNode, ofNode, option leftIh, option rightIh]
  | array elements ih => rw [Node.withNe, ofNode, ofNode, list ih]
  | call name args ih => rw [Node.withNe, ofNode, ofNode, list ih]
  | field | literal | unknown => rfl

end Phrase

namespace Node

section Size

def NoLarger (n m : Node) : Prop := n.depth ≤ m.depth ∧ n.count ≤ m.count

theorem noLarger_option {f : Node → Node} {operand? : Option Node}
    (h : ∀ n ∈ operand?, (f n).NoLarger n) :
    depthOption (operand?.map f) ≤ depthOption operand? ∧
      countOption (operand?.map f) ≤ countOption operand? := by
  cases operand? with
  | none => exact ⟨Nat.le_refl _, Nat.le_refl _⟩
  | some n => exact h n rfl

theorem noLarger_list {f : Node → Node} {nodes : List Node} (h : ∀ n ∈ nodes, (f n).NoLarger n) :
    depthList (nodes.map f) ≤ depthList nodes ∧ countList (nodes.map f) ≤ countList nodes := by
  induction nodes with
  | nil => exact ⟨Nat.le_refl _, Nat.le_refl _⟩
  | cons head rest ih =>
    obtain ⟨first, others⟩ := List.forall_mem_cons.mp h
    obtain ⟨headDepth, headCount⟩ := first
    obtain ⟨restDepth, restCount⟩ := ih others
    simp only [List.map_cons, depthList, countList]
    omega

theorem noLarger_operatorNe (op : Operator) (left right : Option Node) :
    (operatorNe op left right).NoLarger (.operator op left right) := by
  unfold operatorNe
  split
  · simp only [NoLarger, binary, depth, depthOption, count, countOption]
    omega
  · exact ⟨Nat.le_refl _, Nat.le_refl _⟩

theorem noLarger_withNe (root : Node) : root.withNe.NoLarger root := by
  induction root using Node.induct with
  | operator op left right leftIh rightIh =>
    obtain ⟨wholeDepth, wholeCount⟩ :=
      noLarger_operatorNe op (left.map withNe) (right.map withNe)
    obtain ⟨leftDepth, leftCount⟩ := noLarger_option leftIh
    obtain ⟨rightDepth, rightCount⟩ := noLarger_option rightIh
    simp only [NoLarger, withNe, withNeOption_eq_map, depth, count] at wholeDepth wholeCount ⊢
    omega
  | array elements ih | call name elements ih =>
    obtain ⟨elementsDepth, elementsCount⟩ := noLarger_list ih
    simp only [NoLarger, withNe, withNeList_eq_map, depth, count]
    omega
  | field | literal | unknown => exact ⟨Nat.le_refl _, Nat.le_refl _⟩

end Size

section Form

def IsDeniedEq (n : Node) : Prop :=
  ∃ left l r, n = .operator .not left (some (.operator .eq (some l) (some r)))

def NoDeniedEq (root : Node) : Prop := ∀ n, Within n root → ¬n.IsDeniedEq

theorem noDeniedEq_of_children {root : Node} (here : ¬root.IsDeniedEq)
    (there : ∀ c ∈ root.children, c.NoDeniedEq) : root.NoDeniedEq := by
  intro n h
  rcases Within.iff_children.mp h with rfl | ⟨c, mem, h⟩
  · exact here
  · exact there c mem n h

theorem NoDeniedEq.child {root c : Node} (h : root.NoDeniedEq) (mem : c ∈ root.children) :
    c.NoDeniedEq :=
  fun n within => h n (.child mem within)

theorem noDeniedEq_operatorNe {op : Operator} {left right : Option Node}
    (hl : ∀ n ∈ left, n.NoDeniedEq) (hr : ∀ n ∈ right, n.NoDeniedEq) :
    (operatorNe op left right).NoDeniedEq := by
  unfold operatorNe
  split
  · next l r =>
    refine noDeniedEq_of_children (by simp [binary, IsDeniedEq]) fun c mem => ?_
    exact (hr _ rfl).child mem
  · next other =>
    refine noDeniedEq_of_children ?_ fun c mem => ?_
    · rintro ⟨left', l, r, same⟩
      obtain ⟨rfl, -, rfl⟩ := operator.inj same
      exact other l r rfl rfl
    · rcases List.mem_append.mp mem with mem | mem
      · exact hl c (Option.mem_toList.mp mem)
      · exact hr c (Option.mem_toList.mp mem)

theorem noDeniedEq_withNe (root : Node) : root.withNe.NoDeniedEq := by
  have bare {n : Node} (here : ¬n.IsDeniedEq) (leaf : n.children = []) : n.NoDeniedEq :=
    noDeniedEq_of_children here (by simp [leaf])
  induction root using Node.induct with
  | operator op left right leftIh rightIh =>
    refine noDeniedEq_operatorNe ?_ ?_
    · simpa [withNeOption_eq_map] using leftIh
    · simpa [withNeOption_eq_map] using rightIh
  | array elements ih | call name elements ih =>
    refine noDeniedEq_of_children (by simp [withNe, IsDeniedEq]) ?_
    simpa [withNe, children, withNeList_eq_map] using ih
  | field | literal | unknown => exact bare (by simp [withNe, IsDeniedEq]) rfl

end Form

/-- No `not` of an `eq` is left in the tree with a `ne` for each of them. It evaluates to the same,
with the same calls and events, from any state and in any context; it has the same text, as a whole
rule and as a part of one; and it is neither deeper nor larger. -/
theorem withNe_preserves (root : Node) :
    root.withNe.NoDeniedEq ∧
      (∀ {σ : Type} (ctx : Context σ) (state : σ),
        Evaluation.evaluate ctx root.withNe state = Evaluation.evaluate ctx root state) ∧
      (∀ isRoot : Bool, root.withNe.render isRoot = root.render isRoot) ∧
      root.withNe.depth ≤ root.depth ∧ root.withNe.count ≤ root.count := by
  refine ⟨noDeniedEq_withNe root, ?_, ?_, noLarger_withNe root⟩
  · intro σ ctx state
    rw [Evaluation.evaluate_withNe]
  · intro isRoot
    rw [render, render, Phrase.ofNode_withNe]

end Node

end Verdict
