import Verdict.Proofs.Evaluation.Sequence
import Verdict.Proofs.Rule.Tree

set_option autoImplicit false

namespace Verdict

namespace Evaluation

variable {σ : Type}

theorem negation_eq_comparison_ne (patterns : Datum.Patterns) (left right : Operand σ) :
    negation (comparison patterns .eq left right) = comparison patterns .ne left right := by
  unfold negation comparison
  rw [orFail_assoc]
  congr 1
  funext l
  rw [orFail_assoc]
  rfl

end Evaluation

namespace Node

def operatorNe (op : Operator) (left right : Option Node) : Node :=
  match op, right with
  | .not, some (.operator .eq (some l) (some r)) => .binary .ne l r
  | op, right => .operator op left right

mutual

/-- The tree with a `ne` for every `not` of an `eq` that has both operands. -/
def withNe : Node → Node
  | .operator op left right => operatorNe op (withNeOption left) (withNeOption right)
  | .field name => .field name
  | .literal kind value => .literal kind value
  | .array elements => .array (withNeList elements)
  | .call name args => .call name (withNeList args)
  | .unknown => .unknown

def withNeOption : Option Node → Option Node
  | none => none
  | some n => some (withNe n)

def withNeList : List Node → List Node
  | [] => []
  | n :: rest => withNe n :: withNeList rest

end

theorem withNeOption_eq_map (operand? : Option Node) :
    withNeOption operand? = operand?.map withNe := by
  cases operand? <;> rfl

theorem withNeList_eq_map (nodes : List Node) : withNeList nodes = nodes.map withNe := by
  induction nodes with
  | nil => rfl
  | cons head rest ih => rw [withNeList, ih, List.map_cons]

end Node

namespace Evaluation

variable {σ : Type} (ctx : Context σ)

theorem evaluate_operatorNe (op : Operator) (left right : Option Node) :
    evaluate ctx (.operatorNe op left right) = evaluate ctx (.operator op left right) := by
  unfold Node.operatorNe
  split
  · exact (negation_eq_comparison_ne ..).symm
  · rfl

theorem evaluateOption_withNe {operand? : Option Node}
    (h : ∀ n ∈ operand?, evaluate ctx n.withNe = evaluate ctx n) :
    evaluateOption ctx (Node.withNeOption operand?) = evaluateOption ctx operand? := by
  rw [evaluateOption_eq_map, evaluateOption_eq_map, Node.withNeOption_eq_map, Option.map_map]
  exact Option.map_congr h

theorem evaluateList_withNe {nodes : List Node}
    (h : ∀ n ∈ nodes, evaluate ctx n.withNe = evaluate ctx n) :
    evaluateList ctx (Node.withNeList nodes) = evaluateList ctx nodes := by
  rw [evaluateList_eq_sequence, evaluateList_eq_sequence, Node.withNeList_eq_map, List.map_map]
  exact congrArg sequence (List.map_congr_left h)

theorem evaluate_withNe (root : Node) : evaluate ctx root.withNe = evaluate ctx root := by
  induction root using Node.induct with
  | operator op left right leftIh rightIh =>
    rw [Node.withNe, evaluate_operatorNe, evaluate, evaluate, evaluateOption_withNe ctx leftIh,
      evaluateOption_withNe ctx rightIh]
  | array elements ih => rw [Node.withNe, evaluate, evaluate, evaluateList_withNe ctx ih]
  | call name args ih => rw [Node.withNe, evaluate, evaluate, evaluateList_withNe ctx ih]
  | field | literal | unknown => rfl

end Evaluation

end Verdict
