import Verdict.Evaluation.Evaluate

set_option autoImplicit false

namespace Verdict

namespace Step

variable {σ α β γ : Type}

theorem andThen_assoc (first : Step σ α) (next : α → Step σ β) (last : β → Step σ γ) :
    (first.andThen next).andThen last = first.andThen fun a => (next a).andThen last := by
  funext state
  simp [andThen]

end Step

namespace Evaluation

variable {σ α β γ : Type}

theorem orFail_assoc (first : Step σ (Except EvalFault α))
    (next : α → Step σ (Except EvalFault β)) (last : β → Step σ (Except EvalFault γ)) :
    orFail (orFail first next) last = orFail first fun a => orFail (next a) last := by
  unfold orFail
  rw [Step.andThen_assoc]
  congr 1
  funext r
  cases r <;> rfl

def sequence : List (Operand σ) → Step σ (Except EvalFault (List Datum))
  | [] => .done (.ok [])
  | operand :: rest =>
      orFail operand fun value =>
        orFail (sequence rest) fun values => .done (.ok (value :: values))

theorem evaluateList_eq_sequence (ctx : Context σ) (nodes : List Node) :
    evaluateList ctx nodes = sequence (nodes.map (evaluate ctx)) := by
  induction nodes with
  | nil => rfl
  | cons head rest ih => simp only [evaluateList, ih, List.map_cons, sequence]

theorem evaluateOption_eq_map (ctx : Context σ) (operand? : Option Node) :
    evaluateOption ctx operand? = operand?.map (evaluate ctx) := by
  cases operand? <;> rfl

theorem forall_mem_evaluateOption {ctx : Context σ} {operand? : Option Node}
    {P : Operand σ → Prop} : (∀ step ∈ evaluateOption ctx operand?, P step) ↔
      ∀ n ∈ operand?, P (evaluate ctx n) := by
  cases operand? with
  | none => simp [evaluateOption]
  | some n => simp [evaluateOption]

end Evaluation

end Verdict
