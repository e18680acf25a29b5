import Verdict.Proofs.Evaluation.Sequence

set_option autoImplicit false

namespace Verdict

theorem Evaluation.operator_both {σ : Type} {patterns : Datum.Patterns} {op : Operator}
    (other : op ≠ .not) (left right : Operand σ) :
    operator patterns op (some left) (some right) = binary patterns op left right := by
  cases op <;> first | rfl | exact absurd rfl other

theorem Evaluation.operator_lacking {σ : Type} {patterns : Datum.Patterns} {op : Operator}
    (other : op ≠ .not) {left right : Option (Operand σ)} (lacking : left = none ∨ right = none) :
    operator patterns op left right = .done (.error (.missingOperands op.name)) := by
  rcases lacking with rfl | rfl
  · cases op <;> first | rfl | exact absurd rfl other
  · cases op <;> cases left <;> first | rfl | exact absurd rfl other

/-- A relation that is kept by all that evaluations are put together with. The parts that follow a first
one have to be related for whatever result it may have. -/
structure Step.Composable {σ τ : Type} (R : {α : Type} → Nat → Step σ α → Step τ α → Prop) : Prop where
  done {α : Type} (cost : Nat) (a : α) : R cost (.done a) (.done a)
  report {α : Type} (cost : Nat) (event : Event) (a : α) : R cost (.report event a) (.report event a)
  andThen {α β : Type} {m n : Nat} {first : Step σ α} {first' : Step τ α} {next : α → Step σ β}
    {next' : α → Step τ β} (hfirst : R m first first') (hnext : ∀ a, R n (next a) (next' a)) :
    R (m + n) (first.andThen next) (first'.andThen next')
  mono {α : Type} {m n : Nat} {step : Step σ α} {step' : Step τ α} (h : R m step step') (le : m ≤ n) :
    R n step step'

namespace Step.Composable

open Evaluation

variable {σ τ α β : Type} {R : {α : Type} → Nat → Step σ α → Step τ α → Prop} {m n : Nat}

theorem orFail (h : Composable R) {first : Step σ (Except EvalFault α)}
    {first' : Step τ (Except EvalFault α)} {next : α → Step σ (Except EvalFault β)}
    {next' : α → Step τ (Except EvalFault β)} (hfirst : R m first first')
    (hnext : ∀ a, R n (next a) (next' a)) : R (m + n) (orFail first next) (orFail first' next') := by
  refine h.andThen hfirst fun r => ?_
  cases r with
  | ok a => exact hnext a
  | error fault => exact h.done n _

section Operators

variable (h : Composable R) {left right : Operand σ} {left' right' : Operand τ}
  (hl : R m left left') (hr : R n right right')

include h hl in
theorem negation : R m (negation left) (negation left') :=
  h.orFail (n := 0) hl fun _ => h.done 0 _

include h hl hr in
theorem conjunct (side : Side) : R (m + n) (conjunct side left right) (conjunct side left' right') := by
  refine h.orFail hl fun d => ?_
  split
  · exact h.report n _ _
  · exact hr

include h hl hr in
theorem conjunction : R (m + n) (conjunction left right) (conjunction left' right') :=
  h.conjunct hl (h.conjunct (n := 0) hr (h.done 0 _) .right) .left

include h hl hr in
theorem disjunction : R (m + n) (disjunction left right) (disjunction left' right') := by
  refine h.andThen hl fun l => ?_
  split
  · exact h.report n _ _
  · exact h.andThen (n := 0) hr fun _ => h.done 0 _

include h hl hr in
theorem comparison (patterns : Datum.Patterns) (op : Operator) :
    R (m + n) (comparison patterns op left right) (comparison patterns op left' right') := by
  refine h.orFail hl fun l => h.orFail (n := 0) hr fun r => ?_
  simp only
  split
  · exact h.report 0 _ _
  · exact h.done 0 _

include h hl hr in
theorem binary (patterns : Datum.Patterns) (op : Operator) :
    R (m + n) (binary patterns op left right) (binary patterns op left' right') := by
  unfold Evaluation.binary
  split
  · exact h.conjunction hl hr
  · exact h.disjunction hl hr
  · exact h.comparison hl hr patterns _

end Operators

theorem operator (h : Composable R) (patterns : Datum.Patterns) (op : Operator)
    {left right : Option (Operand σ)} {left' right' : Option (Operand τ)}
    (hl : Option.Rel (R m) left left') (hr : Option.Rel (R n) right right') :
    R (m + n) (operator patterns op left right) (operator patterns op left' right') := by
  by_cases negated : op = .not
  · subst negated
    cases hr with
    | none => exact h.done _ _
    | some hr => exact h.mono (h.negation hr) (Nat.le_add_left n m)
  · cases hl with
    | none =>
      rw [operator_lacking negated (.inl rfl), operator_lacking negated (.inl rfl)]
      exact h.done _ _
    | some hl =>
      cases hr with
      | none =>
        rw [operator_lacking negated (.inr rfl), operator_lacking negated (.inr rfl)]
        exact h.done _ _
      | some hr =>
        rw [operator_both negated, operator_both negated]
        exact h.binary hl hr patterns op

end Step.Composable

end Verdict
