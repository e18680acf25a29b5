import Verdict.Proofs.Evaluation.Composition
import Verdict.Proofs.Rule.Tree

set_option autoImplicit false

namespace Verdict

variable {σ α β : Type}

/-- All that a run shows: its result, and the events and calls in order. -/
def Run.observed (r : Run σ α) : α × List Event × List Call := (r.result, r.events, r.calls)

@[simp] theorem Run.observed_eq_iff {r : Run σ α} {s : Run σ α} :
    r.observed = s.observed ↔ r.result = s.result ∧ r.events = s.events ∧ r.calls = s.calls := by
  simp [observed]

/-- What is replied depends on the arguments alone. -/
def RuleFunction.Stateless (f : RuleFunction σ) : Prop :=
  ∀ args state state', (f args state).1 = (f args state').1

theorem RuleFunction.stateless_stateless (answer : List Datum → Except String Datum) :
    (RuleFunction.stateless (σ := σ) answer).Stateless := by
  intro args state state'
  simp only [stateless]
  cases answer args <;> rfl

def Registry.Stateless (functions : Registry σ) : Prop :=
  ∀ name f, functions.get? name = some f → f.Stateless

def Context.Stateless (ctx : Context σ) : Prop :=
  ∀ name f, ctx.function? name = some f → f.Stateless

theorem Registry.standard_stateless : (Registry.standard (σ := σ)).Stateless := by
  intro name f found
  simp only [get?, standard, List.lookup_cons, List.lookup_nil] at found
  split at found
  · cases found
    exact RuleFunction.stateless_stateless _
  · split at found
    · cases found
      exact RuleFunction.stateless_stateless _
    · cases found

def Step.Indistinct (_cost : Nat) (step step' : Step σ α) : Prop :=
  ∀ state state', (step state).observed = (step' state').observed

theorem Step.composable_indistinct : Composable (σ := σ) (τ := σ) Step.Indistinct where
  done _ _ _ _ := rfl
  report _ _ _ _ _ := rfl
  andThen := by
    intro α β m n first first' next next' hfirst hnext state state'
    obtain ⟨sameResult, sameEvents, sameCalls⟩ := Run.observed_eq_iff.mp (hfirst state state')
    have later := hnext (first' state').result (first state).state (first' state').state
    simp only [Run.observed_eq_iff] at later ⊢
    simp only [Step.andThen, sameResult, sameEvents, sameCalls, later, and_self]
  mono h _ := h

def Step.Steady (step : Step σ α) : Prop :=
  ∀ state state', (step state).observed = (step state').observed

namespace Step.Steady

theorem done (a : α) : Steady (Step.done a : Step σ α) := composable_indistinct.done 0 a

theorem report (event : Event) (a : α) : Steady (Step.report event a : Step σ α) :=
  composable_indistinct.report 0 event a

end Step.Steady

namespace Evaluation

open Step

variable {ctx : Context σ}

theorem orFail_steady {first : Step σ (Except EvalFault α)} {next : α → Step σ (Except EvalFault β)}
    (hfirst : Steady first) (hnext : ∀ a, Steady (next a)) : Steady (orFail first next) :=
  composable_indistinct.orFail (m := 0) (n := 0) hfirst hnext

theorem operator_steady {patterns : Datum.Patterns} {op : Operator} {left right : Option (Operand σ)}
    (hl : ∀ operand ∈ left, Steady operand) (hr : ∀ operand ∈ right, Steady operand) :
    Steady (operator patterns op left right) := by
  have paired {operand? : Option (Operand σ)} (h : ∀ operand ∈ operand?, Steady operand) :
      Option.Rel (Indistinct 0) operand? operand? := by
    cases operand? with
    | none => exact .none
    | some operand => exact .some (h operand rfl)
  exact composable_indistinct.operator patterns op (paired hl) (paired hr)

theorem invoke_steady {name : String} {f : RuleFunction σ} (h : f.Stateless) (args : List Datum) :
    Steady (invoke name f args) := by
  intro state state'
  have sameReply := h args state state'
  cases reply : (f args state').1 <;>
    simp [invoke, sameReply, reply, Run.observed, Step.done, failedCall, Step.report]

theorem lookUp_steady (name : String) : Steady (lookUp ctx name) := by
  unfold lookUp
  split
  · exact .done _
  · exact .report _ _

theorem evaluateList_steady {nodes : List Node} (h : ∀ n ∈ nodes, Steady (evaluate ctx n)) :
    Steady (evaluateList ctx nodes) := by
  induction nodes with
  | nil => exact .done _
  | cons head rest ih =>
    refine orFail_steady (h head List.mem_cons_self) fun value => ?_
    exact orFail_steady (ih fun n mem => h n (List.mem_cons_of_mem _ mem)) fun _ => .done _

theorem evaluate_steady (stateless : ctx.Stateless) (root : Node) : Steady (evaluate ctx root) := by
  induction root using Node.induct with
  | operator op left right leftIh rightIh =>
    exact operator_steady (forall_mem_evaluateOption.mpr leftIh) (forall_mem_evaluateOption.mpr rightIh)
  | field name => exact lookUp_steady name
  | literal kind value => exact .done _
  | array elements ih => exact orFail_steady (evaluateList_steady ih) fun _ => .done _
  | call name args ih =>
    simp only [evaluate, call]
    split
    · next f found =>
      exact orFail_steady (evaluateList_steady ih) (invoke_steady (stateless name f found))
    · exact .report _ _
  | unknown => exact .done _

end Evaluation

end Verdict
