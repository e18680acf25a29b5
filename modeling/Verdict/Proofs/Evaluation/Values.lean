import Verdict.Proofs.Datum.Resolution
import Verdict.Proofs.Evaluation.Sequence
import Verdict.Proofs.Rule.Tree

set_option autoImplicit false

namespace Verdict

variable {σ α β : Type}

def Node.KeysDistinct (root : Node) : Prop :=
  ∀ kind value, Within (.literal kind value) root → value.KeysDistinct

theorem Node.keysDistinct_field (name : String) : (field name).KeysDistinct := by
  intro kind value within
  cases within with
  | child mem _ => cases mem

theorem Node.keysDistinct_literal {kind : LiteralKind} {value : Datum} (h : value.KeysDistinct) :
    (literal kind value).KeysDistinct := by
  intro kind' value' within
  cases within with
  | self => exact h
  | child mem _ => cases mem

theorem Node.KeysDistinct.child {n c : Node} (h : n.KeysDistinct) (mem : c ∈ n.children) :
    c.KeysDistinct :=
  fun kind value within => h kind value (.child mem within)

def RuleFunction.KeysDistinct (f : RuleFunction σ) : Prop :=
  ∀ args state d, (∀ a ∈ args, a.KeysDistinct) → (f args state).1 = .value d → d.KeysDistinct

structure Context.KeysDistinct (ctx : Context σ) : Prop where
  record : ctx.record.KeysDistinct
  functions : ∀ name f, ctx.function? name = some f → f.KeysDistinct

/-- A tree whose literals are values. -/
structure ValueNode where
  node : Node
  keysDistinct : node.KeysDistinct

instance : Coe ValueNode Node := ⟨ValueNode.node⟩

/-- A context whose record is a value and whose functions give values for values. -/
structure ValueContext (σ : Type) extends Context σ where
  keysDistinct : toContext.KeysDistinct

instance : Coe (ValueContext σ) (Context σ) := ⟨ValueContext.toContext⟩

theorem RuleFunction.stateless_keysDistinct {answer : List Datum → Except String Datum}
    (flag : ∀ args d, answer args = .ok d → ∃ b, d = .bool b) :
    (stateless (σ := σ) answer).KeysDistinct := by
  intro args state d _ replied
  simp only [stateless] at replied
  split at replied
  · next d' answered =>
    cases replied
    obtain ⟨b, rfl⟩ := flag args d answered
    exact .bool b
  · cases replied

theorem Registry.standard_keysDistinct {name : String} {f : RuleFunction σ}
    (found : Registry.standard.get? name = some f) : f.KeysDistinct := by
  simp only [get?, standard, List.lookup_cons, List.lookup_nil] at found
  split at found
  · cases found
    refine RuleFunction.stateless_keysDistinct fun args d answered => ?_
    unfold RuleFunction.cidrContains at answered
    split at answered <;> cases answered <;> exact ⟨_, rfl⟩
  · split at found
    · cases found
      refine RuleFunction.stateless_keysDistinct fun args d answered => ?_
      unfold RuleFunction.startsWith at answered
      split at answered <;> cases answered
      exact ⟨_, rfl⟩
    · cases found

def Step.Gives (Q : α → Prop) (step : Step σ (Except EvalFault α)) : Prop :=
  ∀ state a, (step state).result = .ok a → Q a

namespace Step.Gives

variable {Q : α → Prop}

theorem ok {a : α} (h : Q a) : Gives Q (.done (.ok a) : Step σ (Except EvalFault α)) := by
  intro state b same
  cases same
  exact h

theorem error (fault : EvalFault) : Gives Q (.done (.error fault) : Step σ (Except EvalFault α)) :=
  nofun

theorem report {r : Except EvalFault α} (event : Event)
    (h : Gives Q (.done r : Step σ (Except EvalFault α))) :
    Gives Q (.report event r : Step σ (Except EvalFault α)) :=
  h

end Step.Gives

namespace Evaluation

open Step Datum

theorem orFail_gives {P : α → Prop} {Q : β → Prop} {first : Step σ (Except EvalFault α)}
    {next : α → Step σ (Except EvalFault β)} (h : Gives P first)
    (hnext : ∀ a, P a → Gives Q (next a)) : Gives Q (orFail first next) := by
  intro state b same
  simp only [orFail, Step.andThen] at same
  cases result : (first state).result with
  | ok a =>
    rw [result] at same
    exact hnext a (h state a result) _ b same
  | error fault =>
    rw [result] at same
    cases same

theorem verdict_gives (b : Bool) : Gives KeysDistinct (.done (verdict b) : Operand σ) :=
  .ok (.bool b)

section Operators

variable {left right operand next : Operand σ}

theorem negation_gives (h : Gives KeysDistinct operand) : Gives KeysDistinct (negation operand) :=
  orFail_gives h fun _ _ => verdict_gives _

theorem conjunct_gives {side : Side} (h : Gives KeysDistinct operand)
    (hnext : Gives KeysDistinct next) : Gives KeysDistinct (conjunct side operand next) := by
  refine orFail_gives h fun d _ => ?_
  split
  · exact .report _ (verdict_gives _)
  · exact hnext

theorem conjunction_gives (hl : Gives KeysDistinct left) (hr : Gives KeysDistinct right) :
    Gives KeysDistinct (conjunction left right) :=
  conjunct_gives hl (conjunct_gives hr (verdict_gives _))

theorem coalesce_eq_ok {l r : Result} {d : Datum} (h : coalesce l r = .ok d) :
    d = .bool false ∨ l = .ok d ∨ r = .ok d := by
  cases l <;> cases r <;> simp_all [coalesce, verdict]

theorem disjunction_gives (hl : Gives KeysDistinct left) (hr : Gives KeysDistinct right) :
    Gives KeysDistinct (disjunction left right) := by
  intro state d same
  simp only [disjunction, Step.andThen] at same
  split at same
  · exact verdict_gives true state d same
  · simp only [Step.andThen, Step.done] at same
    split at same
    · exact verdict_gives true state d same
    · rcases coalesce_eq_ok same with rfl | first | second
      · exact .bool false
      · exact hl _ _ first
      · exact hr _ _ second

theorem comparison_gives {patterns : Patterns} {op : Operator} (hl : Gives KeysDistinct left)
    (hr : Gives KeysDistinct right) : Gives KeysDistinct (comparison patterns op left right) := by
  refine orFail_gives hl fun l _ => orFail_gives hr fun r _ => ?_
  simp only
  split
  · exact .report _ (verdict_gives _)
  · exact verdict_gives _

theorem operator_gives {patterns : Patterns} {op : Operator} {left right : Option (Operand σ)}
    (hl : ∀ operand ∈ left, Gives KeysDistinct operand)
    (hr : ∀ operand ∈ right, Gives KeysDistinct operand) :
    Gives KeysDistinct (operator patterns op left right) := by
  unfold operator
  split
  · exact negation_gives (hr _ rfl)
  · exact .error _
  · unfold binary
    split
    · exact conjunction_gives (hl _ rfl) (hr _ rfl)
    · exact disjunction_gives (hl _ rfl) (hr _ rfl)
    · exact comparison_gives (hl _ rfl) (hr _ rfl)
  · exact .error _

end Operators

section Tree

variable {ctx : Context σ}

theorem lookUp_gives (h : ctx.record.KeysDistinct) (name : String) :
    Gives KeysDistinct (lookUp ctx name) := by
  unfold lookUp
  split
  · next d found => exact .ok (h.resolve? found)
  · exact .report _ (.error _)

theorem invoke_gives {f : RuleFunction σ} (h : f.KeysDistinct) (name : String) {args : List Datum}
    (given : ∀ a ∈ args, a.KeysDistinct) : Gives KeysDistinct (invoke name f args) := by
  intro state d same
  cases reply : (f args state).1 with
  | value e =>
    simp only [invoke, reply, Step.done, Except.ok.injEq] at same
    exact same ▸ h args state e given reply
  | fault message | crash message => simp [invoke, reply, failedCall, Step.report] at same

theorem evaluateList_gives {nodes : List Node}
    (h : ∀ n ∈ nodes, Gives KeysDistinct (evaluate ctx n)) :
    Gives (fun values => ∀ d ∈ values, d.KeysDistinct) (evaluateList ctx nodes) := by
  induction nodes with
  | nil => exact .ok nofun
  | cons head rest ih =>
    obtain ⟨first, others⟩ := List.forall_mem_cons.mp h
    refine orFail_gives first fun value here => orFail_gives (ih others) fun values there => ?_
    exact .ok (List.forall_mem_cons.mpr ⟨here, there⟩)

theorem evaluate_gives (h : ctx.KeysDistinct) {root : Node} (literals : root.KeysDistinct) :
    Gives KeysDistinct (evaluate ctx root) := by
  induction root using Node.induct with
  | operator op left right leftIh rightIh =>
    apply operator_gives
    · refine forall_mem_evaluateOption.mpr fun n mem => ?_
      exact leftIh n mem (literals.child (Node.mem_children_left mem))
    · refine forall_mem_evaluateOption.mpr fun n mem => ?_
      exact rightIh n mem (literals.child (Node.mem_children_right mem))
  | field name => exact lookUp_gives h.record name
  | literal kind value => exact .ok (literals kind value .self)
  | array elements ih =>
    have each := evaluateList_gives fun n mem => ih n mem (literals.child mem)
    exact orFail_gives each fun _ values => .ok (.arr values)
  | call name args ih =>
    have each := evaluateList_gives fun n mem => ih n mem (literals.child mem)
    simp only [evaluate, call]
    split
    · next f found => exact orFail_gives each fun _ => invoke_gives (h.functions name f found) name
    · exact .report _ (.error _)
  | unknown => exact .error _

end Tree

end Evaluation

end Verdict
