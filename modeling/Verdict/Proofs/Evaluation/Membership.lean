import Verdict.Proofs.Datum.Equality
import Verdict.Proofs.Evaluation.Chain
import Verdict.Proofs.Evaluation.Standing
import Verdict.Proofs.Evaluation.Values

set_option autoImplicit false

namespace Verdict.Evaluation

variable {σ α β : Type} {ctx : Context σ}

section Steady

open Step

theorem result_eq_of_steady {step : Step σ α} (steady : step.Steady) (state state' : σ) :
    (step state).result = (step state').result :=
  (Run.observed_eq_iff.mp (steady state state')).1

theorem result_orFail (first : Step σ (Except EvalFault α)) {next : α → Step σ (Except EvalFault β)}
    (steady : ∀ a, (next a).Steady) (state : σ) :
    (orFail first next state).result = (first state).result.bind fun a => (next a state).result := by
  simp only [orFail, andThen]
  cases (first state).result with
  | ok a => exact result_eq_of_steady (steady a) _ state
  | error fault => rfl

theorem result_comparison (patterns : Datum.Patterns) (op : Operator) (left : Operand σ)
    {right : Operand σ} (steady : right.Steady) (state : σ) :
    (comparison patterns op left right state).result =
      (left state).result.bind fun l => (right state).result.bind fun r =>
        verdict (Datum.compareBy patterns op l r) := by
  simp only [comparison, orFail, andThen]
  cases (left state).result with
  | error fault => rfl
  | ok l =>
    simp only [andThen, result_of_steady left state steady]
    cases (right state).result with
    | error fault => rfl
    | ok r =>
      simp only
      cases comparisonEvent? patterns op r <;> rfl

theorem result_disjunction (left : Operand σ) {right : Operand σ} (steady : right.Steady) (state : σ) :
    (disjunction left right state).result =
      if passes (left state).result || passes (right state).result then verdict true
      else coalesce (left state).result (right state).result := by
  simp only [disjunction, andThen]
  by_cases first : passes (left state).result
  · simp [first, report]
  · simp only [first, if_false, Bool.false_eq_true, andThen, done, Bool.false_or,
      result_of_steady left state steady]

end Steady

def among (values : List Datum) (item : Result) : Result :=
  item.bind fun d => verdict (values.any (Datum.equals d ·))

theorem passes_verdict (b : Bool) : passes (verdict b) = b := by
  cases b <;> rfl

theorem among_append (vs ws : List Datum) (item : Result) :
    among (vs ++ ws) item =
      if passes (among vs item) || passes (among ws item) then verdict true
      else coalesce (among vs item) (among ws item) := by
  cases item with
  | error fault => rfl
  | ok d =>
    change verdict _ = if passes (verdict _) || passes (verdict _) then _ else coalesce (verdict _) (verdict _)
    rw [passes_verdict, passes_verdict, List.any_append]
    by_cases found : vs.any (Datum.equals d ·) || ws.any (Datum.equals d ·)
    · rw [found, if_pos rfl]
    · rw [if_neg found, eq_false_of_ne_true found]
      rfl

def valueAt (ctx : Context σ) (state : σ) (n : Node) : Datum :=
  (evaluate ctx n state).result.toOption.getD .null

theorem result_eq_valueAt {state : σ} {n : Node} (ok : isOk (evaluate ctx n state).result) :
    (evaluate ctx n state).result = .ok (valueAt ctx state n) := by
  unfold valueAt
  cases result : (evaluate ctx n state).result with
  | ok d => rfl
  | error fault => simp [result] at ok

section Stateless

variable (stateless : ctx.Stateless) (state : σ) (x : Node)
include stateless

theorem result_evaluateList {es : List Node} (ok : ∀ e ∈ es, isOk (evaluate ctx e state).result) :
    (evaluateList ctx es state).result = .ok (es.map (valueAt ctx state)) := by
  induction es with
  | nil => rfl
  | cons e es ih =>
    obtain ⟨first, others⟩ := List.forall_mem_cons.mp ok
    have later : (evaluateList ctx es).Steady :=
      evaluateList_steady fun n _ => evaluate_steady stateless n
    rw [evaluateList, result_orFail _ fun _ => orFail_steady later fun _ => .done _,
      result_eq_valueAt first]
    change (orFail (evaluateList ctx es) _ state).result = _
    rw [result_orFail _ fun _ => .done _, ih others]
    rfl

theorem result_isIn {es : List Node} (ok : ∀ e ∈ es, isOk (evaluate ctx e state).result) :
    (evaluate ctx (.binary .isIn x (.array es)) state).result =
      (evaluate ctx x state).result.bind fun d =>
        verdict ((es.map (valueAt ctx state)).any (Datum.equals · d)) := by
  have array : (evaluate ctx (.array es) state).result = .ok (.arr (es.map (valueAt ctx state))) := by
    rw [evaluate, result_orFail _ fun _ => .done _, result_evaluateList stateless state ok]
    rfl
  calc (evaluate ctx (.binary .isIn x (.array es)) state).result
    _ = (comparison ctx.patterns .isIn (evaluate ctx x) (evaluate ctx (.array es)) state).result := rfl
    _ = _ := by
      rw [result_comparison _ _ _ (evaluate_steady stateless _), array]
      rfl

theorem result_eq {e : Node} (ok : isOk (evaluate ctx e state).result) :
    (evaluate ctx (.eq x e) state).result =
      among [valueAt ctx state e] (evaluate ctx x state).result := by
  calc (evaluate ctx (.eq x e) state).result
    _ = (comparison ctx.patterns .eq (evaluate ctx x) (evaluate ctx e) state).result := rfl
    _ = _ := by
      rw [result_comparison _ _ _ (evaluate_steady stateless e), result_eq_valueAt ok, among]
      simp [Except.bind, Datum.compareBy]

theorem result_chain {g : Grouping} {es : List Node} (leaves : g.leaves = es.map (Node.eq x))
    (ok : ∀ e ∈ es, isOk (evaluate ctx e state).result) :
    (evaluate ctx (g.toNode .or) state).result =
      among (es.map (valueAt ctx state)) (evaluate ctx x state).result := by
  induction g generalizing es with
  | one n =>
    obtain ⟨e, rfl, rfl⟩ := List.map_eq_singleton_iff.mp leaves.symm
    exact result_eq stateless state x (ok e List.mem_cons_self)
  | pair left right leftIh rightIh =>
    obtain ⟨before, after, rfl, first, second⟩ := List.map_eq_append_iff.mp leaves.symm
    obtain ⟨okFirst, okSecond⟩ := List.forall_mem_append.mp ok
    rw [List.map_append, among_append, ← leftIh first.symm okFirst, ← rightIh second.symm okSecond]
    exact result_disjunction _ (evaluate_steady stateless _) state

end Stateless

theorem equals_valueAt {ctx : ValueContext σ} {state : σ} {x e : ValueNode} {d : Datum}
    (item : (evaluate ctx x state).result = .ok d) (ok : isOk (evaluate ctx e state).result) :
    Datum.equals (valueAt ctx state e) d = Datum.equals d (valueAt ctx state e) :=
  Datum.equals_comm
    (evaluate_gives ctx.keysDistinct e.keysDistinct state _ (result_eq_valueAt ok))
    (evaluate_gives ctx.keysDistinct x.keysDistinct state d item)

/-- Where no function keeps a state, membership in an array whose elements are ok gives what the chain
of equalities gives, however it is grouped, also where the item fails. -/
theorem evaluate_isIn_eq_chain (ctx : ValueContext σ) (stateless : ctx.Stateless) (state : σ)
    (x : ValueNode) {es : List ValueNode} (ok : ∀ e ∈ es, isOk (evaluate ctx e state).result)
    {g : Grouping} (leaves : g.leaves = es.map fun e => Node.eq x e.node) :
    (evaluate ctx (.binary .isIn x (.array (es.map (·.node)))) state).result =
      (evaluate ctx (g.toNode .or) state).result := by
  have nodes : ∀ n ∈ es.map (·.node), isOk (evaluate ctx n state).result := by simpa using ok
  have leaves' : g.leaves = (es.map (·.node)).map (Node.eq x) :=
    leaves.trans List.map_map.symm
  rw [result_isIn stateless state x nodes, result_chain stateless state x leaves' nodes]
  cases item : (evaluate ctx x state).result with
  | error fault => rfl
  | ok d =>
    change verdict _ = verdict _
    apply congrArg
    rw [Bool.eq_iff_iff, List.any_eq_true, List.any_eq_true]
    apply exists_congr
    intro v
    apply and_congr_right
    intro mem
    obtain ⟨n, node, rfl⟩ := List.mem_map.mp mem
    obtain ⟨e, element, rfl⟩ := List.mem_map.mp node
    rw [equals_valueAt item (ok e element)]

theorem evaluate_isIn_eq_chain_of_object :
    let ctx : ValueContext Nat :=
      { record := .obj [("a", .obj [("p", .str "x"), ("q", .null)])]
        functions := some .standard
        patterns := fun _ => none
        keysDistinct :=
          { record := Datum.keysDistinct_of_canonical rfl
            functions := fun _ _ found => Registry.standard_keysDistinct found } }
    let pair : Datum := .obj [("q", .null), ("p", .str "x")]
    let es : List Node := [.string "a", .literal .other pair, .field "a"]
    let chain (x : Node) : Grouping :=
      .pair (.one (.eq x es[0])) (.pair (.one (.eq x es[1])) (.one (.eq x es[2])))
    let isIn (x : Node) := (evaluate ctx (.binary .isIn x (.array es)) 0).result
    let equalities (x : Node) := (evaluate ctx ((chain x).toNode .or) 0).result
    isIn (.field "a") = equalities (.field "a") ∧ passes (isIn (.field "a")) ∧
      isIn (.field "b") = equalities (.field "b") ∧
      isIn (.field "b") = .error (.missingField "b") := by
  intro ctx pair es chain isIn equalities
  have distinct : pair.KeysDistinct :=
    .obj (by decide) (by simp [Datum.KeysDistinct.null, Datum.KeysDistinct.str])
  let values : List ValueNode :=
    [⟨.string "a", Node.keysDistinct_literal (.str "a")⟩,
      ⟨.literal .other pair, Node.keysDistinct_literal distinct⟩,
      ⟨.field "a", Node.keysDistinct_field "a"⟩]
  have ok : ∀ e ∈ values, isOk (evaluate ctx e 0).result := by
    simp only [values, List.forall_mem_cons, List.not_mem_nil, false_imp_iff, implies_true, and_true]
    decide
  have same (name : String) : isIn (.field name) = equalities (.field name) :=
    evaluate_isIn_eq_chain ctx Registry.standard_stateless 0 ⟨.field name, Node.keysDistinct_field name⟩
      ok rfl
  exact ⟨same "a", by decide, same "b", rfl⟩

end Verdict.Evaluation
