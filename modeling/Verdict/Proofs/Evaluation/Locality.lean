import Verdict.Proofs.Evaluation.Sequence
import Verdict.Proofs.Evaluation.Stateless

set_option autoImplicit false

namespace Verdict

namespace Evaluation

variable {σ : Type} {ctx ctx' : Context σ}

theorem evaluateOption_congr {operand? : Option Node}
    (h : ∀ n ∈ operand?, evaluate ctx n = evaluate ctx' n) :
    evaluateOption ctx operand? = evaluateOption ctx' operand? := by
  rw [evaluateOption_eq_map, evaluateOption_eq_map]
  exact Option.map_congr h

theorem evaluateList_congr {nodes : List Node}
    (h : ∀ n ∈ nodes, evaluate ctx n = evaluate ctx' n) :
    evaluateList ctx nodes = evaluateList ctx' nodes := by
  rw [evaluateList_eq_sequence, evaluateList_eq_sequence, List.map_congr_left h]

theorem evaluate_congr (samePatterns : ctx.patterns = ctx'.patterns) (root : Node)
    (sameFields : ∀ name, Node.Within (.field name) root → ctx.field? name = ctx'.field? name)
    (sameFunctions : ∀ name args, Node.Within (.call name args) root →
      ctx.function? name = ctx'.function? name) :
    evaluate ctx root = evaluate ctx' root := by
  -- what a child refers to, the tree around it refers to
  induction root using Node.induct with
  | operator op left right leftIh rightIh =>
    have hl := evaluateOption_congr fun n mem => leftIh n mem
      (fun name h => sameFields name (h.ofLeft mem))
      (fun name args h => sameFunctions name args (h.ofLeft mem))
    have hr := evaluateOption_congr fun n mem => rightIh n mem
      (fun name h => sameFields name (h.ofRight mem))
      (fun name args h => sameFunctions name args (h.ofRight mem))
    simp only [evaluate, samePatterns, hl, hr]
  | field name => simp only [evaluate, lookUp, sameFields name .self]
  | literal kind value => rfl
  | array elements ih =>
    have same := evaluateList_congr fun n mem => ih n mem
      (fun name h => sameFields name (h.ofElement mem))
      (fun name args h => sameFunctions name args (h.ofElement mem))
    simp only [evaluate, same]
  | call name args ih =>
    have same := evaluateList_congr fun n mem => ih n mem
      (fun name h => sameFields name (h.ofArgument mem))
      (fun name args h => sameFunctions name args (h.ofArgument mem))
    simp only [evaluate, call, sameFunctions name args .self, same]
  | unknown => rfl

end Evaluation

open Evaluation

/-- Two records that resolve the required fields alike, and two tables of functions without a state
that agree on the names called, cannot be told apart by a rule. -/
theorem Rule.Built.observed_eq_of_agree {σ : Type} {rule : Rule} (built : rule.Built)
    (patterns : Datum.Patterns) {record record' : Datum} {functions functions' : Option (Registry σ)}
    (stateless : ∀ table ∈ functions, table.Stateless)
    (sameFields : ∀ name ∈ rule.requiredFields, record.resolve? name = record'.resolve? name)
    (sameFunctions : ∀ name args, Node.Within (.call name args) rule.root →
      functions.bind (·.get? name) = functions'.bind (·.get? name))
    (state state' : σ) :
    (evaluate ⟨record, functions, patterns⟩ rule.root state).observed =
      (evaluate ⟨record', functions', patterns⟩ rule.root state').observed := by
  have steady : (⟨record, functions, patterns⟩ : Context σ).Stateless := by
    intro name f found
    obtain ⟨table, mem, found⟩ := Option.bind_eq_some_iff.mp found
    exact stateless table mem name f found
  have same : evaluate ⟨record, functions, patterns⟩ rule.root =
      evaluate ⟨record', functions', patterns⟩ rule.root := by
    apply evaluate_congr
    · rfl
    · exact fun name h => sameFields name (built.mem_requiredFields.mpr h)
    · exact sameFunctions
  rw [← same]
  exact evaluate_steady steady rule.root state state'

theorem Rule.Built.observed_eq_of_flat_and_nested :
    (evaluate (σ := Nat) ⟨.obj [("user.name", .str "admin")], some .standard, fun _ => none⟩
        (.call "starts_with" [.field "user.name", .string "ad"]) 0).observed =
      (evaluate ⟨.obj [("role", .null), ("user", .obj [("name", .str "admin")])],
          some ⟨[("starts_with", .stateless RuleFunction.startsWith)]⟩, fun _ => none⟩
        (.call "starts_with" [.field "user.name", .string "ad"]) 7).observed := by
  refine observed_eq_of_agree
    (.tree (.call "starts_with" [.field "user.name", .string "ad"])) _ ?_ ?_ ?_ 0 7
  · rintro table ⟨⟩
    exact Registry.standard_stateless
  · intro name mem
    obtain rfl : name = "user.name" := by
      simpa [ofNode, Node.requiredFields, Node.addFields, Node.addFieldsList, Node.insertName,
        Node.string] using mem
    rfl
  · intro name args h
    obtain rfl : name = "starts_with" := by
      cases h with
      | self => rfl
      | child mem h =>
        simp only [ofNode, Node.children, Node.string, List.mem_cons, List.not_mem_nil,
          or_false] at mem
        rcases mem with rfl | rfl <;> cases h with
        | child mem _ => simp [Node.children] at mem
    rfl

end Verdict
