import Verdict.Proofs.Evaluation.Composition
import Verdict.Proofs.Rule.Tree

set_option autoImplicit false

namespace Verdict

variable {σ α β : Type}

def Event.fault? : Event → Option EvalFault
  | .fieldMissing name => some (.missingField name)
  | .functionMissing name => some (.unknownFunction name)
  | .functionFailed name message => some (.functionFailed name message)
  | .andStopped _ | .orStopped | .badPattern _ | .compiled _ => none

def Event.Quiet (events : List Event) : Prop :=
  ∀ event ∈ events, event.fault? = none

/-- What was reported fits what came of it: no failure where it is ok, and else the failure it ended
with, once and in the last place, unless that is one of those that go unsaid. -/
inductive Reported (unsaid : EvalFault → Prop) : List Event → Except EvalFault α → Prop where
  | ok {events : List Event} (a : α) : Event.Quiet events → Reported unsaid events (.ok a)
  | silent {events : List Event} {fault : EvalFault} : Event.Quiet events → unsaid fault →
      Reported unsaid events (.error fault)
  | told {events : List Event} {event : Event} {fault : EvalFault} : Event.Quiet events →
      event.fault? = some fault → Reported unsaid (events ++ [event]) (.error fault)

namespace Reported

variable {unsaid : EvalFault → Prop} {events : List Event} {r : Except EvalFault α} {fault : EvalFault}

theorem mono {more : EvalFault → Prop} (h : Reported unsaid events r)
    (weaker : ∀ fault, unsaid fault → more fault) : Reported more events r := by
  cases h with
  | ok a quiet => exact .ok a quiet
  | silent quiet hidden => exact .silent quiet (weaker _ hidden)
  | told quiet tells => exact .told quiet tells

theorem after {earlier : List Event} (quiet : Event.Quiet earlier) (h : Reported unsaid events r) :
    Reported unsaid (earlier ++ events) r := by
  cases h with
  | ok a later => exact .ok a (List.forall_mem_append.mpr ⟨quiet, later⟩)
  | silent later hidden => exact .silent (List.forall_mem_append.mpr ⟨quiet, later⟩) hidden
  | told later tells =>
    rw [← List.append_assoc]
    exact .told (List.forall_mem_append.mpr ⟨quiet, later⟩) tells

theorem quiet_of_ok {a : α} (h : Reported unsaid events (.ok a : Except EvalFault α)) :
    Event.Quiet events := by
  cases h with
  | ok _ quiet => exact quiet

theorem error (h : Reported unsaid events (.error fault : Except EvalFault α)) :
    Reported unsaid events (.error fault : Except EvalFault β) := by
  cases h with
  | silent quiet hidden => exact .silent quiet hidden
  | told quiet tells => exact .told quiet tells

theorem countP_le (h : Reported unsaid events r) : events.countP (·.fault?.isSome) ≤ 1 := by
  have zero {events : List Event} (quiet : Event.Quiet events) :
      events.countP (·.fault?.isSome) = 0 := by
    apply List.countP_eq_zero.mpr
    intro event mem
    simp [quiet event mem]
  cases h with
  | ok _ quiet | silent quiet _ => simp [zero quiet]
  | told quiet _ =>
    rw [List.countP_append, zero quiet, List.countP_singleton]
    split <;> decide

theorem last_of_mem (h : Reported unsaid events r) {event : Event} (mem : event ∈ events)
    (tells : event.fault? = some fault) : events.getLast? = some event ∧ r = .error fault := by
  cases h with
  | ok _ quiet | silent quiet _ => simp [quiet event mem] at tells
  | told quiet last =>
    rcases List.mem_append.mp mem with early | late
    · simp [quiet event early] at tells
    · obtain rfl := List.mem_singleton.mp late
      cases last.symm.trans tells
      exact ⟨List.getLast?_concat, rfl⟩

theorem exists_of_error (h : Reported unsaid events (.error fault : Except EvalFault α))
    (said : ¬unsaid fault) : ∃ event ∈ events, event.fault? = some fault := by
  cases h with
  | silent _ hidden => exact absurd hidden said
  | told _ tells => exact ⟨_, List.mem_append_right _ List.mem_cons_self, tells⟩

end Reported

def Step.Reporting (unsaid : EvalFault → Prop) (step : Step σ (Except EvalFault α)) : Prop :=
  ∀ state, Reported unsaid (step state).events (step state).result

namespace Step.Reporting

variable {unsaid : EvalFault → Prop} {event : Event} {fault : EvalFault}

theorem mono {more : EvalFault → Prop} {step : Step σ (Except EvalFault α)}
    (h : Reporting unsaid step) (weaker : ∀ fault, unsaid fault → more fault) : Reporting more step :=
  fun state => (h state).mono weaker

theorem ok (a : α) : Reporting unsaid (.done (.ok a) : Step σ (Except EvalFault α)) :=
  fun _ => .ok a nofun

theorem silent (hidden : unsaid fault) :
    Reporting unsaid (.done (.error fault) : Step σ (Except EvalFault α)) :=
  fun _ => .silent nofun hidden

theorem report (quiet : event.fault? = none) (a : α) :
    Reporting unsaid (.report event (.ok a) : Step σ (Except EvalFault α)) :=
  fun _ => .ok a (List.forall_mem_singleton.mpr quiet)

theorem told (tells : event.fault? = some fault) :
    Reporting unsaid (.report event (.error fault) : Step σ (Except EvalFault α)) := by
  intro state
  have alone : Reported unsaid ([] ++ [event]) (.error fault : Except EvalFault α) := .told nofun tells
  exact alone

end Step.Reporting

namespace Node

/-- The failures of a tree that go without a report: those of its unknown nodes, and of its operators
that lack an operand. -/
inductive Unreported (root : Node) : EvalFault → Prop where
  | unknownNode : Within .unknown root → Unreported root .unknownNode
  | missingOperand {left : Option Node} : Within (.operator .not left none) root →
      Unreported root .missingOperand
  | missingOperands {op : Operator} {left right : Option Node} :
      Within (.operator op left right) root → op ≠ .not → left = none ∨ right = none →
      Unreported root (.missingOperands op.name)

structure WellFormed (root : Node) : Prop where
  known : ¬Within .unknown root
  complete : ∀ op left right, Within (.operator op left right) root →
    right ≠ none ∧ (op ≠ .not → left ≠ none)

theorem WellFormed.not_unreported {root : Node} (h : root.WellFormed) (fault : EvalFault) :
    ¬root.Unreported fault := by
  rintro (node | node | ⟨node, other, lacking⟩)
  · exact h.known node
  · exact (h.complete _ _ _ node).1 rfl
  · obtain ⟨right, left⟩ := h.complete _ _ _ node
    rcases lacking with none | none
    · exact left other none
    · exact right none

theorem Unreported.child {root c : Node} (mem : c ∈ root.children) (fault : EvalFault)
    (h : c.Unreported fault) : root.Unreported fault := by
  cases h with
  | unknownNode node => exact .unknownNode (.child mem node)
  | missingOperand node => exact .missingOperand (.child mem node)
  | missingOperands node other lacking => exact .missingOperands (.child mem node) other lacking

def WithoutOr (root : Node) : Prop :=
  ∀ left right, ¬Within (.operator .or left right) root

theorem WithoutOr.child {root c : Node} (h : root.WithoutOr) (mem : c ∈ root.children) : c.WithoutOr :=
  fun left right node => h left right (.child mem node)

end Node

namespace Evaluation

open Step Node

variable {unsaid : EvalFault → Prop} {ctx : Context σ}

theorem orFail_reporting {first : Step σ (Except EvalFault α)}
    {next : α → Step σ (Except EvalFault β)} (h : Reporting unsaid first)
    (hnext : ∀ a, Reporting unsaid (next a)) : Reporting unsaid (orFail first next) := by
  intro state
  have fits := h state
  simp only [orFail, Step.andThen]
  cases result : (first state).result with
  | ok a =>
    rw [result] at fits
    exact (hnext a _).after fits.quiet_of_ok
  | error fault =>
    rw [result] at fits
    simp only [Step.done, List.append_nil]
    exact fits.error

section Operators

variable {patterns : Datum.Patterns} {op : Operator} {left right operand next : Operand σ}

theorem negation_reporting (h : Reporting unsaid operand) : Reporting unsaid (negation operand) :=
  orFail_reporting h fun _ => .ok _

theorem conjunct_reporting {side : Side} (h : Reporting unsaid operand)
    (hnext : Reporting unsaid next) : Reporting unsaid (conjunct side operand next) := by
  refine orFail_reporting h fun d => ?_
  split
  · exact .report rfl _
  · exact hnext

theorem conjunction_reporting (hl : Reporting unsaid left) (hr : Reporting unsaid right) :
    Reporting unsaid (conjunction left right) :=
  conjunct_reporting hl (conjunct_reporting hr (.ok _))

theorem fault?_comparisonEvent? {right : Datum} {event : Event}
    (h : comparisonEvent? patterns op right = some event) : event.fault? = none := by
  unfold comparisonEvent? at h
  split at h
  · split at h
    · cases h
      rfl
    · cases h
  · cases h

theorem comparison_reporting (hl : Reporting unsaid left) (hr : Reporting unsaid right) :
    Reporting unsaid (comparison patterns op left right) := by
  refine orFail_reporting hl fun l => orFail_reporting hr fun r => ?_
  simp only
  split
  · next event found => exact .report (fault?_comparisonEvent? found) _
  · exact .ok _

theorem binary_reporting (other : op ≠ .or) (hl : Reporting unsaid left) (hr : Reporting unsaid right) :
    Reporting unsaid (binary patterns op left right) := by
  unfold binary
  split
  · exact conjunction_reporting hl hr
  · exact absurd rfl other
  · exact comparison_reporting hl hr

theorem operator_reporting {left right : Option (Operand σ)} (notOr : op ≠ .or)
    (hl : ∀ operand ∈ left, Reporting unsaid operand)
    (hr : ∀ operand ∈ right, Reporting unsaid operand)
    (noOperand : op = .not → right = none → unsaid .missingOperand)
    (noOperands : op ≠ .not → left = none ∨ right = none → unsaid (.missingOperands op.name)) :
    Reporting unsaid (operator patterns op left right) := by
  by_cases negated : op = .not
  · subst negated
    cases right with
    | none => exact .silent (noOperand rfl rfl)
    | some operand => exact negation_reporting (hr _ rfl)
  · by_cases lacking : left = none ∨ right = none
    · rw [operator_lacking negated lacking]
      exact .silent (noOperands negated lacking)
    · obtain ⟨l, rfl⟩ := Option.ne_none_iff_exists'.mp (not_or.mp lacking).1
      obtain ⟨r, rfl⟩ := Option.ne_none_iff_exists'.mp (not_or.mp lacking).2
      rw [operator_both negated]
      exact binary_reporting notOr (hl _ rfl) (hr _ rfl)

end Operators

theorem lookUp_reporting (name : String) : Reporting unsaid (lookUp ctx name) := by
  unfold lookUp
  split
  · exact .ok _
  · exact .told rfl

theorem failedCall_reporting (name message : String) :
    Reporting unsaid (failedCall name message : Operand σ) :=
  .told rfl

theorem invoke_reporting (name : String) (f : RuleFunction σ) (args : List Datum) :
    Reporting unsaid (invoke name f args) := by
  intro state
  simp only [invoke]
  generalize f args state = answer
  obtain ⟨reply, next⟩ := answer
  cases reply with
  | value d => exact Reporting.ok d next
  | fault message | crash message => exact failedCall_reporting name _ next

theorem call_reporting (name : String) {args : Step σ (Except EvalFault (List Datum))}
    (h : Reporting unsaid args) : Reporting unsaid (call ctx name args) := by
  unfold call
  split
  · next f registered => exact orFail_reporting h (invoke_reporting name f)
  · exact .told rfl

theorem evaluateList_reporting {nodes : List Node} (h : ∀ n ∈ nodes, Reporting unsaid (evaluate ctx n)) :
    Reporting unsaid (evaluateList ctx nodes) := by
  induction nodes with
  | nil => exact .ok _
  | cons head rest ih =>
    obtain ⟨first, others⟩ := List.forall_mem_cons.mp h
    exact orFail_reporting first fun _ => orFail_reporting (ih others) fun _ => .ok _

theorem evaluate_reporting (ctx : Context σ) {root : Node} (noOr : root.WithoutOr) :
    Reporting root.Unreported (evaluate ctx root) := by
  induction root using Node.induct with
  | operator op left right leftIh rightIh =>
    have notOr : op ≠ .or := by
      rintro rfl
      exact noOr left right .self
    have ofChild (n : Node) (mem : n ∈ (Node.operator op left right).children)
        (ih : n.WithoutOr → Reporting n.Unreported (evaluate ctx n)) :
        Reporting (Node.operator op left right).Unreported (evaluate ctx n) :=
      (ih (noOr.child mem)).mono (Unreported.child mem)
    rw [evaluate]
    apply operator_reporting notOr
    · refine forall_mem_evaluateOption.mpr fun n mem => ?_
      exact ofChild n (mem_children_left mem) (leftIh n mem)
    · refine forall_mem_evaluateOption.mpr fun n mem => ?_
      exact ofChild n (mem_children_right mem) (rightIh n mem)
    · rintro rfl none
      rw [evaluateOption_eq_map, Option.map_eq_none_iff] at none
      subst none
      exact .missingOperand .self
    · intro other lacking
      rw [evaluateOption_eq_map, evaluateOption_eq_map, Option.map_eq_none_iff,
        Option.map_eq_none_iff] at lacking
      exact .missingOperands .self other lacking
  | field name => exact lookUp_reporting name
  | literal kind value => exact .ok value
  | array elements ih =>
    refine orFail_reporting (evaluateList_reporting fun n mem => ?_) fun _ => .ok _
    exact (ih n mem (noOr.child mem)).mono (Unreported.child mem)
  | call name args ih =>
    refine call_reporting name (evaluateList_reporting fun n mem => ?_)
    exact (ih n mem (noOr.child mem)).mono (Unreported.child mem)
  | unknown => exact .silent (.unknownNode .self)

/-- Without `or` at most one failure is reported. It is the last event, and the evaluation fails with
just that; and where the tree is well formed, it fails with nothing that was not reported. -/
theorem evaluate_failure_reported (ctx : Context σ) {root : Node} (noOr : root.WithoutOr) (state : σ) :
    let run := evaluate ctx root state
    run.events.countP (·.fault?.isSome) ≤ 1 ∧
      (∀ event ∈ run.events, ∀ fault, event.fault? = some fault →
        run.events.getLast? = some event ∧ run.result = .error fault) ∧
      (root.WellFormed → ∀ fault, run.result = .error fault →
        ∃ event ∈ run.events, event.fault? = some fault) := by
  intro run
  have fits : Reported root.Unreported run.events run.result := evaluate_reporting ctx noOr state
  refine ⟨fits.countP_le, fun event mem fault tells => fits.last_of_mem mem tells, ?_⟩
  intro wellFormed fault failed
  rw [failed] at fits
  exact fits.exists_of_error (wellFormed.not_unreported fault)

theorem evaluate_failure_reported_of_quota :
    let quota : RuleFunction Nat := fun _ calls =>
      (if calls = 0 then .value (.bool true) else .fault "too many calls", calls + 1)
    let ctx : Context Nat := ⟨.obj [], some ⟨[("quota", quota)]⟩, fun _ => none⟩
    let root : Node := .and (.not (.binary .matching (.string "x") (.string "(")))
      (.call "quota" [.call "quota" []])
    let run := evaluate ctx root 0
    let failed : Event := .functionFailed "quota" "too many calls"
    root.WithoutOr ∧ root.WellFormed ∧ run.events = [.badPattern "(", failed] ∧
      run.events.countP (·.fault?.isSome) ≤ 1 ∧ run.events.getLast? = some failed ∧
      run.result = .error (.functionFailed "quota" "too many calls") := by
  intro quota ctx root run failed
  have nodes (n : Node) (h : Within n root) :
      n ∈ [root, .not (.binary .matching (.string "x") (.string "(")),
        .binary .matching (.string "x") (.string "("), .string "x", .string "(",
        .call "quota" [.call "quota" []], .call "quota" []] := by
    refine h.mem_of_closed ?_ List.mem_cons_self
    simp [root, Node.and, Node.not, Node.binary, Node.string, children]
  have noOr : root.WithoutOr := by
    intro left right h
    simpa [root, Node.and, Node.not, Node.binary, Node.string] using nodes _ h
  have wellFormed : root.WellFormed := by
    refine ⟨fun h => ?_, fun op left right h => ?_⟩
    · simpa [root, Node.and, Node.not, Node.binary, Node.string] using nodes _ h
    · have mem := nodes _ h
      simp only [root, Node.and, Node.not, Node.binary, Node.string, List.mem_cons, Node.operator.injEq,
        reduceCtorEq, List.not_mem_nil, or_false] at mem
      rcases mem with ⟨rfl, rfl, rfl⟩ | ⟨rfl, rfl, rfl⟩ | ⟨rfl, rfl, rfl⟩ <;> simp
  have events : run.events = [.badPattern "(", failed] := rfl
  obtain ⟨once, last, -⟩ := evaluate_failure_reported ctx noOr 0
  obtain ⟨final, result⟩ := last failed (by rw [events]; simp) _ rfl
  exact ⟨noOr, wellFormed, events, once, final, result⟩

end Evaluation

end Verdict
