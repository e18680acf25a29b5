import Verdict.Proofs.Datum.Exposure
import Verdict.Proofs.Evaluation.Composition
import Verdict.Proofs.Evaluation.Stateless
import Verdict.Rule.Basic

set_option autoImplicit false

namespace Verdict

variable {σ α β : Type}

namespace Node

mutual

/-- The numbers in the literals of a tree whose text can show, where the value of the tree is looked at
in this way. -/
def exposed (level : Exposure) : Node → List Number
  | .operator op left right =>
      exposedOption (op.leftExposure level) left ++ exposedOption (op.rightExposure level) right
  | .literal _ value => value.exposed level
  | .array elements => exposedEach level.element elements
  | .call _ args => exposedEach .shown args
  | .field _ | .unknown => []

def exposedOption (level : Exposure) : Option Node → List Number
  | none => []
  | some n => exposed level n

def exposedEach (level : Exposure) : List Node → List Number
  | [] => []
  | n :: rest => exposed level n ++ exposedEach level rest

end

theorem exposedEach_eq_flatMap (level : Exposure) (nodes : List Node) :
    exposedEach level nodes = nodes.flatMap (exposed level) := by
  induction nodes with
  | nil => rfl
  | cons n rest ih => rw [exposedEach, ih, List.flatMap_cons]

structure Alike (level : Exposure) (n m : Node) : Prop where
  same : n.same m
  exposed : n.exposed level = m.exposed level

inductive Matched (literal : Datum → Datum → Prop) (left right : Operator → Node → Node → Prop)
    (element arg : Node → Node → Prop) : Node → Node → Prop where
  | operator (op : Operator) {l l' r r' : Option Node} : Option.Rel (left op) l l' →
      Option.Rel (right op) r r' →
      Matched literal left right element arg (.operator op l r) (.operator op l' r')
  | field (name : String) : Matched literal left right element arg (.field name) (.field name)
  | literal (kind : LiteralKind) {d e : Datum} : literal d e →
      Matched literal left right element arg (.literal kind d) (.literal kind e)
  | array {xs ys : List Node} : List.Forall₂ element xs ys →
      Matched literal left right element arg (.array xs) (.array ys)
  | call (name : String) {xs ys : List Node} : List.Forall₂ arg xs ys →
      Matched literal left right element arg (.call name xs) (.call name ys)
  | unknown : Matched literal left right element arg .unknown .unknown

theorem sameOption_iff {l r : Option Node} :
    sameOption l r ↔ Option.Rel (fun n m => n.same m = true) l r := by
  cases l <;> cases r <;> simp [sameOption]

theorem sameList_iff {xs ys : List Node} :
    sameList xs ys ↔ List.Forall₂ (fun n m => n.same m = true) xs ys := by
  induction xs generalizing ys with
  | nil => cases ys <;> simp [sameList]
  | cons x xs ih => cases ys <;> simp [sameList, ih]

theorem matched_of_same {n m : Node} (h : n.same m) :
    Matched (fun d e => d.same e) (fun _ n m => n.same m) (fun _ n m => n.same m)
      (fun n m => n.same m) (fun n m => n.same m) n m := by
  cases n <;> cases m <;> first | cases h | skip
  case operator.operator =>
    simp only [same, Bool.and_eq_true, beq_iff_eq] at h
    obtain ⟨⟨rfl, left⟩, right⟩ := h
    exact .operator _ (sameOption_iff.mp left) (sameOption_iff.mp right)
  case field.field => exact beq_iff_eq.mp h ▸ .field _
  case literal.literal =>
    simp only [same, Bool.and_eq_true, beq_iff_eq] at h
    obtain ⟨rfl, value⟩ := h
    exact .literal _ value
  case array.array => exact .array (sameList_iff.mp h)
  case call.call =>
    simp only [same, Bool.and_eq_true, beq_iff_eq] at h
    obtain ⟨rfl, args⟩ := h
    exact .call _ (sameList_iff.mp args)
  case unknown.unknown => exact .unknown

theorem length_exposedOption {l r : Option Node} {level : Exposure}
    (ih : ∀ n ∈ l, ∀ {m}, n.same m → (n.exposed level).length = (m.exposed level).length)
    (h : Option.Rel (fun n m => n.same m = true) l r) :
    (exposedOption level l).length = (exposedOption level r).length := by
  cases h with
  | none => rfl
  | some same => exact ih _ rfl same

theorem length_exposedEach {xs ys : List Node} {level : Exposure}
    (ih : ∀ n ∈ xs, ∀ {m}, n.same m → (n.exposed level).length = (m.exposed level).length)
    (h : List.Forall₂ (fun n m => n.same m = true) xs ys) :
    (exposedEach level xs).length = (exposedEach level ys).length := by
  rw [exposedEach_eq_flatMap, exposedEach_eq_flatMap]
  apply length_flatMap_eq
  exact ((List.forall₂_and_left _ _).mpr ⟨ih, h⟩).imp fun n m ⟨ih, same⟩ => ih same

theorem length_exposed {n m : Node} (h : n.same m) (level : Exposure) :
    (n.exposed level).length = (m.exposed level).length := by
  induction n using Node.induct generalizing m level with
  | operator op left right leftIh rightIh =>
    cases matched_of_same h with
    | operator _ first second =>
      simp only [exposed, List.length_append,
        length_exposedOption (fun n mem _ same => leftIh n mem same _) first,
        length_exposedOption (fun n mem _ same => rightIh n mem same _) second]
  | field | unknown => cases matched_of_same h; rfl
  | literal kind value =>
    cases matched_of_same h with
    | literal _ same => exact Datum.length_exposed same level
  | array elements ih =>
    cases matched_of_same h with
    | array each => exact length_exposedEach (fun n mem _ same => ih n mem same _) each
  | call name args ih =>
    cases matched_of_same h with
    | call _ each => exact length_exposedEach (fun n mem _ same => ih n mem same _) each

theorem alike_option {l r : Option Node} {level : Exposure}
    (h : Option.Rel (fun n m => n.same m = true) l r)
    (shown : exposedOption level l = exposedOption level r) : Option.Rel (Alike level) l r := by
  cases h with
  | none => exact .none
  | some same => exact .some ⟨same, shown⟩

theorem alike_each {xs ys : List Node} {level : Exposure}
    (h : List.Forall₂ (fun n m => n.same m = true) xs ys)
    (shown : exposedEach level xs = exposedEach level ys) : List.Forall₂ (Alike level) xs ys := by
  rw [exposedEach_eq_flatMap, exposedEach_eq_flatMap] at shown
  have parts := forall₂_of_flatMap_eq h (fun n m same => length_exposed same level) shown
  exact parts.imp fun n m part => ⟨part.1, part.2⟩

theorem Alike.matched {level : Exposure} {n m : Node} (h : Alike level n m) :
    Matched (Datum.Alike level) (fun op => Alike (op.leftExposure level))
      (fun op => Alike (op.rightExposure level)) (Alike level.element) (Alike .shown) n m := by
  obtain ⟨same, shown⟩ := h
  cases matched_of_same same with
  | operator op left right =>
    obtain ⟨first, second⟩ := List.append_inj shown
      (length_exposedOption (fun n _ _ same => length_exposed same _) left)
    exact .operator op (alike_option left first) (alike_option right second)
  | field name => exact .field name
  | literal kind value => exact .literal kind ⟨value, shown⟩
  | array each => exact .array (alike_each each shown)
  | call name each => exact .call name (alike_each each shown)
  | unknown => exact .unknown

end Node

structure Run.Alike (R : α → α → Prop) (run run' : Run σ α) : Prop where
  result : R run.result run'.result
  events : run.events = run'.events
  calls : run.calls = run'.calls
  state : run.state = run'.state

def Step.Alike (R : α → α → Prop) (step step' : Step σ α) : Prop :=
  ∀ state, (step state).Alike R (step' state)

namespace Step.Alike

variable {R : α → α → Prop} {Q : β → β → Prop}

theorem refl (related : ∀ a, R a a) (step : Step σ α) : Alike R step step :=
  fun state => ⟨related (step state).result, rfl, rfl, rfl⟩

theorem done {a b : α} (h : R a b) : Alike R (.done a : Step σ α) (.done b) :=
  fun _ => ⟨h, rfl, rfl, rfl⟩

theorem andThen {first first' : Step σ α} {next next' : α → Step σ β} (h : Alike R first first')
    (hnext : ∀ a b, R a b → Alike Q (next a) (next' b)) :
    Alike Q (first.andThen next) (first'.andThen next') := by
  intro state
  obtain ⟨related, events, calls, states⟩ := h state
  obtain ⟨last, moreEvents, moreCalls, lastState⟩ := hnext _ _ related (first state).state
  simp only [Step.andThen, ← events, ← calls, ← states]
  exact ⟨last, congrArg (_ ++ ·) moreEvents, congrArg (_ ++ ·) moreCalls, lastState⟩

end Step.Alike

namespace Evaluation

open Step Node

inductive Agree (R : α → α → Prop) : Except EvalFault α → Except EvalFault α → Prop where
  | ok {a b : α} : R a b → Agree R (.ok a) (.ok b)
  | error (fault : EvalFault) : Agree R (.error fault) (.error fault)

theorem Agree.refl {R : α → α → Prop} (related : ∀ a, R a a) (r : Except EvalFault α) : Agree R r r := by
  cases r with
  | ok a => exact .ok (related a)
  | error fault => exact .error fault

abbrev Corresponds (level : Exposure) (operand operand' : Operand σ) : Prop :=
  Step.Alike (Agree (Datum.Alike level)) operand operand'

theorem corresponds_refl (level : Exposure) (operand : Operand σ) :
    Corresponds level operand operand :=
  .refl (Agree.refl (Datum.Alike.refl level)) operand

theorem orFail_alike {R : α → α → Prop} {Q : β → β → Prop}
    {first first' : Step σ (Except EvalFault α)} {next next' : α → Step σ (Except EvalFault β)}
    (h : Step.Alike (Agree R) first first')
    (hnext : ∀ a b, R a b → Step.Alike (Agree Q) (next a) (next' b)) :
    Step.Alike (Agree Q) (orFail first next) (orFail first' next') := by
  refine h.andThen fun r r' agree => ?_
  cases agree with
  | ok related => exact hnext _ _ related
  | error fault => exact .done (.error fault)

section Operators

variable {level below : Exposure} {left left' right right' : Operand σ}

theorem negation_alike (h : Corresponds below left left') :
    Corresponds level (negation left) (negation left') := by
  refine orFail_alike h fun d e alike => ?_
  rw [Datum.isZero_eq_of_same alike.same]
  exact corresponds_refl level _

theorem conjunct_alike (side : Side) (hl : Corresponds below left left')
    (hr : Corresponds level right right') :
    Corresponds level (conjunct side left right) (conjunct side left' right') := by
  refine orFail_alike hl fun d e alike => ?_
  rw [Datum.isZero_eq_of_same alike.same]
  split
  · exact corresponds_refl level _
  · exact hr

theorem conjunction_alike (hl : Corresponds below left left') (hr : Corresponds below right right') :
    Corresponds level (conjunction left right) (conjunction left' right') :=
  conjunct_alike .left hl (conjunct_alike .right hr (corresponds_refl level _))

theorem passes_eq_of_agree {r r' : Result} (h : Agree (Datum.Alike level) r r') :
    passes r = passes r' := by
  cases h with
  | ok alike => simp only [passes, Datum.isZero_eq_of_same alike.same]
  | error fault => rfl

theorem coalesce_agree {l l' r r' : Result} (hl : Agree (Datum.Alike level) l l')
    (hr : Agree (Datum.Alike level) r r') :
    Agree (Datum.Alike level) (coalesce l r) (coalesce l' r') := by
  cases hl with
  | ok left =>
    cases hr with
    | ok right => exact .refl (.refl level) _
    | error fault => exact .ok left
  | error fault =>
    cases hr with
    | ok right => exact .ok right
    | error other => exact .error fault

theorem disjunction_alike (hl : Corresponds level left left') (hr : Corresponds level right right') :
    Corresponds level (disjunction left right) (disjunction left' right') := by
  refine hl.andThen fun l l' first => ?_
  rw [passes_eq_of_agree first]
  split
  · exact corresponds_refl level _
  · refine hr.andThen fun r r' second => .done ?_
    rw [passes_eq_of_agree second]
    split
    · exact .refl (.refl level) _
    · exact coalesce_agree first second

theorem comparisonEvent?_eq_of_same (patterns : Datum.Patterns) (op : Operator) {d e : Datum}
    (h : d.same e) : comparisonEvent? patterns op d = comparisonEvent? patterns op e := by
  cases op with
  | matching => cases Datum.matched_of_same h <;> rfl
  | _ => rfl

theorem comparison_alike {upper : Exposure} (patterns : Datum.Patterns) (op : Operator)
    (hl : Corresponds (op.leftExposure upper) left left')
    (hr : Corresponds (op.rightExposure upper) right right') :
    Corresponds level (comparison patterns op left right) (comparison patterns op left' right') := by
  refine orFail_alike hl fun d d' first => orFail_alike hr fun e e' second => ?_
  rw [Datum.compareBy_eq patterns op first second,
    comparisonEvent?_eq_of_same patterns op second.same]
  exact corresponds_refl level _

theorem binary_alike (patterns : Datum.Patterns) (op : Operator)
    (hl : Corresponds (op.leftExposure level) left left')
    (hr : Corresponds (op.rightExposure level) right right') :
    Corresponds level (binary patterns op left right) (binary patterns op left' right') := by
  unfold binary
  split
  · exact conjunction_alike hl hr
  · exact disjunction_alike hl hr
  · exact comparison_alike patterns _ hl hr

theorem operator_alike (patterns : Datum.Patterns) (op : Operator)
    {left left' right right' : Option (Operand σ)}
    (hl : Option.Rel (Corresponds (op.leftExposure level)) left left')
    (hr : Option.Rel (Corresponds (op.rightExposure level)) right right') :
    Corresponds level (operator patterns op left right) (operator patterns op left' right') := by
  by_cases negated : op = .not
  · subst negated
    cases hr with
    | none => exact corresponds_refl level _
    | some hr => exact negation_alike hr
  · cases hl with
    | none =>
      rw [operator_lacking negated (.inl rfl), operator_lacking negated (.inl rfl)]
      exact corresponds_refl level _
    | some hl =>
      cases hr with
      | none =>
        rw [operator_lacking negated (.inr rfl), operator_lacking negated (.inr rfl)]
        exact corresponds_refl level _
      | some hr =>
        rw [operator_both negated, operator_both negated]
        exact binary_alike patterns op hl hr

end Operators

section Tree

variable {ctx : Context σ}

theorem call_alike {level : Exposure} (name : String)
    {args args' : Step σ (Except EvalFault (List Datum))}
    (h : Step.Alike (Agree (List.Forall₂ (Datum.Alike .shown))) args args') :
    Corresponds level (call ctx name args) (call ctx name args') := by
  unfold call
  cases ctx.function? name with
  | none => exact corresponds_refl level _
  | some f =>
    refine orFail_alike h fun values values' each => ?_
    have same := each.imp fun _ _ alike => alike.eq_of_shown
    rw [List.forall₂_eq_eq_eq] at same
    rw [same]
    exact corresponds_refl level _

theorem evaluateOption_alike {level : Exposure} {l r : Option Node}
    (ih : ∀ n ∈ l, ∀ {m}, Alike level n m → Corresponds level (evaluate ctx n) (evaluate ctx m))
    (h : Option.Rel (Alike level) l r) :
    Option.Rel (Corresponds level) (evaluateOption ctx l) (evaluateOption ctx r) := by
  cases h with
  | none => exact .none
  | some alike => exact .some (ih _ rfl alike)

theorem evaluateList_alike {level : Exposure} {xs ys : List Node}
    (ih : ∀ n ∈ xs, ∀ {m}, Alike level n m → Corresponds level (evaluate ctx n) (evaluate ctx m))
    (h : List.Forall₂ (Alike level) xs ys) :
    Step.Alike (Agree (List.Forall₂ (Datum.Alike level))) (evaluateList ctx xs)
      (evaluateList ctx ys) := by
  induction h with
  | nil => exact .done (.ok .nil)
  | cons first _ rest =>
    obtain ⟨here, there⟩ := List.forall_mem_cons.mp ih
    refine orFail_alike (here first) fun d e alike => ?_
    exact orFail_alike (rest there) fun ds es each => .done (.ok (.cons alike each))

theorem evaluate_alike {level : Exposure} {n m : Node} (h : Alike level n m) :
    Corresponds level (evaluate ctx n) (evaluate ctx m) := by
  -- at all levels at once: what has to be the same of a node is what its parent looks at
  induction n using Node.induct generalizing m level with
  | operator op left right leftIh rightIh =>
    cases h.matched with
    | operator _ first second =>
      apply operator_alike ctx.patterns op
      · exact evaluateOption_alike (fun n mem _ alike => leftIh n mem alike) first
      · exact evaluateOption_alike (fun n mem _ alike => rightIh n mem alike) second
  | field | unknown =>
    cases h.matched
    exact corresponds_refl level _
  | literal kind value =>
    cases h.matched with
    | literal _ alike => exact .done (.ok alike)
  | array elements ih =>
    cases h.matched with
    | array each =>
      have values := evaluateList_alike (fun n mem _ alike => ih n mem alike) each
      exact orFail_alike values fun ds es parts => .done (.ok (.arr parts))
  | call name args ih =>
    cases h.matched with
    | call _ each =>
      exact call_alike name (evaluateList_alike (fun n mem _ alike => ih n mem alike) each)

end Tree

end Evaluation

open Evaluation

def Outcome.same (a b : Outcome) : Bool := a.ok == b.ok && a.value.same b.value && a.error == b.error

theorem Outcome.same_of_agree {level : Exposure} {r r' : Result} (h : Agree (Datum.Alike level) r r') :
    (ofResult r).same (ofResult r') ∧ (ofResult r).pass = (ofResult r').pass := by
  cases h with
  | ok alike => simp [ofResult, success, Outcome.same, pass, alike.same, Datum.isZero_eq_of_same alike.same]
  | error fault => simp [ofResult, failure, Outcome.same, pass, Datum.same]

-- The numbers in the literals of a rule whose text can show in an evaluation. No text is made of what the
-- rule evaluates to.
def Rule.exposed (r : Rule) : List Number := r.root.exposed .hidden

/-- Equal rules whose zeros have the same sign wherever their text can show have equal outcomes, and
pass together, on every record and with every table of functions without a state. -/
theorem Rule.outcome_same {a b : Rule} (same : a.same b) (shown : a.exposed = b.exposed)
    {ctx : Context σ} (stateless : ctx.Stateless) (state state' : σ) :
    let outcome (rule : Rule) (state : σ) := Outcome.ofResult (evaluate ctx rule.root state).result
    (outcome a state).same (outcome b state') ∧ (outcome a state).pass = (outcome b state').pass := by
  intro outcome
  have trees : a.root.same b.root := (Bool.and_eq_true_iff.mp same).1
  have alike : Corresponds .hidden (evaluate ctx a.root) (evaluate ctx b.root) :=
    evaluate_alike ⟨trees, shown⟩
  have agree := (alike state).result
  rw [(Run.observed_eq_iff.mp (evaluate_steady stateless b.root state state')).1] at agree
  exact Outcome.same_of_agree agree

theorem Rule.same_with_other_outcome :
    let rule (negative : Bool) : Rule := .ofNode
      (.call "starts_with" [.float ⟨negative, 0, by decide⟩, .string "-"])
    let ctx : Context Nat := ⟨.obj [], some .standard, fun _ => none⟩
    let outcome (r : Rule) := Outcome.ofResult (evaluate ctx r.root 0).result
    (rule false).same (rule true) ∧ ctx.Stateless ∧
      ¬(outcome (rule false)).same (outcome (rule true)) ∧
      (outcome (rule false)).pass ≠ (outcome (rule true)).pass := by
  intro rule ctx outcome
  have stateless : ctx.Stateless := fun name f found => Registry.standard_stateless name f found
  exact ⟨rfl, stateless, by decide +kernel, by decide +kernel⟩

theorem Rule.outcome_same_of_zeros :
    let zero : Number := .float ⟨false, 0, by decide⟩ rfl
    let minusZero : Number := .float ⟨true, 0, by decide⟩ rfl
    let rule (n : Number) : Rule := .ofNode (.and
      (.binary .isIn (.field "n") (.array [.literal .float (.num n), .string "x"]))
      (.call "starts_with" [.literal .float (.num minusZero), .string "-"]))
    let ctx : Context Nat := ⟨.obj [("n", .num .zero)], some .standard, fun _ => none⟩
    let outcome (r : Rule) := Outcome.ofResult (evaluate ctx r.root 0).result
    (rule zero).exposed = [minusZero] ∧ (outcome (rule zero)).pass ∧
      (outcome (rule zero)).same (outcome (rule minusZero)) ∧
      (outcome (rule zero)).pass = (outcome (rule minusZero)).pass := by
  intro zero minusZero rule ctx outcome
  have stateless : ctx.Stateless := fun name f found => Registry.standard_stateless name f found
  refine ⟨rfl, by decide +kernel, ?_⟩
  exact outcome_same (a := rule zero) (b := rule minusZero) rfl rfl stateless 0 0

end Verdict
