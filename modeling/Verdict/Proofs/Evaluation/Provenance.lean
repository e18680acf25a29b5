import Verdict.Proofs.Evaluation.Sequence
import Verdict.Proofs.Rule.Tree

set_option autoImplicit false

namespace Verdict

variable {σ α β : Type}

structure Exchange where
  call : Call
  reply : Reply

def Reply.failure? : Reply → Option String
  | .value _ => none
  | .fault message => some message
  | .crash message => some (crashText message)

/-- Calls of registered functions made one after another, with their replies, from the first state
to the last. -/
inductive Context.Exchanged (ctx : Context σ) : σ → List Exchange → σ → Prop where
  | nil (state : σ) : ctx.Exchanged state [] state
  | cons {state last : σ} {c : Call} {f : RuleFunction σ} {rest : List Exchange} :
      ctx.function? c.name = some f → ctx.Exchanged (f c.args state).2 rest last →
      ctx.Exchanged state (⟨c, (f c.args state).1⟩ :: rest) last

namespace Context.Exchanged

variable {ctx : Context σ} {first middle last : σ} {xs ys : List Exchange}

theorem append (h : ctx.Exchanged first xs middle) (more : ctx.Exchanged middle ys last) :
    ctx.Exchanged first (xs ++ ys) last := by
  induction h with
  | nil state => exact more
  | cons registered _ ih => exact .cons registered (ih more)

theorem reply_of_mem (h : ctx.Exchanged first xs last) {x : Exchange} (mem : x ∈ xs) :
    ∃ f state, ctx.function? x.call.name = some f ∧ x.reply = (f x.call.args state).1 := by
  induction h with
  | nil state => cases mem
  | cons registered _ ih =>
    rcases List.mem_cons.mp mem with rfl | mem
    · exact ⟨_, _, registered, rfl⟩
    · exact ih mem

end Context.Exchanged

namespace Step

/-- What the calls of a computation exchanged accounts for the state it leaves and for its result. -/
def Traced (ctx : Context σ) (Q : α → List Exchange → Prop) (step : Step σ α) : Prop :=
  ∀ state, ∃ xs, ctx.Exchanged state xs (step state).state ∧
    (step state).calls = xs.map Exchange.call ∧ Q (step state).result xs

namespace Traced

variable {ctx : Context σ}

theorem done {Q : α → List Exchange → Prop} {a : α} (h : Q a []) : Traced ctx Q (Step.done a) :=
  fun state => ⟨[], .nil state, rfl, h⟩

theorem report {Q : α → List Exchange → Prop} (event : Event) {a : α} (h : Q a []) :
    Traced ctx Q (Step.report event a) :=
  fun state => ⟨[], .nil state, rfl, h⟩

theorem andThen {P : α → List Exchange → Prop} {Q : β → List Exchange → Prop} {first : Step σ α}
    {next : α → Step σ β} (hfirst : Traced ctx P first)
    (hnext : ∀ a xs, P a xs → Traced ctx (fun b ys => Q b (xs ++ ys)) (next a)) :
    Traced ctx Q (first.andThen next) := by
  intro state
  obtain ⟨xs, made, calls, reached⟩ := hfirst state
  obtain ⟨ys, more, moreCalls, result⟩ := hnext _ xs reached (first state).state
  refine ⟨xs ++ ys, made.append more, ?_, result⟩
  simp only [Step.andThen, calls, moreCalls, List.map_append]

theorem mono {P Q : α → List Exchange → Prop} {step : Step σ α} (h : Traced ctx P step)
    (weaker : ∀ a xs, P a xs → Q a xs) : Traced ctx Q step := by
  intro state
  obtain ⟨xs, made, calls, reached⟩ := h state
  exact ⟨xs, made, calls, weaker _ xs reached⟩

end Traced

end Step

namespace Evaluation

open Node Step

/-- The failures there can be, each by its message and with its cause: a node of the tree, and what
the record, the table of functions or a called function made of it. -/
inductive Cause (ctx : Context σ) (root : Node) (xs : List Exchange) : String → Prop where
  | missingField {name : String} : Within (.field name) root → ctx.record.resolve? name = none →
      Cause ctx root xs ("Missing field: " ++ name)
  | unknownFunction {name : String} {args : List Node} : Within (.call name args) root →
      ctx.function? name = none → Cause ctx root xs ("Unknown function: " ++ name)
  | functionFailed {args : List Node} {x : Exchange} {message : String} :
      Within (.call x.call.name args) root → x ∈ xs → x.reply.failure? = some message →
      Cause ctx root xs ("Function " ++ x.call.name ++ " failed: " ++ message)
  | unknownNode : Within .unknown root → Cause ctx root xs "Unknown node type"
  | missingOperand {left : Option Node} : Within (.operator .not left none) root →
      Cause ctx root xs "not operator requires right operand"
  | missingOperands {op : Operator} {left right : Option Node} :
      Within (.operator op left right) root → op ≠ .not → left = none ∨ right = none →
      Cause ctx root xs (op.name ++ " requires two operands")

section

variable {ctx : Context σ} {root : Node}

theorem Cause.mono {root' : Node} {xs xs' : List Exchange} {message : String}
    (within : ∀ n, Within n root → Within n root') (kept : ∀ x ∈ xs, x ∈ xs')
    (h : Cause ctx root xs message) : Cause ctx root' xs' message := by
  cases h with
  | missingField node absent => exact .missingField (within _ node) absent
  | unknownFunction node absent => exact .unknownFunction (within _ node) absent
  | functionFailed node mem failed => exact .functionFailed (within _ node) (kept _ mem) failed
  | unknownNode node => exact .unknownNode (within _ node)
  | missingOperand node => exact .missingOperand (within _ node)
  | missingOperands node other lacking => exact .missingOperands (within _ node) other lacking

def Explained (ctx : Context σ) (root : Node) (r : Except EvalFault α) (xs : List Exchange) : Prop :=
  ∀ fault, r = .error fault → Cause ctx root xs fault.message

abbrev Accounted (ctx : Context σ) (root : Node) (step : Step σ (Except EvalFault α)) : Prop :=
  Traced ctx (Explained ctx root) step

theorem explained_ok (a : α) (xs : List Exchange) :
    Explained ctx root (.ok a : Except EvalFault α) xs := nofun

theorem explained_error {fault : EvalFault} {xs : List Exchange}
    (h : Cause ctx root xs fault.message) :
    Explained ctx root (.error fault : Except EvalFault α) xs := by
  rintro _ ⟨⟩
  exact h

theorem Explained.append {r : Except EvalFault α} {ys : List Exchange} (h : Explained ctx root r ys)
    (xs : List Exchange) : Explained ctx root r (xs ++ ys) :=
  fun fault same => (h fault same).mono (fun _ => id) fun _ => List.mem_append_right xs

theorem Accounted.within {root' : Node} {step : Step σ (Except EvalFault α)}
    (h : Accounted ctx root step) (within : ∀ n, Within n root → Within n root') :
    Accounted ctx root' step :=
  h.mono fun _ _ explained fault same => (explained fault same).mono within fun _ => id

theorem orFail_accounted {first : Step σ (Except EvalFault α)}
    {next : α → Step σ (Except EvalFault β)} (hfirst : Accounted ctx root first)
    (hnext : ∀ a, Accounted ctx root (next a)) : Accounted ctx root (orFail first next) := by
  refine Traced.andThen hfirst fun r xs explained => ?_
  cases r with
  | ok a => exact (hnext a).mono fun b ys later => later.append xs
  | error fault =>
    refine .done (explained_error ?_)
    rw [List.append_nil]
    exact explained fault rfl

theorem negation_accounted {operand : Operand σ} (h : Accounted ctx root operand) :
    Accounted ctx root (negation operand) :=
  orFail_accounted h fun _ => .done (explained_ok _ _)

theorem conjunct_accounted {side : Side} {operand next : Operand σ} (h : Accounted ctx root operand)
    (hnext : Accounted ctx root next) : Accounted ctx root (conjunct side operand next) := by
  refine orFail_accounted h fun d => ?_
  split
  · exact .report _ (explained_ok _ _)
  · exact hnext

theorem conjunction_accounted {left right : Operand σ} (hl : Accounted ctx root left)
    (hr : Accounted ctx root right) : Accounted ctx root (conjunction left right) :=
  conjunct_accounted hl (conjunct_accounted hr (.done (explained_ok _ _)))

theorem coalesce_eq_error {l r : Result} {fault : EvalFault} (h : coalesce l r = .error fault) :
    l = .error fault := by
  cases l <;> cases r <;> first | exact h | cases h

theorem disjunction_accounted {left right : Operand σ} (hl : Accounted ctx root left)
    (hr : Accounted ctx root right) : Accounted ctx root (disjunction left right) := by
  refine Traced.andThen hl fun l xs explained => ?_
  split
  · exact .report _ (explained_ok _ _)
  · refine Traced.andThen hr fun r ys _ => .done ?_
    split
    · exact explained_ok _ _
    · intro fault failed
      refine (explained fault (coalesce_eq_error failed)).mono (fun _ => id) fun x mem => ?_
      exact List.mem_append_left _ mem

theorem comparison_accounted {patterns : Datum.Patterns} {op : Operator} {left right : Operand σ}
    (hl : Accounted ctx root left) (hr : Accounted ctx root right) :
    Accounted ctx root (comparison patterns op left right) := by
  refine orFail_accounted hl fun l => orFail_accounted hr fun r => ?_
  simp only
  split
  · exact .report _ (explained_ok _ _)
  · exact .done (explained_ok _ _)

theorem binary_accounted {patterns : Datum.Patterns} {op : Operator} {left right : Operand σ}
    (hl : Accounted ctx root left) (hr : Accounted ctx root right) :
    Accounted ctx root (binary patterns op left right) := by
  unfold binary
  split
  · exact conjunction_accounted hl hr
  · exact disjunction_accounted hl hr
  · exact comparison_accounted hl hr

theorem operator_accounted {patterns : Datum.Patterns} {op : Operator}
    {left right : Option (Operand σ)} (hl : ∀ operand ∈ left, Accounted ctx root operand)
    (hr : ∀ operand ∈ right, Accounted ctx root operand)
    (noOperand : op = .not → right = none → Cause ctx root [] EvalFault.missingOperand.message)
    (noOperands : op ≠ .not → left = none ∨ right = none →
      Cause ctx root [] (EvalFault.missingOperands op.name).message) :
    Accounted ctx root (operator patterns op left right) := by
  unfold operator
  split
  · exact negation_accounted (hr _ rfl)
  · exact .done (explained_error (noOperand rfl rfl))
  · exact binary_accounted (hl _ rfl) (hr _ rfl)
  · next notSome notNone notBoth =>
    refine .done (explained_error (noOperands ?_ ?_))
    · intro negated
      cases right with
      | none => exact notNone negated rfl
      | some operand => exact notSome operand negated rfl
    · cases left with
      | none => exact .inl rfl
      | some first =>
        cases right with
        | none => exact .inr rfl
        | some second => exact (notBoth first second rfl rfl).elim

theorem invoke_accounted {name : String} {f : RuleFunction σ} {args : List Node}
    (registered : ctx.function? name = some f) (node : Within (.call name args) root)
    (values : List Datum) : Accounted ctx root (invoke name f values) := by
  intro state
  have made : ctx.Exchanged state [⟨⟨name, values⟩, (f values state).1⟩] (f values state).2 :=
    .cons registered (.nil _)
  simp only [invoke]
  generalize f values state = answer at made
  obtain ⟨reply, last⟩ := answer
  have failing (message : String) (failed : reply.failure? = some message) :
      Cause ctx root [⟨⟨name, values⟩, reply⟩] (EvalFault.functionFailed name message).message :=
    .functionFailed (x := ⟨⟨name, values⟩, reply⟩) node List.mem_cons_self failed
  cases reply with
  | value d => exact ⟨_, made, rfl, explained_ok _ _⟩
  | fault message => exact ⟨_, made, rfl, explained_error (failing message rfl)⟩
  | crash message => exact ⟨_, made, rfl, explained_error (failing _ rfl)⟩

theorem lookUp_accounted {name : String} (node : Within (.field name) root) :
    Accounted ctx root (lookUp ctx name) := by
  unfold lookUp
  split
  · exact .done (explained_ok _ _)
  · next absent => exact .report _ (explained_error (.missingField node absent))

theorem call_accounted {name : String} {args : List Node} {values : Step σ (Except EvalFault (List Datum))}
    (node : Within (.call name args) root) (h : Accounted ctx root values) :
    Accounted ctx root (call ctx name values) := by
  unfold call
  split
  · next f registered => exact orFail_accounted h (invoke_accounted registered node)
  · next unbound => exact .report _ (explained_error (.unknownFunction node unbound))

theorem evaluateList_accounted {nodes : List Node}
    (h : ∀ n ∈ nodes, Accounted ctx root (evaluate ctx n)) :
    Accounted ctx root (evaluateList ctx nodes) := by
  induction nodes with
  | nil => exact .done (explained_ok _ _)
  | cons head rest ih =>
    refine orFail_accounted (h head List.mem_cons_self) fun value => ?_
    exact orFail_accounted (ih fun n mem => h n (List.mem_cons_of_mem _ mem)) fun _ =>
      .done (explained_ok _ _)

end

theorem evaluate_accounted (ctx : Context σ) (root : Node) :
    Accounted ctx root (evaluate ctx root) := by
  induction root using Node.induct with
  | operator op left right leftIh rightIh =>
    rw [evaluate]
    apply operator_accounted
    · refine forall_mem_evaluateOption.mpr fun n mem => ?_
      exact (leftIh n mem).within fun _ h => h.ofLeft mem
    · refine forall_mem_evaluateOption.mpr fun n mem => ?_
      exact (rightIh n mem).within fun _ h => h.ofRight mem
    · rintro rfl none
      rw [evaluateOption_eq_map, Option.map_eq_none_iff] at none
      subst none
      exact .missingOperand .self
    · intro other lacking
      rw [evaluateOption_eq_map, evaluateOption_eq_map, Option.map_eq_none_iff,
        Option.map_eq_none_iff] at lacking
      exact .missingOperands .self other lacking
  | field name => exact lookUp_accounted .self
  | literal kind value => exact .done (explained_ok _ _)
  | array elements ih =>
    refine orFail_accounted (evaluateList_accounted fun n mem => ?_) fun _ =>
      .done (explained_ok _ _)
    exact (ih n mem).within fun _ h => h.ofElement mem
  | call name args ih =>
    refine call_accounted .self (evaluateList_accounted fun n mem => ?_)
    exact (ih n mem).within fun _ h => h.ofArgument mem
  | unknown => exact .done (explained_error (.unknownNode .self))

/-- Nothing can go wrong: no unknown node, no operator without an operand it needs, no field that the
record lacks, no function that is not registered or may fail. -/
structure Sound (ctx : Context σ) (root : Node) : Prop where
  known : ¬Within .unknown root
  complete : ∀ op left right, Within (.operator op left right) root →
    right ≠ none ∧ (op ≠ .not → left ≠ none)
  resolved : ∀ name ∈ root.requiredFields, ctx.record.resolve? name ≠ none
  answered : ∀ name args, Within (.call name args) root →
    ∃ f, ctx.function? name = some f ∧ ∀ values state, (f values state).1.failure? = none

theorem Sound.not_cause {ctx : Context σ} {root : Node} (sound : Sound ctx root) {first last : σ}
    {xs : List Exchange} (made : ctx.Exchanged first xs last) (message : String) :
    ¬Cause ctx root xs message := by
  intro cause
  cases cause with
  | missingField node absent => exact sound.resolved _ (mem_requiredFields.mpr node) absent
  | unknownFunction node unbound =>
    obtain ⟨f, registered, -⟩ := sound.answered _ _ node
    rw [unbound] at registered
    cases registered
  | functionFailed node mem failed =>
    obtain ⟨f, registered, never⟩ := sound.answered _ _ node
    obtain ⟨g, state, same, reply⟩ := made.reply_of_mem mem
    rw [registered] at same
    cases same
    rw [reply, never] at failed
    cases failed
  | unknownNode node => exact sound.known node
  | missingOperand node => exact (sound.complete _ _ _ node).1 rfl
  | missingOperands node other lacking =>
    obtain ⟨right, left⟩ := sound.complete _ _ _ node
    rcases lacking with none | none
    · exact left other none
    · exact right none

/-- An outcome is ok and without an error, or it has no value and an error whose cause is there, among
what was exchanged in calls if it was a call that failed; it is ok where nothing can go wrong. -/
theorem evaluate_outcome (ctx : Context σ) (root : Node) (state : σ) :
    let run := evaluate ctx root state
    let outcome := Outcome.ofResult run.result
    (∃ xs, ctx.Exchanged state xs run.state ∧ run.calls = xs.map Exchange.call ∧
      (outcome.ok = true ∧ outcome.error = none ∨
        outcome.ok = false ∧ outcome.value = .null ∧
          ∃ message, outcome.error = some message ∧ Cause ctx root xs message)) ∧
      (Sound ctx root → outcome.ok = true) := by
  intro run outcome
  obtain ⟨xs, made, calls, explained⟩ := evaluate_accounted ctx root state
  cases result : run.result with
  | ok d =>
    have shown : outcome = .success d := congrArg Outcome.ofResult result
    rw [shown]
    exact ⟨⟨xs, made, calls, .inl ⟨rfl, rfl⟩⟩, fun _ => rfl⟩
  | error fault =>
    have cause := explained fault result
    have shown : outcome = .failure fault.message := congrArg Outcome.ofResult result
    rw [shown]
    exact ⟨⟨xs, made, calls, .inr ⟨rfl, rfl, fault.message, rfl, cause⟩⟩,
      fun sound => absurd cause (sound.not_cause made _)⟩

theorem evaluate_outcome_of_counter :
    let count : RuleFunction Nat := fun _ calls => (.value (.ofInt calls), calls + 1)
    let ctx : Context Nat := ⟨.obj [("a", .null)], some ⟨[("count", count)]⟩, fun _ => none⟩
    (Outcome.ofResult (evaluate ctx (.not (.call "count" [.field "a"])) 0).result).ok = true := by
  intro count ctx
  have nodes (n : Node) (h : Within n (.not (.call "count" [.field "a"]))) :
      n = .not (.call "count" [.field "a"]) ∨ n = .call "count" [.field "a"] ∨ n = .field "a" := by
    rcases Within.iff_children.mp h with rfl | ⟨c, mem, h⟩
    · exact .inl rfl
    · obtain rfl : c = .call "count" [.field "a"] := by simpa using mem
      rcases Within.iff_children.mp h with rfl | ⟨c, mem, h⟩
      · exact .inr (.inl rfl)
      · obtain rfl : c = .field "a" := by simpa [children] using mem
        rcases Within.iff_children.mp h with rfl | ⟨c, mem, h⟩
        · exact .inr (.inr rfl)
        · cases mem
  refine (evaluate_outcome ctx _ 0).2 ⟨?_, ?_, ?_, ?_⟩
  · intro h
    simpa [Node.not] using nodes _ h
  · intro op left right h
    have shape := nodes _ h
    simp only [Node.not, Node.operator.injEq, reduceCtorEq, or_false] at shape
    simp [shape]
  · intro name mem
    obtain rfl : name = "a" := by
      simpa [requiredFields, Node.not, addFields, addFieldsOption, addFieldsList, insertName] using mem
    intro none
    cases none
  · intro name args h
    have shape := nodes _ h
    simp only [Node.not, Node.call.injEq, reduceCtorEq, or_false, false_or] at shape
    exact ⟨count, by rw [shape.1]; rfl, fun _ _ => rfl⟩

end Evaluation

end Verdict
