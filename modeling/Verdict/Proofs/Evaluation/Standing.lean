import Verdict.Proofs.Evaluation.Stateless

set_option autoImplicit false

namespace Verdict

inductive Standing where
  | error | fail | pass
deriving DecidableEq

namespace Standing

def rank : Standing → Nat
  | error => 0
  | fail => 1
  | pass => 2

instance : LE Standing := ⟨fun a b => a.rank ≤ b.rank⟩

instance (a b : Standing) : Decidable (a ≤ b) := inferInstanceAs (Decidable (a.rank ≤ b.rank))

instance : Max Standing := maxOfLe

def not : Standing → Standing
  | pass => fail
  | fail => pass
  | error => error

def and (left right : Standing) : Standing := if left = pass then right else left

def passes (s : Standing) : Bool := s == pass

theorem and_pass (a : Standing) : a.and pass = a := by
  cases a <;> rfl

theorem pass_max (a : Standing) : max pass a = pass := by
  cases a <;> rfl

theorem max_pass (a : Standing) : max a pass = pass := by
  cases a <;> rfl

theorem max_comm (a b : Standing) : max a b = max b a := by
  cases a <;> cases b <;> rfl

theorem passes_max (a b : Standing) : (max a b).passes = (a.passes || b.passes) := by
  cases a <;> cases b <;> rfl

theorem passes_and (a b : Standing) : (a.and b).passes = (a.passes && b.passes) := by
  cases a <;> cases b <;> rfl

end Standing

def Outcome.standing (o : Outcome) : Standing :=
  if o.pass then .pass else if o.fail then .fail else .error

theorem Outcome.passes_standing (o : Outcome) : o.standing.passes = o.pass := by
  unfold standing
  by_cases passed : o.pass
  · simp [passed, Standing.passes]
  · by_cases failed : o.fail <;> simp [passed, failed, Standing.passes]

inductive Formula (α : Type) where
  | leaf (a : α)
  | and (left right : Formula α)
  | or (left right : Formula α)
  | not (operand : Formula α)

namespace Formula

variable {α : Type}

def toNode : Formula Node → Node
  | leaf n => n
  | and left right => .and left.toNode right.toNode
  | or left right => .or left.toNode right.toNode
  | not operand => .not operand.toNode

def standing (of : α → Standing) : Formula α → Standing
  | leaf a => of a
  | and left right => (left.standing of).and (right.standing of)
  | or left right => max (left.standing of) (right.standing of)
  | not operand => (operand.standing of).not

def holds (of : α → Bool) : Formula α → Bool
  | leaf a => of a
  | and left right => left.holds of && right.holds of
  | or left right => left.holds of || right.holds of
  | not operand => !operand.holds of

def NotFree : Formula α → Prop
  | leaf _ => True
  | and left right | or left right => left.NotFree ∧ right.NotFree
  | not _ => False

/-- Operands of an `and` or an `or` reordered or grouped otherwise, but not below a `not`. -/
inductive Rearranged : Formula α → Formula α → Prop where
  | refl (f : Formula α) : Rearranged f f
  | symm {f g : Formula α} : Rearranged f g → Rearranged g f
  | trans {f g h : Formula α} : Rearranged f g → Rearranged g h → Rearranged f h
  | andComm (f g : Formula α) : Rearranged (and f g) (and g f)
  | andAssoc (f g h : Formula α) : Rearranged (and (and f g) h) (and f (and g h))
  | orComm (f g : Formula α) : Rearranged (or f g) (or g f)
  | orAssoc (f g h : Formula α) : Rearranged (or (or f g) h) (or f (or g h))
  | and {f f' g g' : Formula α} : Rearranged f f' → Rearranged g g' → Rearranged (and f g) (and f' g')
  | or {f f' g g' : Formula α} : Rearranged f f' → Rearranged g g' → Rearranged (or f g) (or f' g')

/-- Operands of an `or` swapped anywhere. -/
inductive OrSwapped : Formula α → Formula α → Prop where
  | refl (f : Formula α) : OrSwapped f f
  | trans {f g h : Formula α} : OrSwapped f g → OrSwapped g h → OrSwapped f h
  | swap (f g : Formula α) : OrSwapped (or f g) (or g f)
  | and {f f' g g' : Formula α} : OrSwapped f f' → OrSwapped g g' → OrSwapped (and f g) (and f' g')
  | or {f f' g g' : Formula α} : OrSwapped f f' → OrSwapped g g' → OrSwapped (or f g) (or f' g')
  | not {f f' : Formula α} : OrSwapped f f' → OrSwapped (not f) (not f')

variable (of : α → Standing)

theorem passes_standing {f : Formula α} (notFree : f.NotFree) :
    (f.standing of).passes = f.holds fun a => (of a).passes := by
  induction f with
  | leaf a => rfl
  | and left right leftIh rightIh =>
    rw [standing, Standing.passes_and, leftIh notFree.1, rightIh notFree.2, holds]
  | or left right leftIh rightIh =>
    rw [standing, Standing.passes_max, leftIh notFree.1, rightIh notFree.2, holds]
  | not operand _ => cases notFree

theorem Rearranged.passes_eq {f g : Formula α} (h : Rearranged f g) :
    (f.standing of).passes = (g.standing of).passes := by
  induction h with
  | refl f => rfl
  | symm _ ih => exact ih.symm
  | trans _ _ ih ih' => exact ih.trans ih'
  | andComm f g => simp only [standing, Standing.passes_and, Bool.and_comm]
  | andAssoc f g h => simp only [standing, Standing.passes_and, Bool.and_assoc]
  | orComm f g => simp only [standing, Standing.passes_max, Bool.or_comm]
  | orAssoc f g h => simp only [standing, Standing.passes_max, Bool.or_assoc]
  | and _ _ ih ih' => simp only [standing, Standing.passes_and, ih, ih']
  | or _ _ ih ih' => simp only [standing, Standing.passes_max, ih, ih']

theorem OrSwapped.standing_eq {f g : Formula α} (h : OrSwapped f g) :
    f.standing of = g.standing of := by
  induction h with
  | refl f => rfl
  | trans _ _ ih ih' => exact ih.trans ih'
  | swap f g => exact Standing.max_comm _ _
  | and _ _ ih ih' | or _ _ ih ih' => simp only [standing, ih, ih']
  | not _ ih => simp only [standing, ih]

end Formula

namespace Evaluation

variable {σ : Type}

def rate (r : Result) : Standing := (Outcome.ofResult r).standing

@[simp] theorem rate_error (fault : EvalFault) : rate (.error fault) = .error := rfl

theorem rate_ok (d : Datum) : rate (.ok d) = if d.isZero then .fail else .pass := by
  by_cases zero : d.isZero <;>
    simp [rate, Outcome.ofResult, Outcome.success, Outcome.standing, Outcome.pass, Outcome.fail, zero]

@[simp] theorem rate_verdict (b : Bool) : rate (verdict b) = if b then .pass else .fail := by
  cases b <;> rfl

theorem rate_of_passes {r : Result} (h : passes r) : rate r = .pass := by
  cases r with
  | ok d =>
    have nonzero : d.isZero = false := by simpa [passes] using h
    simp [rate_ok, nonzero]
  | error fault => cases h

section Operands

variable (left operand : Operand σ) {right : Operand σ} (state : σ)

theorem result_of_steady (steady : right.Steady) :
    (right (left state).state).result = (right state).result :=
  (Run.observed_eq_iff.mp (steady _ _)).1

theorem rate_negation :
    rate (negation operand state).result = (rate (operand state).result).not := by
  simp only [negation, orFail, Step.andThen]
  cases (operand state).result with
  | ok d => by_cases zero : d.isZero <;> simp [Step.done, rate_ok d, zero, Standing.not]
  | error fault => rfl

theorem rate_conjunct (side : Side) (next : Operand σ) :
    rate (conjunct side operand next state).result =
      (rate (operand state).result).and (rate (next (operand state).state).result) := by
  simp only [conjunct, orFail, Step.andThen]
  cases (operand state).result with
  | ok d => by_cases zero : d.isZero <;> simp [Step.report, rate_ok d, zero, Standing.and]
  | error fault => rfl

theorem rate_conjunction (steady : right.Steady) :
    rate (conjunction left right state).result =
      (rate (left state).result).and (rate (right state).result) := by
  rw [conjunction, rate_conjunct, rate_conjunct, result_of_steady left state steady]
  exact congrArg _ (Standing.and_pass _)

theorem rate_coalesce {a b : Result} (first : passes a = false) (second : passes b = false) :
    rate (coalesce a b) = max (rate a) (rate b) := by
  cases a <;> cases b <;> simp_all [coalesce, passes, rate_ok] <;> rfl

theorem rate_disjunction (steady : right.Steady) :
    rate (disjunction left right state).result =
      max (rate (left state).result) (rate (right state).result) := by
  simp only [disjunction, Step.andThen]
  by_cases first : passes (left state).result
  · rw [rate_of_passes first, Standing.pass_max, if_pos first]
    rfl
  · simp only [first, if_false, Bool.false_eq_true, Step.andThen, Step.done,
      result_of_steady left state steady]
    by_cases second : passes (right state).result
    · rw [rate_of_passes second, Standing.max_pass, if_pos second]
      rfl
    · rw [if_neg second, rate_coalesce (by simpa using first) (by simpa using second)]

end Operands

theorem rate_toNode {ctx : Context σ} (stateless : ctx.Stateless) (f : Formula Node) (state : σ) :
    rate (evaluate ctx f.toNode state).result =
      f.standing fun leaf => rate (evaluate ctx leaf state).result := by
  induction f with
  | leaf n => rfl
  | and left right leftIh rightIh =>
    rw [Formula.standing, ← leftIh, ← rightIh]
    exact rate_conjunction _ state (evaluate_steady stateless right.toNode)
  | or left right leftIh rightIh =>
    rw [Formula.standing, ← leftIh, ← rightIh]
    exact rate_disjunction _ state (evaluate_steady stateless right.toNode)
  | not operand ih =>
    rw [Formula.standing, ← ih]
    exact rate_negation _ state

end Evaluation

open Evaluation

/-- Where no function keeps a state, the standing of a formula is computed from those of its leaves;
a formula without `not` passes if it holds of the leaves that pass, in whatever order and grouping
its operands stand; and the operands of an `or` may be swapped anywhere. -/
theorem Formula.standing_evaluate {σ : Type} {ctx : Context σ} (stateless : ctx.Stateless) (state : σ) :
    let outcome (n : Node) := Outcome.ofResult (evaluate ctx n state).result
    (∀ f : Formula Node, (outcome f.toNode).standing = f.standing fun n => (outcome n).standing) ∧
      (∀ f : Formula Node, f.NotFree → (outcome f.toNode).pass = f.holds fun n => (outcome n).pass) ∧
      (∀ f g : Formula Node, f.Rearranged g → (outcome f.toNode).pass = (outcome g.toNode).pass) ∧
      (∀ f g : Formula Node, f.OrSwapped g →
        (outcome f.toNode).standing = (outcome g.toNode).standing) := by
  intro outcome
  have computed (f : Formula Node) :
      (outcome f.toNode).standing = f.standing fun n => (outcome n).standing :=
    rate_toNode stateless f state
  have passes (f : Formula Node) :
      (outcome f.toNode).pass = (f.standing fun n => (outcome n).standing).passes := by
    rw [← computed, Outcome.passes_standing]
  refine ⟨computed, ?_, ?_, ?_⟩
  · intro f notFree
    simp only [passes f, passes_standing _ notFree, Outcome.passes_standing]
  · intro f g rearranged
    rw [passes f, passes g, rearranged.passes_eq]
  · intro f g swapped
    rw [computed f, computed g, swapped.standing_eq]

theorem Formula.standing_evaluate_of_missing :
    let ctx : Context Nat := ⟨.obj [("n", .str "")], some .standard, fun _ => none⟩
    let missing : Formula Node := leaf (.field "m")
    let zero : Formula Node := leaf (.field "n")
    let one : Formula Node := leaf (.bool true)
    let outcome (n : Node) := Outcome.ofResult (evaluate ctx n 0).result
    (outcome (or missing (not zero)).toNode).standing = .pass ∧
      (outcome (and (or missing one) zero).toNode).pass = false ∧
      (outcome (and (or missing one) zero).toNode).pass =
        (outcome (and zero (or missing one)).toNode).pass ∧
      (outcome (not (or missing zero)).toNode).standing =
        (outcome (not (or zero missing)).toNode).standing := by
  intro ctx missing zero one outcome
  have stateless : ctx.Stateless := by
    intro name f found
    exact Registry.standard_stateless name f found
  obtain ⟨computed, holds, rearranged, swapped⟩ := standing_evaluate stateless 0
  refine ⟨?_, ?_, rearranged _ _ (.andComm _ _), swapped _ _ (.not (.swap _ _))⟩
  · exact (computed (or missing (not zero))).trans (by decide)
  · exact (holds (and (or missing one) zero) ⟨⟨trivial, trivial⟩, trivial⟩).trans (by decide)

end Verdict
