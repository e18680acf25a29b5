import Verdict.Proofs.Evaluation.Composition
import Verdict.Proofs.Evaluation.Invocations
import Verdict.Proofs.Rule.Acceptance

set_option autoImplicit false

namespace Verdict

open Node (Position)

variable {σ α β : Type}

namespace Node

theorem depth_pos (n : Node) : 0 < n.depth := by
  cases n <;> simp only [depth] <;> omega

theorem depth_lt_of_mem_children {n c : Node} (mem : c ∈ n.children) : c.depth < n.depth := by
  cases n with
  | operator op left right =>
    rw [depth, Nat.add_comm]
    apply Nat.lt_succ_of_le
    rcases List.mem_append.mp mem with mem | mem
    · obtain rfl := Option.mem_toList.mp mem
      exact Nat.le_max_left _ _
    · obtain rfl := Option.mem_toList.mp mem
      exact Nat.le_max_right _ _
  | array elements =>
    rw [depth, Nat.add_comm]
    exact Nat.lt_succ_of_le (depth_le_depthList mem)
  | call name args =>
    rw [depth, Nat.add_comm]
    exact Nat.lt_succ_of_le (depth_le_depthList mem)
  | field | literal | unknown => cases mem

end Node

namespace Visit

def end? : Visit → Option Position
  | called .. => none
  | ended place _ => some place

def ends (visits : List Visit) : List Position := visits.filterMap end?

@[simp] theorem ends_nil : ends [] = [] := rfl

@[simp] theorem ends_called (place : Position) (call : Call) : ends [called place call] = [] := rfl

@[simp] theorem ends_ended (place : Position) (result : Evaluation.Result) :
    ends [ended place result] = [place] := rfl

@[simp] theorem ends_append (xs ys : List Visit) : ends (xs ++ ys) = ends xs ++ ends ys :=
  List.filterMap_append

end Visit

abbrev Metered (σ : Type) := σ × Option Nat

def RuleFunction.metered (f : RuleFunction σ) : RuleFunction (Metered σ) := fun args state =>
  let (reply, next) := f args state.1
  (reply, (next, state.2))

def Registry.metered (functions : Registry σ) : Registry (Metered σ) :=
  ⟨functions.entries.map fun entry => (entry.1, entry.2.metered)⟩

def Context.metered (ctx : Context σ) : Context (Metered σ) :=
  ⟨ctx.record, ctx.functions.map (·.metered), ctx.patterns⟩

theorem Context.function?_metered (ctx : Context σ) (name : String) :
    ctx.metered.function? name = (ctx.function? name).map (·.metered) := by
  cases functions : ctx.functions with
  | none => simp [function?, metered, functions]
  | some table =>
    simp only [function?, metered, functions, Option.map_some, Option.bind_some]
    exact Registry.lookup_map_entries (fun _ => RuleFunction.metered) table.entries name

namespace Evaluation

def entering (levels : Nat) (operand : Operand (Metered σ)) : Operand (Metered σ) :=
  fun (state, left) =>
    match levels, left with
    | _ + 1, some (n + 1) => operand (state, some n)
    | _, _ => ⟨.error .unknownNode, [], [], (state, none)⟩

mutual

def attempt (ctx : Context σ) (levels : Nat) : Node → Operand (Metered σ)
  | .literal _ value => entering levels (.done (.ok value))
  | .field name => entering levels (lookUp ctx.metered name)
  | .array elements =>
      entering levels
        (orFail (attemptList ctx (levels - 1) elements) fun values => .done (.ok (.arr values)))
  | .call name args => entering levels (call ctx.metered name (attemptList ctx (levels - 1) args))
  | .operator op left right =>
      entering levels (operator ctx.patterns op (attemptOption ctx (levels - 1) left)
        (attemptOption ctx (levels - 1) right))
  | .unknown => entering levels (.done (.error .unknownNode))

def attemptOption (ctx : Context σ) (levels : Nat) : Option Node → Option (Operand (Metered σ))
  | none => none
  | some n => some (attempt ctx levels n)

def attemptList (ctx : Context σ) (levels : Nat) :
    List Node → Step (Metered σ) (Except EvalFault (List Datum))
  | [] => .done (.ok [])
  | n :: rest =>
      orFail (attempt ctx levels n) fun value =>
        orFail (attemptList ctx levels rest) fun values => .done (.ok (value :: values))

end

/-- The run of an evaluation that goes no deeper and enters no more nodes than the limits say, unless
it had to be given up. -/
def evaluateWithin (limits : Limits) (ctx : Context σ) (root : Node) (state : σ) :
    Option (Run σ Result) :=
  let run := attempt ctx limits.maxDepth root (state, some limits.maxNodes)
  run.state.2.map fun _ => ⟨run.result, run.events, run.calls, run.state.1⟩

def spend (deepest : Nat) (places : List Position) (left : Option Nat) : Option Nat :=
  left.bind fun n =>
    if places.length ≤ n ∧ ∀ place ∈ places, place.length < deepest then some (n - places.length)
    else none

@[simp] theorem spend_none (deepest : Nat) (places : List Position) :
    spend deepest places none = none := rfl

@[simp] theorem spend_nil (deepest : Nat) (left : Option Nat) : spend deepest [] left = left := by
  cases left <;> simp [spend]

theorem spend_eq_some_iff {deepest n m : Nat} {places : List Position} :
    spend deepest places (some n) = some m ↔
      n = m + places.length ∧ ∀ place ∈ places, place.length < deepest := by
  simp only [spend, Option.bind_some, Option.ite_none_right_eq_some, Option.some.injEq]
  constructor
  · rintro ⟨⟨few, shallow⟩, rfl⟩
    exact ⟨by omega, shallow⟩
  · rintro ⟨rfl, shallow⟩
    exact ⟨⟨by omega, shallow⟩, by omega⟩

theorem spend_append (deepest : Nat) (places others : List Position) (left : Option Nat) :
    spend deepest (places ++ others) left = spend deepest others (spend deepest places left) := by
  cases left with
  | none => rfl
  | some n =>
    ext m
    change _ ↔ (spend deepest places (some n)).bind (fun k => spend deepest others (some k)) = some m
    rw [Option.bind_eq_some_iff]
    simp only [spend_eq_some_iff, List.length_append, List.forall_mem_append]
    constructor
    · rintro ⟨rfl, shallow, shallow'⟩
      exact ⟨m + others.length, ⟨by omega, shallow⟩, rfl, shallow'⟩
    · rintro ⟨k, ⟨rfl, shallow⟩, rfl, shallow'⟩
      exact ⟨by omega, shallow, shallow'⟩

theorem spend_append_comm (deepest : Nat) (places others : List Position) (left : Option Nat) :
    spend deepest (places ++ others) left = spend deepest (others ++ places) left := by
  simp only [spend, List.length_append, List.forall_mem_append, Nat.add_comm, and_comm]

end Evaluation

open Evaluation

def Run.Within (run : Run σ α) : Option Nat → Run (Metered σ) α → Prop
  | some rest, bounded => bounded = ⟨run.result, run.events, run.calls, (run.state, some rest)⟩
  | none, bounded => bounded.state.2 = none

theorem Run.Within.eq {run : Run σ α} {rest : Nat} {bounded : Run (Metered σ) α}
    (h : run.Within (some rest) bounded) :
    bounded = ⟨run.result, run.events, run.calls, (run.state, some rest)⟩ := h

namespace Step

/-- A bounded computation goes as the tracked one does, if what is left allows to enter the nodes on the
way, and else is given up. There are at most `cost` such nodes, within `reach` levels. -/
def Meters (deepest reach cost : Nat) (tracked : Step (Noted σ) α) (bounded : Step (Metered σ) α) :
    Prop :=
  ∀ state earlier, ∃ (run : Run σ α) (visits : List Visit),
    tracked (state, earlier) = run.noted (earlier ++ visits) ∧
    (Visit.ends visits).length ≤ cost ∧ (∀ place ∈ Visit.ends visits, place.length < reach) ∧
    ∀ left, run.Within (spend deepest (Visit.ends visits) left) (bounded (state, left))

theorem meters_of_silent {deepest reach cost : Nat} {tracked : Step (Noted σ) α}
    {bounded : Step (Metered σ) α} (step : Step σ α)
    (sameTracked : ∀ state earlier, tracked (state, earlier) = (step state).noted earlier)
    (sameBounded : ∀ state left,
      bounded (state, left) =
        ⟨(step state).result, (step state).events, (step state).calls, ((step state).state, left)⟩) :
    Meters deepest reach cost tracked bounded := by
  intro state earlier
  refine ⟨step state, [], ?_, Nat.zero_le cost, nofun, fun left => ?_⟩
  · rw [sameTracked, List.append_nil]
  · rw [Visit.ends_nil, spend_nil, sameBounded]
    cases left <;> rfl

theorem Meters.given_up {deepest reach cost : Nat} {tracked : Step (Noted σ) α}
    {bounded : Step (Metered σ) α} (h : Meters deepest reach cost tracked bounded) {state : Metered σ}
    (none : state.2 = none) : (bounded state).state.2 = .none := by
  obtain ⟨state, left⟩ := state
  cases none
  obtain ⟨_, _, -, -, -, within⟩ := h state []
  exact within .none

theorem Meters.andThen {deepest reach m n : Nat} {first : Step (Noted σ) α}
    {first' : Step (Metered σ) α} {next : α → Step (Noted σ) β} {next' : α → Step (Metered σ) β}
    (hfirst : Meters deepest reach m first first')
    (hnext : ∀ a, Meters deepest reach n (next a) (next' a)) :
    Meters deepest reach (m + n) (first.andThen next) (first'.andThen next') := by
  intro state earlier
  obtain ⟨run, xs, same, few, shallow, within⟩ := hfirst state earlier
  obtain ⟨last, ys, sameNext, fewNext, shallowNext, withinNext⟩ :=
    hnext run.result run.state (earlier ++ xs)
  refine ⟨⟨last.result, run.events ++ last.events, run.calls ++ last.calls, last.state⟩, xs ++ ys,
    ?_, ?_, ?_, fun left => ?_⟩
  · simp only [Step.andThen, same, Run.noted] at sameNext ⊢
    simp [sameNext]
  · simp only [Visit.ends_append, List.length_append]
    exact Nat.add_le_add few fewNext
  · rw [Visit.ends_append, List.forall_mem_append]
    exact ⟨shallow, shallowNext⟩
  · rw [Visit.ends_append, spend_append]
    have before := within left
    cases spent : spend deepest (Visit.ends xs) left with
    | some rest =>
      rw [spent] at before
      have after := withinNext (some rest)
      simp only [Step.andThen, before.eq]
      cases kept : spend deepest (Visit.ends ys) (some rest) with
      | some _ =>
        rw [kept] at after
        simp only [Run.Within, after.eq]
      | none =>
        rw [kept] at after
        exact after
    | none =>
      -- nothing was left for the next computation, whatever it would have done
      rw [spent] at before
      exact (hnext _).given_up before

theorem composable_meters (deepest reach : Nat) :
    Composable (σ := Noted σ) (τ := Metered σ) (Meters deepest reach) where
  done _ a := meters_of_silent (.done a) (fun _ _ => rfl) fun _ _ => rfl
  report _ event a := meters_of_silent (.report event a) (fun _ _ => rfl) fun _ _ => rfl
  andThen := Meters.andThen
  mono h le state earlier := by
    obtain ⟨run, visits, same, few, others⟩ := h state earlier
    exact ⟨run, visits, same, Nat.le_trans few le, others⟩

end Step

namespace Evaluation

open Step Node

variable {deepest reach : Nat}

theorem entering_eq (place : Position) (operand : Operand (Metered σ)) (state : σ) (left : Option Nat) :
    entering (deepest - place.length) operand (state, left) =
      match spend deepest [place] left with
      | some rest => operand (state, some rest)
      | none => ⟨.error .unknownNode, [], [], (state, none)⟩ := by
  cases left with
  | none => cases deepest - place.length <;> rfl
  | some n =>
    by_cases shallow : place.length < deepest
    · obtain ⟨levels, more⟩ : ∃ levels, deepest - place.length = levels + 1 :=
        ⟨deepest - place.length - 1, by omega⟩
      cases n with
      | zero => simp [entering, spend, more]
      | succ n => simp [entering, spend, more, shallow]
    · rw [Nat.sub_eq_zero_of_le (Nat.not_lt.mp shallow)]
      simp [entering, spend, shallow]

theorem entering_meters {cost : Nat} {tracked : Operand (Noted σ)} {bounded : Operand (Metered σ)}
    {place : Position} (h : Meters deepest reach cost tracked bounded) (above : place.length < reach) :
    Meters deepest reach (1 + cost) (ending place tracked)
      (entering (deepest - place.length) bounded) := by
  intro state earlier
  obtain ⟨run, visits, same, few, shallow, within⟩ := h state earlier
  refine ⟨run, visits ++ [.ended place run.result], ?_, ?_, ?_, fun left => ?_⟩
  · simp [ending, same, Run.noted]
  · rw [Visit.ends_append, List.length_append, Nat.add_comm]
    exact Nat.add_le_add_left few 1
  · rw [Visit.ends_append, List.forall_mem_append]
    exact ⟨shallow, by simpa using above⟩
  · rw [Visit.ends_append, spend_append_comm, spend_append, entering_eq, Visit.ends_ended]
    cases spend deepest [place] left with
    | some rest => exact within (some rest)
    | none => rfl

theorem lookUp_meters (ctx : Context σ) (place : Position) (name : String) :
    Meters deepest reach 0 (lookUp (ctx.noting place) name) (lookUp ctx.metered name) := by
  have composable := composable_meters (σ := σ) deepest reach
  have sameTracked : (ctx.noting place).field? name = ctx.field? name := rfl
  have sameBounded : ctx.metered.field? name = ctx.field? name := rfl
  unfold lookUp
  rw [sameTracked, sameBounded]
  cases ctx.field? name with
  | some d => exact composable.done 0 _
  | none => exact composable.report 0 _ _

theorem invoke_meters (place : Position) (name : String) (f : RuleFunction σ) (args : List Datum) :
    Meters deepest reach 0 (invoke name (f.noting place name) args) (invoke name f.metered args) := by
  intro state earlier
  obtain ⟨visits, same, -, rfl⟩ := invoke_follows place name f args state earlier
  refine ⟨_, _, same, Nat.le_refl 0, nofun, fun left => ?_⟩
  rw [Visit.ends_called, spend_nil]
  simp only [invoke, RuleFunction.metered]
  generalize f args state = answer
  obtain ⟨reply, next⟩ := answer
  cases left <;> cases reply <;> rfl

theorem call_meters {cost : Nat} (ctx : Context σ) (place : Position) (name : String)
    {tracked : Step (Noted σ) (Except EvalFault (List Datum))}
    {bounded : Step (Metered σ) (Except EvalFault (List Datum))}
    (h : Meters deepest reach cost tracked bounded) :
    Meters deepest reach cost (call (ctx.noting place) name tracked) (call ctx.metered name bounded) := by
  unfold call
  rw [Context.function?_noting, Context.function?_metered]
  cases ctx.function? name with
  | none => exact (composable_meters deepest reach).report cost _ _
  | some f => exact (composable_meters deepest reach).orFail h fun args => invoke_meters place name f args

abbrev Bounded (ctx : Context σ) (deepest reach : Nat) (place : Position) (n : Node) : Prop :=
  Meters deepest reach n.count (track ctx place n) (attempt ctx (deepest - place.length) n)

theorem attemptOption_meters {ctx : Context σ} {operand? : Option Node} (place : Position)
    (h : ∀ n ∈ operand?, Bounded ctx deepest reach place n) :
    Option.Rel (Meters deepest reach (countOption operand?)) (trackOption ctx place operand?)
      (attemptOption ctx (deepest - place.length) operand?) := by
  cases operand? with
  | none => exact .none
  | some n => exact .some (h n rfl)

theorem attemptList_meters {ctx : Context σ} {above : Position} {nodes : List Node}
    (h : ∀ n ∈ nodes, ∀ i, Bounded ctx deepest reach (i :: above) n) (i : Nat) :
    Meters deepest reach (countList nodes) (trackFrom ctx above i nodes)
      (attemptList ctx (deepest - above.length - 1) nodes) := by
  have composable := composable_meters (σ := σ) deepest reach
  induction nodes generalizing i with
  | nil => exact composable.done 0 _
  | cons head rest ih =>
    obtain ⟨first, others⟩ := List.forall_mem_cons.mp h
    refine composable.orFail (first i) fun value => ?_
    exact composable.orFail (n := 0) (ih others (i + 1)) fun values => composable.done 0 _

theorem length_lt_of_depth_le {place : Position} {n : Node} (above : place.length + n.depth ≤ reach) :
    place.length < reach := by
  have := n.depth_pos
  omega

theorem child_depth_le {place : Position} {n c : Node} (above : place.length + n.depth ≤ reach)
    (mem : c ∈ n.children) (i : Nat) : (i :: place).length + c.depth ≤ reach := by
  have := depth_lt_of_mem_children mem
  rw [List.length_cons]
  omega

theorem attempt_meters (ctx : Context σ) (n : Node) (place : Position)
    (above : place.length + n.depth ≤ reach) : Bounded ctx deepest reach place n := by
  have composable := composable_meters (σ := σ) deepest reach
  -- a child stands one level further down, where one level less is left
  induction n using Node.induct generalizing place with
  | operator op left right leftIh rightIh =>
    rw [Bounded, count, Nat.add_assoc]
    apply entering_meters (composable.operator ctx.patterns op ?_ ?_) (length_lt_of_depth_le above)
    · apply attemptOption_meters (0 :: place)
      intro n mem
      apply leftIh n mem
      exact child_depth_le above (List.mem_of_getElem? (children_left mem)) 0
    · apply attemptOption_meters (left.toList.length :: place)
      intro n mem
      apply rightIh n mem
      exact child_depth_le above (List.mem_of_getElem? (children_right mem)) left.toList.length
  | field name => exact entering_meters (lookUp_meters ctx place name) (length_lt_of_depth_le above)
  | literal kind value => exact entering_meters (composable.done 0 _) (length_lt_of_depth_le above)
  | array elements ih =>
    have each := attemptList_meters (fun n mem i => ih n mem _ (child_depth_le above mem i)) 0
    apply entering_meters (composable.orFail (n := 0) each ?_) (length_lt_of_depth_le above)
    exact fun values => composable.done 0 _
  | call name args ih =>
    have each := attemptList_meters (fun n mem i => ih n mem _ (child_depth_le above mem i)) 0
    exact entering_meters (call_meters ctx place name each) (length_lt_of_depth_le above)
  | unknown => exact entering_meters (composable.done 0 _) (length_lt_of_depth_le above)

theorem noted_injective {run run' : Run σ α} {visits visits' : List Visit}
    (same : run.noted visits = run'.noted visits') : run = run' ∧ visits = visits' := by
  obtain ⟨_, _, _, _⟩ := run
  obtain ⟨_, _, _, _⟩ := run'
  simp only [Run.noted, Run.mk.injEq, Prod.mk.injEq] at same
  obtain ⟨rfl, rfl, rfl, rfl, rfl⟩ := same
  exact ⟨rfl, rfl⟩

theorem evaluateWithin_eq (limits : Limits) (ctx : Context σ) (root : Node) (state : σ) :
    ∃ visits, track ctx [] root (state, []) = (evaluate ctx root state).noted visits ∧
      (Visit.ends visits).length ≤ root.count ∧
      (∀ place ∈ Visit.ends visits, place.length < root.depth) ∧
      evaluateWithin limits ctx root state =
        if (Visit.ends visits).length ≤ limits.maxNodes ∧
            ∀ place ∈ Visit.ends visits, place.length < limits.maxDepth
        then some (evaluate ctx root state) else none := by
  have bounded : Bounded ctx limits.maxDepth root.depth [] root :=
    attempt_meters ctx root [] (Nat.le_of_eq (Nat.zero_add _))
  obtain ⟨run, visits, tracked, few, shallow, within⟩ := bounded state []
  obtain ⟨visits', same, -⟩ := track_visited ctx root root [] rfl state []
  obtain ⟨rfl, rfl⟩ := noted_injective (same.symm.trans tracked)
  refine ⟨_, same, few, shallow, ?_⟩
  have last : (evaluate ctx root state).Within _
    (attempt ctx limits.maxDepth root (state, some limits.maxNodes)) := within (some limits.maxNodes)
  rw [spend, Option.bind_some] at last
  simp only [evaluateWithin]
  split
  · next fits =>
    rw [if_pos fits] at last
    rw [last.eq]
    rfl
  · next more =>
    rw [if_neg more] at last
    rw [show (attempt ctx limits.maxDepth root (state, some limits.maxNodes)).state.2 = none from last]
    rfl

/-- A rule that was compiled within limits is evaluated within them: no node is entered below the level
that is set for the depth of trees, no more nodes are entered than a tree may have, and evaluation
bounded by the limits has the same result, events and calls and leaves the same state. -/
theorem evaluate_within_limits {limits : Limits} {root : Node} {rule : Rule}
    (accepted : limits.compile root = .ok rule) (ctx : Context σ) (state : σ) :
    ∃ visits, track ctx [] rule.root (state, []) = (evaluate ctx rule.root state).noted visits ∧
      (∀ place ∈ Visit.ends visits, place.length < limits.maxDepth) ∧
      (Visit.ends visits).length ≤ limits.maxNodes ∧
      evaluateWithin limits ctx rule.root state = some (evaluate ctx rule.root state) := by
  obtain ⟨deep, many, rfl⟩ := Limits.compile_eq_ok_iff.mp accepted
  obtain ⟨visits, same, few, shallow, bounded⟩ := evaluateWithin_eq limits ctx root state
  have above : ∀ place ∈ Visit.ends visits, place.length < limits.maxDepth :=
    fun place mem => Nat.lt_of_lt_of_le (shallow place mem) deep
  have fits : (Visit.ends visits).length ≤ limits.maxNodes := Nat.le_trans few many
  refine ⟨visits, same, above, fits, ?_⟩
  exact bounded.trans (if_pos ⟨fits, above⟩)

-- The limits of this tree are just enough; with a node or a level less, its evaluation is given up.
theorem evaluate_within_limits_of_shouting :
    let shout : RuleFunction Nat := fun _ calls => (.value (.str "A"), calls + 1)
    let ctx : Context Nat := ⟨.obj [("a", .str "x")], some ⟨[("shout", shout)]⟩, fun _ => none⟩
    let root : Node := .eq (.call "shout" [.field "a"]) (.string "B")
    let limits : Limits := ⟨3, 4⟩
    evaluateWithin limits ctx root 0 = some (evaluate ctx root 0) ∧
      evaluateWithin ⟨2, 4⟩ ctx root 0 = none ∧ evaluateWithin ⟨3, 3⟩ ctx root 0 = none := by
  intro shout ctx root limits
  have accepted : limits.compile root = .ok (.ofNode root) := rfl
  obtain ⟨visits, -, -, -, bounded⟩ := evaluate_within_limits accepted ctx 0
  exact ⟨bounded, rfl, rfl⟩

end Evaluation

end Verdict
