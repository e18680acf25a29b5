import Verdict.Proofs.Evaluation.Composition
import Verdict.Proofs.Evaluation.Visits

set_option autoImplicit false

namespace Verdict

open Node (Position)

variable {σ α β : Type}

/-- What a call takes: a node that says so, a function under its name, and the end of the evaluation
of each argument, with the value that is passed. -/
def Context.Due (ctx : Context σ) (root : Node) (before : List Visit) (place : Position)
    (call : Call) : Prop :=
  (ctx.function? call.name).isSome ∧ ∃ args, root.at? place = some (.call call.name args) ∧
    call.args.length = args.length ∧
    ∀ (i : Nat) (value : Datum), call.args[i]? = some value →
      .ended (i :: place) (.ok value) ∈ before

def Context.Justified (ctx : Context σ) (root : Node) (visits : List Visit) : Prop :=
  ∀ before place call after, visits = before ++ .called place call :: after →
    ctx.Due root before place call

/-- Nothing is skipped on the way: there is no `and`, no `or` and no `not` with a left operand. -/
def Node.Straight (root : Node) : Prop :=
  ∀ op left right, Within (.operator op left right) root →
    op ≠ .and ∧ op ≠ .or ∧ (op = .not → left = none)

theorem Node.Straight.child {root c : Node} (h : root.Straight) (mem : c ∈ root.children) :
    c.Straight :=
  fun op left right within => h op left right (.child mem within)

namespace Context

variable {ctx : Context σ} {root : Node}

theorem Due.mono {before before' : List Visit} {place : Position} {call : Call}
    (h : ctx.Due root before place call) (kept : ∀ v ∈ before, v ∈ before') :
    ctx.Due root before' place call := by
  obtain ⟨registered, args, node, length, ended⟩ := h
  exact ⟨registered, args, node, length, fun i value found => kept _ (ended i value found)⟩

theorem justified_append {xs ys : List Visit} (h : ctx.Justified root xs)
    (later : ∀ before place call after, ys = before ++ .called place call :: after →
      ctx.Due root (xs ++ before) place call) : ctx.Justified root (xs ++ ys) := by
  intro before place call after same
  rcases List.append_eq_append_iff.mp same with ⟨mid, rfl, tail⟩ | ⟨mid, same, rest⟩
  · exact later mid place call after tail
  · cases mid with
    | nil =>
      rw [List.append_nil] at same
      have due := later [] place call after rest.symm
      rwa [List.append_nil, same] at due
    | cons v mid =>
      obtain ⟨rfl, -⟩ := List.cons.inj rest
      exact h before place call mid same

end Context

namespace Evaluation

open Node Step

structure Walked (ctx : Context σ) (root : Node) (sites : List Position) (straight : Prop)
    (r : Except EvalFault α) (visits : List Visit) : Prop where
  ordered : (Visit.sites visits).Sublist sites
  justified : ctx.Justified root visits
  complete : straight → ∀ a, r = .ok a → Visit.sites visits = sites

abbrev Walks (ctx : Context σ) (root : Node) (sites : List Position) (straight : Prop)
    (tracked : Step (Noted σ) (Except EvalFault α)) (step : Step σ (Except EvalFault α)) : Prop :=
  Follows (Walked ctx root sites straight) tracked step

section

variable {ctx : Context σ} {root : Node} {A B : List Position} {straight : Prop}

theorem Walked.nil {r : Except EvalFault α} (empty : straight → ∀ a, r = .ok a → A = []) :
    Walked ctx root A straight r [] where
  ordered := List.nil_sublist A
  justified := by simp [Context.Justified]
  complete := fun s a same => (empty s a same).symm

theorem Walked.mono {straight' : Prop} {r : Except EvalFault α} {xs : List Visit}
    (h : Walked ctx root A straight r xs) (stronger : straight' → straight) :
    Walked ctx root A straight' r xs :=
  { h with complete := fun s => h.complete (stronger s) }

theorem Walked.stopped {fault : EvalFault} {xs : List Visit}
    (h : Walked ctx root A straight (.error fault : Except EvalFault α) xs) :
    Walked ctx root (A ++ B) straight (.error fault : Except EvalFault β) xs where
  ordered := h.ordered.trans (List.sublist_append_left A B)
  justified := h.justified
  complete := nofun

theorem Walked.append {r : Except EvalFault α} {r' : Except EvalFault β} {xs ys : List Visit}
    (h : Walked ctx root A straight r xs) (h' : Walked ctx root B straight r' ys)
    (ok : straight → ∃ a, r = .ok a) : Walked ctx root (A ++ B) straight r' (xs ++ ys) where
  ordered := by
    rw [Visit.sites_append]
    exact h.ordered.append h'.ordered
  justified := Context.justified_append h.justified fun before place call after same =>
    (h'.justified before place call after same).mono fun _ => List.mem_append_right xs
  complete := by
    intro s b same
    obtain ⟨a, first⟩ := ok s
    rw [Visit.sites_append, h.complete s a first, h'.complete s b same]

theorem orFail_walks {tracked : Step (Noted σ) (Except EvalFault α)}
    {step : Step σ (Except EvalFault α)} {next : α → Step σ (Except EvalFault β)}
    {trackedNext : α → Step (Noted σ) (Except EvalFault β)}
    (h : Walks ctx root A straight tracked step)
    (hnext : ∀ a, Walks ctx root B straight (trackedNext a) (next a)) :
    Walks ctx root (A ++ B) straight (orFail tracked trackedNext) (orFail step next) :=
  orFail_follows h (fun _ _ walked => walked.stopped) fun a _ walked =>
    (hnext a).mono fun _ _ walked' => walked.append walked' fun _ => ⟨a, rfl⟩

theorem orFail_done_walks {tracked : Step (Noted σ) (Except EvalFault α)}
    {step : Step σ (Except EvalFault α)} (h : Walks ctx root A straight tracked step)
    (f : α → Except EvalFault β) :
    Walks ctx root A straight (orFail tracked fun a => .done (f a)) (orFail step fun a => .done (f a)) := by
  have walks := orFail_walks (B := []) h fun a => .done (a := f a) (.nil fun _ _ _ => rfl)
  rwa [List.append_nil] at walks

section Operands

variable {tracked tracked' : Operand (Noted σ)} {left right : Operand σ}

theorem negation_walks (h : Walks ctx root A straight tracked left) :
    Walks ctx root A straight (negation tracked) (negation left) :=
  orFail_done_walks h _

theorem conjunct_walks {side : Side} (h : Walks ctx root A False tracked left)
    (hnext : Walks ctx root B False tracked' right) :
    Walks ctx root (A ++ B) False (conjunct side tracked tracked') (conjunct side left right) := by
  refine orFail_walks h fun d => ?_
  split
  · exact .report _ (.nil nofun)
  · exact hnext

theorem conjunction_walks (hl : Walks ctx root A False tracked left)
    (hr : Walks ctx root B False tracked' right) :
    Walks ctx root (A ++ B) False (conjunction tracked tracked') (conjunction left right) := by
  have last : Walks ctx root (B ++ []) False (conjunct .right tracked' (.done (verdict true)))
      (conjunct .right right (.done (verdict true))) := conjunct_walks hr (.done (.nil nofun))
  rw [List.append_nil] at last
  exact conjunct_walks hl last

theorem disjunction_walks (hl : Walks ctx root A False tracked left)
    (hr : Walks ctx root B False tracked' right) :
    Walks ctx root (A ++ B) False (disjunction tracked tracked') (disjunction left right) := by
  refine Follows.andThen hl fun l xs walked => ?_
  split
  · exact .report _ (walked.append (.nil nofun) nofun)
  · refine Follows.andThen hr fun r ys walked' => .done ?_
    rw [List.append_nil]
    exact walked.append ⟨walked'.ordered, walked'.justified, nofun⟩ nofun

theorem comparison_walks {patterns : Datum.Patterns} {op : Operator}
    (hl : Walks ctx root A straight tracked left) (hr : Walks ctx root B straight tracked' right) :
    Walks ctx root (A ++ B) straight (comparison patterns op tracked tracked')
      (comparison patterns op left right) := by
  refine orFail_walks hl fun l => ?_
  rw [← List.append_nil B]
  refine orFail_walks hr fun r => ?_
  simp only
  split
  · exact .report _ (.nil fun _ _ _ => rfl)
  · exact .done (.nil fun _ _ _ => rfl)

theorem skipping_walks (skips : straight → False) (h : Walks ctx root A False tracked left) :
    Walks ctx root A straight tracked left :=
  h.mono fun _ _ walked => walked.mono skips

theorem binary_walks {patterns : Datum.Patterns} {op : Operator}
    (hl : Walks ctx root A straight tracked left) (hr : Walks ctx root B straight tracked' right)
    (compares : straight → op ≠ .and ∧ op ≠ .or) :
    Walks ctx root (A ++ B) straight (binary patterns op tracked tracked')
      (binary patterns op left right) := by
  have hl' : Walks ctx root A False tracked left := hl.mono fun _ _ walked => walked.mono False.elim
  have hr' : Walks ctx root B False tracked' right := hr.mono fun _ _ walked => walked.mono False.elim
  unfold binary
  split
  · exact skipping_walks (fun s => (compares s).1 rfl) (conjunction_walks hl' hr')
  · exact skipping_walks (fun s => (compares s).2 rfl) (disjunction_walks hl' hr')
  · exact comparison_walks hl hr

end Operands

theorem operator_walks {patterns : Datum.Patterns} {op : Operator}
    {trackedLeft trackedRight : Option (Operand (Noted σ))} {left right : Option (Operand σ)}
    (hl : Option.Rel (Walks ctx root A straight) trackedLeft left)
    (hr : Option.Rel (Walks ctx root B straight) trackedRight right)
    (all : straight → op ≠ .and ∧ op ≠ .or ∧ (op = .not → A = [])) :
    Walks ctx root (A ++ B) straight (operator patterns op trackedLeft trackedRight)
      (operator patterns op left right) := by
  have failing (fault : EvalFault) : Walks ctx root (A ++ B) straight
      (.done (.error fault : Result)) (.done (.error fault : Result)) := .done (.nil nofun)
  by_cases negated : op = .not
  · subst negated
    cases hr with
    | none => exact failing _
    | some h =>
      refine (negation_walks h).mono fun r xs walked => ?_
      refine ⟨walked.ordered.trans (List.sublist_append_right A B), walked.justified, ?_⟩
      intro s a same
      rw [walked.complete s a same, (all s).2.2 rfl, List.nil_append]
  · cases hl with
    | none =>
      rw [operator_lacking negated (.inl rfl), operator_lacking negated (.inl rfl)]
      exact failing _
    | some hl =>
      cases hr with
      | none =>
        rw [operator_lacking negated (.inr rfl), operator_lacking negated (.inr rfl)]
        exact failing _
      | some hr =>
        rw [operator_both negated, operator_both negated]
        exact binary_walks hl hr fun s => ⟨(all s).1, (all s).2.1⟩

theorem ending_walks {tracked : Operand (Noted σ)} {operand : Operand σ} (place : Position)
    (h : Walks ctx root A straight tracked operand) :
    Follows (fun r visits => Walked ctx root A straight r visits ∧ .ended place r ∈ visits)
      (ending place tracked) operand := by
  refine (ending_follows place h).mono ?_
  rintro r visits ⟨xs, rfl, walked⟩
  refine ⟨⟨?_, ?_, ?_⟩, by simp⟩
  · simpa using walked.ordered
  · refine Context.justified_append walked.justified fun before place' call after same => ?_
    cases before with
    | nil => cases same
    | cons v before => simp at same
  · simpa using walked.complete

def Passed (above : Position) (i : Nat) (nodes : List Node) (r : Except EvalFault (List Datum))
    (visits : List Visit) : Prop :=
  ∀ values, r = .ok values → values.length = nodes.length ∧
    ∀ (j : Nat) (value : Datum), values[j]? = some value →
      .ended ((i + j) :: above) (.ok value) ∈ visits

theorem Passed.cons {above : Position} {i : Nat} {head : Node} {rest : List Node} {value : Datum}
    {values : List Datum} {xs ys : List Visit} (first : .ended (i :: above) (.ok value) ∈ xs)
    (others : Passed above (i + 1) rest (.ok values) ys) :
    Passed above i (head :: rest) (.ok (value :: values)) (xs ++ ys) := by
  rintro _ ⟨⟩
  obtain ⟨length, ended⟩ := others values rfl
  refine ⟨by simp [length], fun j d found => ?_⟩
  cases j with
  | zero =>
    cases found
    exact List.mem_append_left ys first
  | succ j =>
    have later := ended j d found
    rw [Nat.add_right_comm] at later
    exact List.mem_append_right xs later

abbrev Visited (ctx : Context σ) (root : Node) (place : Position) (n : Node) : Prop :=
  Follows (fun r visits => Walked ctx root (callSites place n) n.Straight r visits ∧
    .ended place r ∈ visits) (track ctx place n) (evaluate ctx n)

theorem trackOption_walks {place : Position} {operand? : Option Node}
    (h : ∀ n ∈ operand?, Visited ctx root place n)
    (every : straight → ∀ n ∈ operand?, n.Straight) :
    Option.Rel (Walks ctx root (callSitesOption place operand?) straight)
      (trackOption ctx place operand?) (evaluateOption ctx operand?) := by
  cases operand? with
  | none => exact .none
  | some n => exact .some ((h n rfl).mono fun _ _ visited => visited.1.mono fun s => every s n rfl)

theorem trackFrom_walks {above : Position} {i : Nat} {nodes : List Node}
    (h : ∀ j n, nodes[j]? = some n → Visited ctx root ((i + j) :: above) n)
    (every : straight → ∀ n ∈ nodes, n.Straight) :
    Follows (fun r visits => Walked ctx root (callSitesFrom above i nodes) straight r visits ∧
      Passed above i nodes r visits) (trackFrom ctx above i nodes) (evaluateList ctx nodes) := by
  induction nodes generalizing i with
  | nil =>
    refine .done ⟨.nil fun _ _ _ => rfl, ?_⟩
    rintro _ ⟨⟩
    exact ⟨rfl, by simp⟩
  | cons head rest ih =>
    have tail := ih (i := i + 1)
      (fun j n found => by rw [Nat.add_right_comm]; exact h (j + 1) n found)
      fun s n mem => every s n (List.mem_cons_of_mem _ mem)
    refine orFail_follows (h 0 head rfl) ?_ fun value xs visited => ?_
    · rintro fault xs ⟨walked, -⟩
      exact ⟨(walked.mono fun s => every s head List.mem_cons_self).stopped, nofun⟩
    · obtain ⟨walked, first⟩ := visited
      replace walked := walked.mono fun s => every s head List.mem_cons_self
      refine orFail_follows tail ?_ fun values ys visited' => .done ?_
      · rintro fault ys ⟨walked', -⟩
        exact ⟨(walked.append walked' fun _ => ⟨value, rfl⟩), nofun⟩
      · obtain ⟨walked', passed⟩ := visited'
        rw [List.append_nil]
        refine ⟨?_, passed.cons first⟩
        have whole := walked.append walked' fun _ => ⟨value, rfl⟩
        exact ⟨whole.ordered, whole.justified, fun s _ _ => whole.complete s values rfl⟩

theorem call_walks {place : Position} {name : String} {args : List Node}
    {tracked : Step (Noted σ) (Except EvalFault (List Datum))}
    {values : Step σ (Except EvalFault (List Datum))}
    (node : root.at? place = some (.call name args))
    (h : Follows (fun r visits => Walked ctx root A straight r visits ∧
      Passed place 0 args r visits) tracked values) :
    Walks ctx root (A ++ [place]) straight (call (ctx.noting place) name tracked)
      (call ctx name values) := by
  unfold call
  rw [Context.function?_noting]
  cases registered : ctx.function? name with
  | none => exact .report _ (.nil nofun)
  | some f =>
    refine orFail_follows h (fun fault xs visited => visited.1.stopped) fun values xs visited => ?_
    obtain ⟨walked, passed⟩ := visited
    refine (invoke_follows place name f values).mono ?_
    rintro r _ rfl
    obtain ⟨length, ended⟩ := passed values rfl
    refine ⟨?_, ?_, ?_⟩
    · rw [Visit.sites_append]
      exact walked.ordered.append_right [place]
    · refine Context.justified_append walked.justified fun before place' call after same => ?_
      cases before with
      | nil =>
        obtain ⟨⟨⟩, -⟩ := List.cons.inj same
        refine ⟨by simp [registered], args, node, length, fun j value found => ?_⟩
        have earlier := ended j value found
        rw [Nat.zero_add] at earlier
        rwa [List.append_nil]
      | cons v before => simp at same
    · intro s a _
      rw [Visit.sites_append, walked.complete s values rfl, Visit.sites_called]

end

theorem track_visited (ctx : Context σ) (root n : Node) (place : Position)
    (stands : root.at? place = some n) : Visited ctx root place n := by
  -- the place is that of the child in each step, so that the visits are those of one walk of the root
  induction n using Node.induct generalizing place with
  | operator op left right leftIh rightIh =>
    have leftWalks := trackOption_walks
      (fun n mem => leftIh n mem _ (at?_child stands (children_left mem)))
      fun (straight : (Node.operator op left right).Straight) n mem =>
        straight.child (List.mem_of_getElem? (children_left mem))
    have rightWalks := trackOption_walks
      (fun n mem => rightIh n mem _ (at?_child stands (children_right mem)))
      fun (straight : (Node.operator op left right).Straight) n mem =>
        straight.child (List.mem_of_getElem? (children_right mem))
    refine ending_walks place (operator_walks leftWalks rightWalks fun straight => ?_)
    obtain ⟨notAnd, notOr, alone⟩ := straight op left right .self
    refine ⟨notAnd, notOr, fun negated => ?_⟩
    rw [alone negated]
    rfl
  | field name =>
    refine ending_walks place ((lookUp_follows ctx place name).mono fun r visits none => ?_)
    subst none
    exact .nil fun _ _ _ => rfl
  | literal kind value => exact ending_walks place (.done (.nil fun _ _ _ => rfl))
  | array elements ih =>
    have elementsVisited := trackFrom_walks
      (fun j n found => ih n (List.mem_of_getElem? found) _ (at?_child stands ((Nat.zero_add j).symm ▸ found)))
      fun (straight : (Node.array elements).Straight) n mem => straight.child mem
    have elementsWalks := elementsVisited.mono fun _ _ visited => visited.1
    exact ending_walks place (orFail_done_walks elementsWalks _)
  | call name args ih =>
    have argsVisited := trackFrom_walks
      (fun j n found => ih n (List.mem_of_getElem? found) _ (at?_child stands ((Nat.zero_add j).symm ▸ found)))
      fun (straight : (Node.call name args).Straight) n mem => straight.child mem
    exact ending_walks place (call_walks stands argsVisited)
  | unknown => exact ending_walks place (.done (.nil nofun))

/-- The record of an evaluation accounts for its calls: they stand in the record as they were made,
their nodes are some of the calls of the tree in their order, in which a call stands once and after
all calls within its arguments, and each call was due. Where nothing is skipped and the result is ok,
all calls of the tree have been made. -/
theorem evaluate_invocations (ctx : Context σ) (root : Node) (state : σ) :
    let run := evaluate ctx root state
    let sites := root.callSites []
    ∃ visits, track ctx [] root (state, []) = run.noted visits ∧
      run.calls = Visit.calls visits ∧
      (Visit.sites visits).Sublist sites ∧
      (∀ place, place ∈ sites ↔ ∃ name args, root.at? place = some (.call name args)) ∧
      (sites.Pairwise fun earlier later => ¬earlier <:+ later) ∧
      ctx.Justified root visits ∧
      (root.Straight → (∃ value, run.result = .ok value) → Visit.sites visits = sites) := by
  intro run sites
  obtain ⟨visits, same, calls, walked, -⟩ := track_visited ctx root root [] rfl state []
  refine ⟨visits, same, calls, walked.ordered, ?_, callSites_pairwise [] root, walked.justified, ?_⟩
  · intro place
    simp [sites, mem_callSites]
  · rintro straight ⟨value, ok⟩
    exact walked.complete straight value ok

theorem evaluate_invocations_of_counter :
    let count : RuleFunction Nat := fun _ calls => (.value (.ofInt calls), calls + 1)
    let ctx : Context Nat := ⟨.obj [], some ⟨[("count", count)]⟩, fun _ => none⟩
    let root : Node := .eq (.call "count" [.call "count" []]) (.call "count" [])
    ∃ visits, track ctx [] root (0, []) = (evaluate ctx root 0).noted visits ∧
      Visit.sites visits = [[0, 0], [0], [1]] := by
  intro count ctx root
  obtain ⟨visits, same, -, -, -, -, -, all⟩ := evaluate_invocations ctx root 0
  refine ⟨visits, same, all ?_ ⟨_, rfl⟩⟩
  intro op left right h
  have calls (n : Node) (mem : n ∈ root.children) : ¬Within (.operator op left right) n := by
    intro h
    simp only [root, Node.eq, children_binary, List.mem_cons, List.not_mem_nil, or_false] at mem
    rcases mem with rfl | rfl
    · cases h with
      | child mem h =>
        obtain rfl := List.mem_singleton.mp mem
        cases h with
        | child mem _ => cases mem
    · cases h with
      | child mem _ => cases mem
  rcases Within.iff_children.mp h with shape | ⟨c, mem, h⟩
  · obtain ⟨rfl, -, -⟩ := Node.operator.inj shape
    simp
  · exact absurd h (calls c mem)

end Evaluation

end Verdict
