import Verdict.Proofs.Evaluation.Sequence

set_option autoImplicit false

namespace Verdict

namespace Step

variable {σ α β γ : Type}

def map (f : α → β) (step : Step σ α) : Step σ β := step.andThen fun a => .done (f a)

def tell (events : List Event) (a : α) : Step σ α := fun state => ⟨a, events, [], state⟩

def silent (step : Step σ α) : Step σ α := fun state => { step state with events := [] }

@[simp] theorem done_andThen (a : α) (next : α → Step σ β) : (done a).andThen next = next a := by
  funext state
  simp [andThen, done]

@[simp] theorem andThen_done (step : Step σ α) : (step.andThen fun a => .done a) = step := by
  funext state
  simp [andThen, done]

@[simp] theorem tell_nil (a : α) : (tell [] a : Step σ α) = done a := rfl

theorem tell_andThen (events : List Event) (a : α) (next : α → Step σ β) :
    (tell events a).andThen next = (tell events ()).andThen fun _ => next a := rfl

theorem tell_tell (events more : List Event) (b : β) :
    ((tell events ()).andThen fun _ => tell more b : Step σ β) = tell (events ++ more) b := by
  funext state
  simp [andThen, tell]

theorem tell_map (events : List Event) (a : α) (f : α → β) :
    ((tell events a).map f : Step σ β) = tell events (f a) := by
  rw [map, tell_andThen, ← tell_nil, tell_tell, List.append_nil]

@[simp] theorem map_done (f : α → β) (a : α) : (done a : Step σ α).map f = done (f a) :=
  done_andThen ..

theorem map_map (f : α → β) (g : β → γ) (step : Step σ α) :
    (step.map f).map g = step.map fun a => g (f a) := by
  simp only [map, andThen_assoc, done_andThen]

theorem map_andThen (f : α → β) (step : Step σ α) (next : β → Step σ γ) :
    (step.map f).andThen next = step.andThen fun a => next (f a) := by
  simp only [map, andThen_assoc, done_andThen]

theorem andThen_map (f : β → γ) (first : Step σ α) (next : α → Step σ β) :
    (first.andThen next).map f = first.andThen fun a => (next a).map f :=
  andThen_assoc ..

theorem andThen_congr {P : α → Prop} {first : Step σ α} {next next' : α → Step σ β}
    (yields : ∀ state, P (first state).result) (same : ∀ a, P a → next a = next' a) :
    first.andThen next = first.andThen next' := by
  funext state
  simp only [andThen, same _ (yields state)]

@[simp] theorem silent_tell (events : List Event) (a : α) :
    (tell events a : Step σ α).silent = done a := rfl

theorem silent_andThen (first : Step σ α) (next : α → Step σ β) :
    (first.andThen next).silent = first.silent.andThen fun a => (next a).silent := by
  funext state
  simp [andThen, silent]

end Step

namespace Evaluation

variable {σ : Type}

def upTo (decides : Result → Bool) : List (Operand σ) → Step σ (List Result)
  | [] => .done []
  | operand :: rest =>
      operand.andThen fun r =>
        if decides r then .done [r] else (upTo decides rest).map (r :: ·)

section UpTo

variable (decides : Result → Bool)

theorem upTo_append (operands more : List (Operand σ)) :
    upTo decides (operands ++ more) =
      (upTo decides operands).andThen fun results =>
        if results.any decides then .done results else (upTo decides more).map (results ++ ·) := by
  induction operands with
  | nil => simp [upTo, Step.map]
  | cons operand rest ih =>
    simp only [List.cons_append, upTo, Step.andThen_assoc]
    congr 1
    funext r
    by_cases decided : decides r
    · simp [decided]
    · simp only [decided, if_false, Bool.false_eq_true, ih, Step.map_andThen, Step.andThen_map]
      congr 1
      funext results
      by_cases later : results.any decides
      · simp [later, decided]
      · simp [later, decided, Step.map_map]

/-- The results of `count` operands, which only the last decides, or none. -/
def Reached (count : Nat) (results : List Result) : Prop :=
  ∃ before last, results = before ++ [last] ∧ before.any decides = false ∧ results.length ≤ count ∧
    (decides last = false → results.length = count)

theorem upTo_reached {operands : List (Operand σ)} (nonempty : operands ≠ []) (state : σ) :
    Reached decides operands.length (upTo decides operands state).result := by
  induction operands generalizing state with
  | nil => exact absurd rfl nonempty
  | cons operand rest ih =>
    simp only [upTo, Step.andThen]
    by_cases decided : decides (operand state).result
    · refine ⟨[], (operand state).result, by simp [decided, Step.done], rfl, ?_, ?_⟩
      · simp [decided, Step.done]
      · simp [decided]
    · simp only [decided, if_false, Bool.false_eq_true, Step.map, Step.andThen, Step.done]
      by_cases single : rest = []
      · subst single
        exact ⟨[], (operand state).result, rfl, rfl, Nat.le_refl 1, fun _ => rfl⟩
      · obtain ⟨before, last, same, none, within, whole⟩ := ih single (operand state).state
        refine ⟨(operand state).result :: before, last, by simp [same], ?_, ?_, ?_⟩
        · simp [decided, none]
        · simpa using within
        · simpa using whole

end UpTo

/-- What the operands of an `or` amount to: true if one passes, else the first failure if all failed,
the one that is ok if there is just one, and false if there are more. -/
def anyOf (results : List Result) : Result :=
  if results.any passes then verdict true
  else match results.filter isOk with
    | [] => results.headD (verdict false)
    | [only] => only
    | _ => verdict false

/-- What the operands of an `and` amount to: true if all pass, else the failure of the first that does
not, or false if that one is ok. -/
def allOf (results : List Result) : Result :=
  match results.find? (!passes ·) with
  | none => verdict true
  | some (.error fault) => .error fault
  | some (.ok _) => verdict false

/-- How the results of a chain's operands make up its result: which of them decides, what they amount
to, and what is reported where the operand on some side decides. A part of a chain may be put in place
of its operands. -/
structure Connective where
  decides : Result → Bool
  amount : List Result → Result
  stops : Side → Result → List Event
  decides_amount : ∀ rs, rs ≠ [] → decides (amount rs) = rs.any decides
  amount_amount : ∀ rs, rs ≠ [] → amount [amount rs] = amount rs
  amount_append : ∀ rs ss, rs ≠ [] → ss ≠ [] → rs.any decides = false →
    amount [amount rs, amount ss] = amount (rs ++ ss)
  stops_amount : ∀ side rs r, rs.any decides = false → stops side (amount (rs ++ [r])) = stops side r
  stops_undecided : ∀ side r, decides r = false → stops side r = []

inductive Grouping where
  | one (n : Node)
  | pair (left right : Grouping)

namespace Grouping

def leaves : Grouping → List Node
  | one n => [n]
  | pair left right => left.leaves ++ right.leaves

def toNode (op : Operator) : Grouping → Node
  | one n => n
  | pair left right => .binary op (left.toNode op) (right.toNode op)

-- On which side each pair around a leaf has it, from the innermost pair to the outermost.
def sides : Grouping → Nat → List Side
  | one _, _ => []
  | pair left right, i =>
      if i < left.leaves.length then left.sides i ++ [.left]
      else right.sides (i - left.leaves.length) ++ [.right]

/-- What the pairs around the last leaf that was reached report, given its result. -/
def told (stops : Side → Result → List Event) (g : Grouping) (results : List Result) : List Event :=
  match results.getLast? with
  | some last => (g.sides (results.length - 1)).flatMap (stops · last)
  | none => []

theorem leaves_ne_nil (g : Grouping) : g.leaves ≠ [] := by
  cases g with
  | one n => simp [leaves]
  | pair left right => simp [leaves, leaves_ne_nil left]

section Told

variable (stops : Side → Result → List Event)

theorem told_concat (g : Grouping) (before : List Result) (last : Result) :
    g.told stops (before ++ [last]) = (g.sides before.length).flatMap (stops · last) := by
  simp [told]

theorem told_left {left : Grouping} (right : Grouping) {before : List Result} (last : Result)
    (here : before.length < left.leaves.length) :
    (pair left right).told stops (before ++ [last]) =
      left.told stops (before ++ [last]) ++ stops .left last := by
  rw [told_concat, told_concat, sides, if_pos here, List.flatMap_append, List.flatMap_singleton]

theorem told_right {left : Grouping} (right : Grouping) {first : List Result}
    (whole : first.length = left.leaves.length) (before : List Result) (last : Result) :
    (pair left right).told stops (first ++ (before ++ [last])) =
      right.told stops (before ++ [last]) ++ stops .right last := by
  have beyond : ¬(first ++ before).length < left.leaves.length := by simp [whole]
  have inner : (first ++ before).length - left.leaves.length = before.length := by simp [whole]
  rw [← List.append_assoc, told_concat, told_concat, sides, if_neg beyond, inner,
    List.flatMap_append, List.flatMap_singleton]

end Told

end Grouping

namespace Connective

open Grouping

variable (c : Connective)

def join (left right : Operand σ) : Operand σ :=
  left.andThen fun l =>
    if c.decides l then .tell (c.stops .left l) (c.amount [l])
    else right.andThen fun r => .tell (c.stops .right r) (c.amount [l, r])

theorem decides_one (r : Result) : c.decides (c.amount [r]) = c.decides r := by
  simpa using c.decides_amount [r] (by simp)

theorem stops_one (side : Side) (r : Result) : c.stops side (c.amount [r]) = c.stops side r :=
  c.stops_amount side [] r rfl

theorem join_map (left right : Operand σ) :
    c.join (left.map fun l => c.amount [l]) (right.map fun r => c.amount [r]) = c.join left right := by
  simp only [join, Step.map_andThen, decides_one, stops_one]
  congr 1
  funext l
  by_cases decided : c.decides l
  · rw [if_pos decided, if_pos decided, c.amount_amount [l] (by simp)]
  · rw [if_neg decided, if_neg decided]
    congr 1
    funext r
    rw [c.amount_append [l] [r] (by simp) (by simp) (by simpa using decided), List.singleton_append]

theorem map_join (left right : Operand σ) :
    (c.join left right).map (fun r => c.amount [r]) = c.join left right := by
  simp only [join, Step.andThen_map]
  congr 1
  funext l
  by_cases decided : c.decides l
  · rw [if_pos decided, Step.tell_map, c.amount_amount [l] (by simp)]
  · simp only [if_neg decided, Step.andThen_map, Step.tell_map]
    congr 1
    funext r
    rw [c.amount_amount [l, r] (by simp)]

variable (ctx : Context σ)

def chain (g : Grouping) : Operand σ :=
  (upTo c.decides (g.leaves.map (evaluate ctx))).andThen fun results =>
    .tell (g.told c.stops results) (c.amount results)

theorem chain_one (n : Node) : c.chain ctx (one n) = (evaluate ctx n).map fun r => c.amount [r] := by
  simp only [chain, leaves, List.map_cons, List.map_nil, upTo, Step.map_done, ite_self]
  exact Step.map_andThen ..

theorem reached (g : Grouping) (state : σ) : Reached c.decides g.leaves.length
    (upTo c.decides (g.leaves.map (evaluate ctx)) state).result := by
  have nonempty : g.leaves.map (evaluate ctx) ≠ [] := by simpa using g.leaves_ne_nil
  simpa using upTo_reached c.decides nonempty state

theorem chain_pair (left right : Grouping) :
    c.join (c.chain ctx left) (c.chain ctx right) = c.chain ctx (pair left right) := by
  simp only [join, chain, leaves, List.map_append, upTo_append, Step.andThen_assoc]
  refine Step.andThen_congr (c.reached ctx left) ?_
  rintro _ ⟨before, last, rfl, none, within, whole⟩
  have any : (before ++ [last]).any c.decides = c.decides last := by simp [none]
  have amounts := (c.decides_amount (before ++ [last]) (by simp)).trans any
  by_cases decided : c.decides last
  · -- the last of the results is one of the left part, which may still have others
    have here : before.length < left.leaves.length := by
      rwa [List.length_append, List.length_singleton, Nat.add_one_le_iff] at within
    rw [any, if_pos decided, Step.done_andThen, told_left c.stops right last here,
      Step.tell_andThen, if_pos (amounts.trans decided), Step.tell_tell, c.stops_amount _ _ _ none,
      c.amount_amount _ (by simp)]
  · -- all of the left part was evaluated, and none of its pairs has reported anything
    have length : (before ++ [last]).length = left.leaves.length := whole (by simpa using decided)
    have undecided : (before ++ [last]).any c.decides = false := by simpa [any] using decided
    have quiet : left.told c.stops (before ++ [last]) = [] := by
      simp [told_concat, c.stops_undecided _ last (by simpa using decided)]
    rw [any, if_neg decided, quiet, Step.tell_nil, Step.done_andThen, amounts, if_neg decided,
      Step.map_andThen]
    refine Step.andThen_congr (c.reached ctx right) ?_
    rintro _ ⟨before', last', rfl, none', -, -⟩
    rw [Step.tell_andThen, Step.tell_tell, told_right c.stops right length,
      c.stops_amount _ _ _ none', c.amount_append _ _ (by simp) (by simp) undecided]

theorem evaluate_pair (op : Operator)
    (joins : ∀ l r : Node, evaluate ctx (.binary op l r) = c.join (evaluate ctx l) (evaluate ctx r))
    (left right : Grouping) :
    evaluate ctx ((pair left right).toNode op) = c.chain ctx (pair left right) := by
  -- a chain of one leaf is not the leaf itself, but a pair around it cannot tell
  have amounts (g : Grouping) :
      (evaluate ctx (g.toNode op)).map (fun r => c.amount [r]) = c.chain ctx g := by
    induction g with
    | one n => rw [chain_one, toNode]
    | pair left right leftIh rightIh =>
      rw [toNode, joins, map_join, ← join_map, leftIh, rightIh, chain_pair]
  rw [toNode, joins, ← join_map, amounts, amounts, chain_pair]

theorem silent_chain (g : Grouping) :
    (c.chain ctx g).silent =
      ((upTo c.decides (g.leaves.map (evaluate ctx))).map c.amount).silent := by
  simp only [chain, Step.map, Step.silent_andThen, Step.silent_tell, ← Step.tell_nil]

end Connective

section Or

@[simp] theorem isOk_ok (d : Datum) : isOk (.ok d) = true := rfl

@[simp] theorem isOk_error (fault : EvalFault) : isOk (.error fault) = false := rfl

def merged (results : List Result) : Result :=
  match results.filter isOk with
  | [] => results.headD (verdict false)
  | [only] => only
  | _ => verdict false

theorem anyOf_of_any {results : List Result} (decided : results.any passes) :
    anyOf results = verdict true := by
  rw [anyOf, if_pos decided]

theorem anyOf_of_none {results : List Result} (none : results.any passes = false) :
    anyOf results = merged results := by
  simp [anyOf, merged, none]

theorem merged_single (r : Result) : merged [r] = r := by
  by_cases ok : isOk r
  · simp [merged, ok]
  · simp [merged, ok]

theorem isOk_merged {results : List Result} (nonempty : results ≠ []) :
    isOk (merged results) = results.any isOk := by
  unfold merged
  split
  · next none =>
    have failed : ∀ r ∈ results, isOk r = false := by simpa using none
    have quiet : results.any isOk = false := by simpa using failed
    cases results with
    | nil => exact absurd rfl nonempty
    | cons r rest => rw [quiet, List.headD_cons, failed r List.mem_cons_self]
  · next only one =>
    obtain ⟨mem, ok⟩ := List.mem_filter.mp (one ▸ List.mem_cons_self : only ∈ results.filter isOk)
    rw [ok, List.any_eq_true.mpr ⟨only, mem, ok⟩]
  · next several none _ =>
    obtain ⟨r, mem⟩ := List.exists_mem_of_ne_nil _ none
    obtain ⟨mem, ok⟩ := List.mem_filter.mp mem
    rw [List.any_eq_true.mpr ⟨r, mem, ok⟩]
    rfl

theorem merged_cons (r : Result) {rest : List Result} (nonempty : rest ≠ []) :
    merged (r :: rest) = coalesce r (merged rest) := by
  have ok := isOk_merged nonempty
  cases oks : rest.filter isOk with
  | nil =>
    have none : rest.any isOk = false := by simpa using oks
    cases later : merged rest with
    | ok d => simp [later, none] at ok
    | error fault => cases r <;> simp [merged, List.filter_cons, oks, coalesce]
  | cons first more =>
    have some : rest.any isOk := by
      obtain ⟨mem, good⟩ := List.mem_filter.mp (oks ▸ List.mem_cons_self : first ∈ rest.filter isOk)
      exact List.any_eq_true.mpr ⟨first, mem, good⟩
    cases later : merged rest with
    | ok d =>
      cases r with
      | ok e => simp [merged, List.filter_cons, oks, coalesce]
      | error fault =>
        rw [coalesce, ← later, merged, merged, List.filter_cons_of_neg (by simp), oks]
        cases more <;> rfl
    | error fault => simp [later, some] at ok

theorem coalesce_assoc (a b c : Result) :
    coalesce (coalesce a b) c = coalesce a (coalesce b c) := by
  cases a <;> cases b <;> cases c <;> rfl

theorem merged_append {rs ss : List Result} (nonempty : rs ≠ []) (nonempty' : ss ≠ []) :
    merged (rs ++ ss) = coalesce (merged rs) (merged ss) := by
  induction rs with
  | nil => exact absurd rfl nonempty
  | cons r rest ih =>
    cases rest with
    | nil => rw [merged_single, List.singleton_append, merged_cons r nonempty']
    | cons next more =>
      rw [List.cons_append, merged_cons r (by simp), ih (by simp), merged_cons r (by simp),
        coalesce_assoc]

theorem passes_coalesce {a b : Result} (left : passes a = false) (right : passes b = false) :
    passes (coalesce a b) = false := by
  cases a <;> cases b <;> first | rfl | assumption

theorem passes_merged {results : List Result} (nonempty : results ≠ [])
    (none : results.any passes = false) : passes (merged results) = false := by
  induction results with
  | nil => exact absurd rfl nonempty
  | cons r rest ih =>
    rw [List.any_cons, Bool.or_eq_false_iff] at none
    cases rest with
    | nil => rw [merged_single, none.1]
    | cons next more =>
      rw [merged_cons r (by simp)]
      exact passes_coalesce none.1 (ih (by simp) none.2)

theorem passes_anyOf (results : List Result) (nonempty : results ≠ []) :
    passes (anyOf results) = results.any passes := by
  by_cases decided : results.any passes
  · rw [anyOf_of_any decided, decided]
    rfl
  · have none : results.any passes = false := by simpa using decided
    rw [anyOf_of_none none, passes_merged nonempty none, none]

theorem anyOf_anyOf (results : List Result) (nonempty : results ≠ []) :
    anyOf [anyOf results] = anyOf results := by
  have kept := passes_anyOf results nonempty
  by_cases decided : results.any passes
  · rw [anyOf_of_any decided]
    rfl
  · have none : [anyOf results].any passes = false := by simpa [kept] using decided
    rw [anyOf_of_none none, merged_single]

theorem anyOf_append (rs ss : List Result) (nonempty : rs ≠ []) (nonempty' : ss ≠ [])
    (none : rs.any passes = false) : anyOf [anyOf rs, anyOf ss] = anyOf (rs ++ ss) := by
  have left := passes_anyOf rs nonempty
  have right := passes_anyOf ss nonempty'
  by_cases decided : ss.any passes
  · rw [anyOf_of_any (by simp [right, decided]), anyOf_of_any (by simp [decided])]
  · have none' : ss.any passes = false := by simpa using decided
    have parts : [anyOf rs, anyOf ss].any passes = false := by simp [left, right, none, none']
    have whole : (rs ++ ss).any passes = false := by rw [List.any_append, none, none', Bool.or_false]
    rw [anyOf_of_none parts, anyOf_of_none whole, anyOf_of_none none, anyOf_of_none none',
      merged_cons _ (by simp), merged_single, merged_append nonempty nonempty']

def orStops (side : Side) (r : Result) : List Event :=
  match side with
  | .left => if passes r then [.orStopped] else []
  | .right => []

theorem passes_anyOf_concat {rs : List Result} (none : rs.any passes = false) (r : Result) :
    passes (anyOf (rs ++ [r])) = passes r := by
  rw [passes_anyOf _ (by simp)]
  simp [none]

def disjunctive : Connective where
  decides := passes
  amount := anyOf
  stops := orStops
  decides_amount := passes_anyOf
  amount_amount := anyOf_anyOf
  amount_append := anyOf_append
  stops_amount side rs r none := by
    cases side with
    | left => rw [orStops, passes_anyOf_concat none, orStops]
    | right => rfl
  stops_undecided side r failed := by cases side <;> simp [orStops, failed]

theorem disjunction_eq_join (left right : Operand σ) :
    disjunction left right = disjunctive.join left right := by
  unfold disjunction Connective.join
  congr 1
  funext l
  by_cases decided : passes l
  · have whole : anyOf [l] = verdict true := anyOf_of_any (by simpa using decided)
    simp only [disjunctive, orStops, decided, if_true, whole]
    rfl
  · simp only [disjunctive, decided, Bool.false_eq_true, if_false]
    congr 1
    funext r
    by_cases last : passes r
    · simp [orStops, anyOf, last]
    · have none : [l, r].any passes = false := by simp [decided, last]
      simp [orStops, last, anyOf_of_none none, merged_cons, merged_single]

end Or

section And

theorem allOf_cases (results : List Result) :
    (results.any (!passes ·) = false ∧ allOf results = verdict true) ∨
      (results.any (!passes ·) ∧
        (allOf results = verdict false ∨ ∃ fault, allOf results = .error fault)) := by
  cases first : results.find? (!passes ·) with
  | none => exact .inl ⟨by simpa using first, by rw [allOf, first]⟩
  | some r =>
    have stops : (!passes r) = true := List.find?_some (p := (!passes ·)) first
    have found : results.any (!passes ·) :=
      List.any_eq_true.mpr ⟨r, List.mem_of_find?_eq_some first, stops⟩
    refine .inr ⟨found, ?_⟩
    rw [allOf, first]
    cases r with
    | ok d => exact .inl rfl
    | error fault => exact .inr ⟨fault, rfl⟩

theorem decides_allOf (results : List Result) (_ : results ≠ []) :
    (!passes (allOf results)) = results.any (!passes ·) := by
  rcases allOf_cases results with ⟨all, same⟩ | ⟨some, same | ⟨fault, same⟩⟩
  · rw [same, all]
    rfl
  · rw [same, some]
    rfl
  · rw [same, some]
    rfl

theorem allOf_allOf (results : List Result) (_ : results ≠ []) :
    allOf [allOf results] = allOf results := by
  rcases allOf_cases results with ⟨-, same⟩ | ⟨-, same | ⟨fault, same⟩⟩ <;> rw [same] <;> rfl

theorem allOf_skip {results : List Result} (all : results.any (!passes ·) = false)
    (more : List Result) : allOf (results ++ more) = allOf more := by
  have none : results.find? (!passes ·) = none := by simpa using all
  simp only [allOf, List.find?_append, none, Option.none_or]

theorem allOf_append (rs ss : List Result) (nonempty : rs ≠ []) (nonempty' : ss ≠ [])
    (all : rs.any (!passes ·) = false) : allOf [allOf rs, allOf ss] = allOf (rs ++ ss) := by
  have first : [allOf rs].any (!passes ·) = false := by
    simpa [decides_allOf rs nonempty] using all
  calc allOf [allOf rs, allOf ss] = allOf [allOf ss] := allOf_skip first _
    _ = allOf ss := allOf_allOf ss nonempty'
    _ = allOf (rs ++ ss) := (allOf_skip all ss).symm

-- An `and` reports an operand that is zero, but not one that fails.
def andStops (side : Side) : Result → List Event
  | .ok d => if d.isZero then [.andStopped side] else []
  | .error _ => []

theorem allOf_single (r : Result) :
    allOf [r] = match r with
      | .ok d => verdict !d.isZero
      | .error fault => .error fault := by
  cases r with
  | error fault => rfl
  | ok d => by_cases zero : d.isZero <;> simp [allOf, passes, zero]

def conjunctive : Connective where
  decides r := !passes r
  amount := allOf
  stops := andStops
  decides_amount := decides_allOf
  amount_amount := allOf_allOf
  amount_append := allOf_append
  stops_amount side rs r all := by
    rw [allOf_skip all, allOf_single]
    cases r with
    | error fault => rfl
    | ok d =>
      have kept : (Datum.bool !d.isZero).isZero = d.isZero := Bool.not_not d.isZero
      simp only [verdict, andStops, kept]
  stops_undecided side r passed := by
    cases r with
    | error fault => rfl
    | ok d => simpa [andStops, passes] using passed

theorem conjunction_eq_join (left right : Operand σ) :
    conjunction left right = conjunctive.join left right := by
  unfold conjunction conjunct orFail Connective.join
  congr 1
  funext l
  cases l with
  | error fault => rfl
  | ok d =>
    by_cases zero : d.isZero
    · simp only [conjunctive, passes, zero, andStops, allOf_single, if_true, Bool.not_true, Bool.not_false]
      rfl
    · simp only [conjunctive, passes, zero, Bool.false_eq_true, if_false, Bool.not_false, Bool.not_true]
      congr 1
      funext r
      have first : [.ok d].any (!passes ·) = false := by simp [passes, zero]
      have skip : allOf [.ok d, r] = allOf [r] := allOf_skip first [r]
      rw [skip, allOf_single]
      cases r with
      | error fault => rfl
      | ok e =>
        by_cases last : e.isZero
        · simp [andStops, last]
          rfl
        · simp [andStops, last]

end And

namespace Grouping

variable (ctx : Context σ)

/-- A chain of `or` is its operands in order up to the first that passes, a chain of `and` those up to
the first that does not. Their results make up that of the chain. After them come the reports of the
pairs around the last of them, which is all that the grouping has to do with the run. -/
theorem evaluate_chain (left right : Grouping) :
    let chain := pair left right
    let operands := chain.leaves.map (evaluate ctx)
    (evaluate ctx (chain.toNode .or) =
        (upTo passes operands).andThen fun results =>
          .tell (chain.told orStops results) (anyOf results)) ∧
      (evaluate ctx (chain.toNode .and) =
        (upTo (!passes ·) operands).andThen fun results =>
          .tell (chain.told andStops results) (allOf results)) ∧
      ∀ a b c : Node,
        (evaluate ctx (.or (.or a b) c)).silent = (evaluate ctx (.or a (.or b c))).silent ∧
          (evaluate ctx (.and (.and a b) c)).silent = (evaluate ctx (.and a (.and b c))).silent := by
  have ors := disjunctive.evaluate_pair ctx .or fun _ _ => disjunction_eq_join ..
  have ands := conjunctive.evaluate_pair ctx .and fun _ _ => conjunction_eq_join ..
  refine ⟨ors left right, ands left right, ?_⟩
  intro a b c
  let early := pair (pair (one a) (one b)) (one c)
  let late := pair (one a) (pair (one b) (one c))
  have same : early.leaves = late.leaves := rfl
  have regrouped (c : Connective) : (c.chain ctx early).silent = (c.chain ctx late).silent := by
    rw [c.silent_chain, same, c.silent_chain]
  constructor
  · calc (evaluate ctx (early.toNode .or)).silent
      _ = (disjunctive.chain ctx early).silent := by rw [ors]
      _ = (disjunctive.chain ctx late).silent := regrouped disjunctive
      _ = (evaluate ctx (late.toNode .or)).silent := by rw [ors]
  · calc (evaluate ctx (early.toNode .and)).silent
      _ = (conjunctive.chain ctx early).silent := by rw [ands]
      _ = (conjunctive.chain ctx late).silent := regrouped conjunctive
      _ = (evaluate ctx (late.toNode .and)).silent := by rw [ands]

end Grouping

end Evaluation

end Verdict
