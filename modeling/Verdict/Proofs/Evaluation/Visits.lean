import Verdict.Proofs.Evaluation.Sequence
import Verdict.Proofs.Rule.Position

set_option autoImplicit false

namespace Verdict

open Node (Position)

variable {σ α β : Type}

inductive Visit where
  | called (place : Position) (call : Call)
  | ended (place : Position) (result : Evaluation.Result)

namespace Visit

def site? : Visit → Option Position
  | called place _ => some place
  | ended .. => none

def call? : Visit → Option Call
  | called _ call => some call
  | ended .. => none

def sites (visits : List Visit) : List Position := visits.filterMap site?

def calls (visits : List Visit) : List Call := visits.filterMap call?

@[simp] theorem sites_called (place : Position) (call : Call) : sites [called place call] = [place] :=
  rfl

@[simp] theorem sites_ended (place : Position) (result : Evaluation.Result) :
    sites [ended place result] = [] := rfl

@[simp] theorem sites_append (xs ys : List Visit) : sites (xs ++ ys) = sites xs ++ sites ys :=
  List.filterMap_append

@[simp] theorem calls_append (xs ys : List Visit) : calls (xs ++ ys) = calls xs ++ calls ys :=
  List.filterMap_append

end Visit

abbrev Noted (σ : Type) := σ × List Visit

def RuleFunction.noting (place : Position) (name : String) (f : RuleFunction σ) :
    RuleFunction (Noted σ) := fun args state =>
  let (reply, next) := f args state.1
  (reply, (next, state.2 ++ [.called place ⟨name, args⟩]))

def Registry.noting (place : Position) (functions : Registry σ) : Registry (Noted σ) :=
  ⟨functions.entries.map fun entry => (entry.1, entry.2.noting place entry.1)⟩

def Context.noting (place : Position) (ctx : Context σ) : Context (Noted σ) :=
  ⟨ctx.record, ctx.functions.map (·.noting place), ctx.patterns⟩

theorem Registry.lookup_map_entries {γ δ : Type} (g : String → γ → δ) (entries : List (String × γ))
    (name : String) : (entries.map fun entry => (entry.1, g entry.1 entry.2)).lookup name =
      (entries.lookup name).map (g name) := by
  induction entries with
  | nil => rfl
  | cons entry rest ih =>
    rw [List.map_cons, List.lookup_cons, List.lookup_cons, ih]
    by_cases same : name = entry.1
    · subst same
      simp
    · simp [beq_false_of_ne same]

theorem Registry.get?_noting (place : Position) (functions : Registry σ) (name : String) :
    (functions.noting place).get? name = (functions.get? name).map (·.noting place name) :=
  lookup_map_entries (RuleFunction.noting place) functions.entries name

theorem Context.function?_noting (place : Position) (ctx : Context σ) (name : String) :
    (ctx.noting place).function? name = (ctx.function? name).map (·.noting place name) := by
  cases functions : ctx.functions with
  | none => simp [function?, noting, functions]
  | some table => simp [function?, noting, functions, Registry.get?_noting]

namespace Evaluation

def ending (place : Position) (operand : Operand (Noted σ)) : Operand (Noted σ) := fun state =>
  let run := operand state
  { run with state := (run.state.1, run.state.2 ++ [.ended place run.result]) }

mutual

/-- The evaluation of a node that stands at `here`, with a record of what it visits. -/
def track (ctx : Context σ) (here : Position) : Node → Operand (Noted σ)
  | .literal _ value => ending here (.done (.ok value))
  | .field name => ending here (lookUp (ctx.noting here) name)
  | .array elements =>
      ending here (orFail (trackFrom ctx here 0 elements) fun values => .done (.ok (.arr values)))
  | .call name args => ending here (call (ctx.noting here) name (trackFrom ctx here 0 args))
  | .operator op left right =>
      ending here (operator ctx.patterns op (trackOption ctx (0 :: here) left)
        (trackOption ctx (left.toList.length :: here) right))
  | .unknown => ending here (.done (.error .unknownNode))

def trackOption (ctx : Context σ) (here : Position) : Option Node → Option (Operand (Noted σ))
  | none => none
  | some n => some (track ctx here n)

def trackFrom (ctx : Context σ) (above : Position) :
    Nat → List Node → Step (Noted σ) (Except EvalFault (List Datum))
  | _, [] => .done (.ok [])
  | i, n :: rest =>
      orFail (track ctx (i :: above) n) fun value =>
        orFail (trackFrom ctx above (i + 1) rest) fun values => .done (.ok (value :: values))

end

end Evaluation

def Run.noted (run : Run σ α) (visits : List Visit) : Run (Noted σ) α :=
  ⟨run.result, run.events, run.calls, (run.state, visits)⟩

namespace Step

/-- One computation does what the other does. Beside that it adds to the record: all calls that are
made, and what else fits the result. -/
def Follows (Q : α → List Visit → Prop) (tracked : Step (Noted σ) α) (step : Step σ α) : Prop :=
  ∀ state earlier, ∃ visits, tracked (state, earlier) = (step state).noted (earlier ++ visits) ∧
    (step state).calls = Visit.calls visits ∧ Q (step state).result visits

namespace Follows

variable {P Q : α → List Visit → Prop} {R : β → List Visit → Prop}
  {tracked : Step (Noted σ) α} {step : Step σ α}

theorem mono (h : Follows P tracked step) (weaker : ∀ a xs, P a xs → Q a xs) :
    Follows Q tracked step := by
  intro state earlier
  obtain ⟨visits, same, calls, fits⟩ := h state earlier
  exact ⟨visits, same, calls, weaker _ _ fits⟩

theorem done {a : α} (h : Q a []) : Follows (σ := σ) Q (.done a) (.done a) :=
  fun state earlier => ⟨[], by simp [Step.done, Run.noted], rfl, h⟩

theorem report (event : Event) {a : α} (h : Q a []) :
    Follows (σ := σ) Q (.report event a) (.report event a) :=
  fun state earlier => ⟨[], by simp [Step.report, Run.noted], rfl, h⟩

theorem andThen {next : α → Step σ β} {trackedNext : α → Step (Noted σ) β}
    (h : Follows P tracked step)
    (hnext : ∀ a xs, P a xs → Follows (fun b ys => R b (xs ++ ys)) (trackedNext a) (next a)) :
    Follows R (tracked.andThen trackedNext) (step.andThen next) := by
  intro state earlier
  obtain ⟨xs, same, calls, fits⟩ := h state earlier
  obtain ⟨ys, sameNext, callsNext, fitsNext⟩ :=
    hnext _ xs fits (step state).state (earlier ++ xs)
  refine ⟨xs ++ ys, ?_, ?_, fitsNext⟩
  · simp only [Step.andThen, same, Run.noted] at sameNext ⊢
    simp [sameNext]
  · simp only [Step.andThen, calls, callsNext, Visit.calls_append]

end Follows

end Step

namespace Evaluation

open Step Node

theorem orFail_follows {P : Except EvalFault α → List Visit → Prop}
    {R : Except EvalFault β → List Visit → Prop} {tracked : Step (Noted σ) (Except EvalFault α)}
    {step : Step σ (Except EvalFault α)} {next : α → Step σ (Except EvalFault β)}
    {trackedNext : α → Step (Noted σ) (Except EvalFault β)} (h : Follows P tracked step)
    (failed : ∀ fault xs, P (.error fault) xs → R (.error fault) xs)
    (hnext : ∀ a xs, P (.ok a) xs →
      Follows (fun b ys => R b (xs ++ ys)) (trackedNext a) (next a)) :
    Follows R (orFail tracked trackedNext) (orFail step next) := by
  refine h.andThen fun r xs fits => ?_
  cases r with
  | ok a => exact hnext a xs fits
  | error fault =>
    refine .done ?_
    rw [List.append_nil]
    exact failed fault xs fits

theorem ending_follows {Q : Result → List Visit → Prop} {tracked : Operand (Noted σ)}
    {operand : Operand σ} (place : Position) (h : Follows Q tracked operand) :
    Follows (fun r visits => ∃ xs, visits = xs ++ [.ended place r] ∧ Q r xs)
      (ending place tracked) operand := by
  intro state earlier
  obtain ⟨xs, same, calls, fits⟩ := h state earlier
  refine ⟨xs ++ [.ended place (operand state).result], ?_, ?_, xs, rfl, fits⟩
  · simp [ending, same, Run.noted]
  · rw [calls, Visit.calls_append]
    exact (List.append_nil _).symm

theorem invoke_follows (place : Position) (name : String) (f : RuleFunction σ) (args : List Datum) :
    Follows (fun _ visits => visits = [.called place ⟨name, args⟩])
      (invoke name (f.noting place name) args) (invoke name f args) := by
  intro state earlier
  refine ⟨_, ?_, ?_, rfl⟩
  · simp only [invoke, RuleFunction.noting]
    generalize f args state = answer
    obtain ⟨reply, next⟩ := answer
    cases reply <;> rfl
  · simp only [invoke]
    generalize f args state = answer
    obtain ⟨reply, next⟩ := answer
    cases reply <;> rfl

theorem lookUp_follows (ctx : Context σ) (place : Position) (name : String) :
    Follows (fun _ visits => visits = []) (lookUp (ctx.noting place) name) (lookUp ctx name) := by
  unfold lookUp
  have same : (ctx.noting place).field? name = ctx.field? name := rfl
  rw [same]
  split
  · exact .done rfl
  · exact .report _ rfl

end Evaluation

end Verdict
