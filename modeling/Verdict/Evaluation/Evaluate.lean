import Verdict.Datum.Compare
import Verdict.Datum.Resolve
import Verdict.Evaluation.Outcome
import Verdict.Evaluation.Registry
import Verdict.Evaluation.Step
import Verdict.Rule.Node

set_option autoImplicit false

namespace Verdict

structure Context (σ : Type) where
  record : Datum
  functions : Option (Registry σ)
  patterns : Datum.Patterns

namespace Context

variable {σ : Type}

def field? (ctx : Context σ) (path : String) : Option Datum := ctx.record.resolve? path

def function? (ctx : Context σ) (name : String) : Option (RuleFunction σ) :=
  ctx.functions.bind (·.get? name)

end Context

namespace Evaluation

variable {σ : Type}

abbrev Result := Except EvalFault Datum

abbrev Operand (σ : Type) := Step σ Result

def orFail {α β : Type} (first : Step σ (Except EvalFault α))
    (next : α → Step σ (Except EvalFault β)) : Step σ (Except EvalFault β) :=
  first.andThen fun
    | .ok a => next a
    | .error fault => .done (.error fault)

def passes : Result → Bool
  | .ok d => !d.isZero
  | .error _ => false

def isOk : Result → Bool
  | .ok _ => true
  | .error _ => false

def verdict (b : Bool) : Result := .ok (.bool b)

def negation (operand : Operand σ) : Operand σ :=
  orFail operand fun d => .done (verdict d.isZero)

def conjunct (side : Side) (operand next : Operand σ) : Operand σ :=
  orFail operand fun d =>
    if d.isZero then .report (.andStopped side) (verdict false) else next

def conjunction (left right : Operand σ) : Operand σ :=
  conjunct .left left (conjunct .right right (.done (verdict true)))

/-- What two operands amount to of which neither passes: false if both are ok, else the one that is ok,
else the first failure. -/
def coalesce (left right : Result) : Result :=
  match left, right with
  | .ok _, .ok _ => verdict false
  | .ok d, .error _ => .ok d
  | .error _, .ok d => .ok d
  | .error fault, .error _ => .error fault

def disjunction (left right : Operand σ) : Operand σ :=
  left.andThen fun l =>
    if passes l then .report .orStopped (verdict true)
    else right.andThen fun r =>
      .done (if passes r then verdict true else coalesce l r)

def comparisonEvent? (patterns : Datum.Patterns) (op : Operator) (right : Datum) : Option Event :=
  match op, right with
  | .matching, .str source =>
      if (patterns source).isNone then some (.badPattern source) else none
  | _, _ => none

def comparison (patterns : Datum.Patterns) (op : Operator) (left right : Operand σ) : Operand σ :=
  orFail left fun l => orFail right fun r =>
    let answer := verdict (Datum.compareBy patterns op l r)
    match comparisonEvent? patterns op r with
    | some event => .report event answer
    | none => .done answer

def binary (patterns : Datum.Patterns) (op : Operator) (left right : Operand σ) : Operand σ :=
  match op with
  | .and => conjunction left right
  | .or => disjunction left right
  | op => comparison patterns op left right

def operator (patterns : Datum.Patterns) (op : Operator) (left right : Option (Operand σ)) :
    Operand σ :=
  match op, left, right with
  | .not, _, some operand => negation operand
  | .not, _, none => .done (.error .missingOperand)
  | op, some left, some right => binary patterns op left right
  | op, _, _ => .done (.error (.missingOperands op.name))

def failedCall (name message : String) : Operand σ :=
  .report (.functionFailed name message) (.error (.functionFailed name message))

def invoke (name : String) (f : RuleFunction σ) (args : List Datum) : Operand σ := fun state =>
  let (reply, state) := f args state
  let after : Operand σ := match reply with
    | .value d => .done (.ok d)
    | .fault message => failedCall name message
    | .crash message => failedCall name (crashText message)
  let run := after state
  { run with calls := ⟨name, args⟩ :: run.calls }

def lookUp (ctx : Context σ) (name : String) : Operand σ :=
  match ctx.field? name with
  | some d => .done (.ok d)
  | none => .report (.fieldMissing name) (.error (.missingField name))

def call (ctx : Context σ) (name : String) (args : Step σ (Except EvalFault (List Datum))) :
    Operand σ :=
  match ctx.function? name with
  | some f => orFail args (invoke name f)
  | none => .report (.functionMissing name) (.error (.unknownFunction name))

mutual

def evaluate (ctx : Context σ) : Node → Operand σ
  | .literal _ value => .done (.ok value)
  | .field name => lookUp ctx name
  | .array elements => orFail (evaluateList ctx elements) fun values => .done (.ok (.arr values))
  | .call name args => call ctx name (evaluateList ctx args)
  | .operator op left right =>
      operator ctx.patterns op (evaluateOption ctx left) (evaluateOption ctx right)
  | .unknown => .done (.error .unknownNode)

def evaluateOption (ctx : Context σ) : Option Node → Option (Operand σ)
  | none => none
  | some n => some (evaluate ctx n)

def evaluateList (ctx : Context σ) : List Node → Step σ (Except EvalFault (List Datum))
  | [] => .done (.ok [])
  | n :: rest =>
      orFail (evaluate ctx n) fun value =>
        orFail (evaluateList ctx rest) fun values => .done (.ok (value :: values))

end

end Evaluation

end Verdict
