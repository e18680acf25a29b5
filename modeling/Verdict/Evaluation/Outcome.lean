import Verdict.Document.Shape
import Verdict.Document.Writer

set_option autoImplicit false

namespace Verdict

inductive EvalFault where
  | missingField (name : String)
  | unknownFunction (name : String)
  | functionFailed (name message : String)
  | unknownNode
  | missingOperand
  | missingOperands (operator : String)
deriving DecidableEq

def EvalFault.message : EvalFault → String
  | .missingField name => "Missing field: " ++ name
  | .unknownFunction name => "Unknown function: " ++ name
  | .functionFailed name message => "Function " ++ name ++ " failed: " ++ message
  | .unknownNode => "Unknown node type"
  | .missingOperand => "not operator requires right operand"
  | .missingOperands operator => operator ++ " requires two operands"

structure Outcome where
  ok : Bool
  value : Datum
  error : Option String

namespace Outcome

def success (value : Datum) : Outcome := ⟨true, value, none⟩

def failure (message : String) : Outcome := ⟨false, .null, some message⟩

def ofResult : Except EvalFault Datum → Outcome
  | .ok value => success value
  | .error fault => failure fault.message

def pass (o : Outcome) : Bool := o.ok && !o.value.isZero

def fail (o : Outcome) : Bool := o.ok && o.value.isZero

def encode (o : Outcome) : Datum :=
  .obj ([("ok", .bool o.ok), ("value", o.value)]
    ++ match o.error with
      | some message => [("error", .str message)]
      | none => [])

def toJson (o : Outcome) : String := String.ofList (Document.write o.encode)

def decodeFlag : Datum → Except ShapeFault Bool
  | .bool b => .ok b
  | d => .error (.wrongType d .flag)

def decodeError : Datum → Except ShapeFault (Option String)
  | .null => .ok none
  | .str s => .ok (some s)
  | d => .error (.wrongType d .text)

structure Parts where
  ok : Option Bool
  value : Option Datum
  error : Option (Option String)

def Parts.finish (parts : Parts) : Except ShapeFault Outcome :=
  match parts.ok, parts.value with
  | none, _ => .error (.missing "ok")
  | some _, none => .error (.missing "value")
  | some ok, some value => .ok ⟨ok, value, parts.error.getD none⟩

def decodeMembers : Parts → List (String × Datum) → Except ShapeFault Outcome
  | parts, [] => parts.finish
  | parts, (key, d) :: rest =>
      if key = "ok" then
        if parts.ok.isSome then .error (.duplicate key)
        else do
          let ok ← decodeFlag d
          decodeMembers { parts with ok := some ok } rest
      else if key = "value" then
        if parts.value.isSome then .error (.duplicate key)
        else decodeMembers { parts with value := some d } rest
      else if key = "error" then
        if parts.error.isSome then .error (.duplicate key)
        else do
          let error ← decodeError d
          decodeMembers { parts with error := some error } rest
      else decodeMembers parts rest

def decode : Datum → Except ShapeFault Outcome
  | .obj members => decodeMembers ⟨none, none, none⟩ members
  | .arr [] => .error (.tooShort 0 .outcome)
  | .arr [ok] => do
      let _ ← decodeFlag ok
      .error (.tooShort 1 .outcome)
  | .arr [ok, value] => do
      let ok ← decodeFlag ok
      return ⟨ok, value, none⟩
  | .arr (ok :: value :: error :: rest) => do
      let ok ← decodeFlag ok
      let error ← decodeError error
      if rest.isEmpty then return ⟨ok, value, error⟩ else .error (.leftOver (3 + rest.length))
  | d => .error (.wrongType d .outcome)

end Outcome

end Verdict
