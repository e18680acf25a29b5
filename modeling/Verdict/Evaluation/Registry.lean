import Verdict.Cidr
import Verdict.Datum.Display
import Verdict.Text.Quoted

set_option autoImplicit false

namespace Verdict

inductive Reply where
  | value (d : Datum)
  | fault (message : String)
  -- with the message it broke off with, if that was a text
  | crash (message : Option String)

def crashText : Option String → String
  | some message => message
  | none => "panicked"

abbrev RuleFunction (σ : Type) := List Datum → σ → Reply × σ

namespace RuleFunction

def stateless {σ : Type} (answer : List Datum → Except String Datum) : RuleFunction σ :=
  fun args state =>
    match answer args with
    | .ok d => (.value d, state)
    | .error message => (.fault message, state)

def arityMessage (name : String) (got : Nat) : String :=
  name ++ " expects 2 arguments, got " ++ toString got

def startsWith : List Datum → Except String Datum
  | [value, start] => .ok (.bool (start.display.isPrefixOf value.display))
  | args => .error (arityMessage "starts_with" args.length)

def cidrContains : List Datum → Except String Datum
  | [.str ip, .str cidr] => .ok (.bool (Cidr.inside ip cidr))
  | [_, _] => .ok (.bool false)
  | args => .error (arityMessage "cidr_contains" args.length)

end RuleFunction

structure Registry (σ : Type) where
  entries : List (String × RuleFunction σ)

namespace Registry

variable {σ : Type}

def empty : Registry σ := ⟨[]⟩

def standard : Registry σ :=
  ⟨[("cidr_contains", .stateless RuleFunction.cidrContains),
    ("starts_with", .stateless RuleFunction.startsWith)]⟩

def get? (r : Registry σ) (name : String) : Option (RuleFunction σ) := r.entries.lookup name

def contains (r : Registry σ) (name : String) : Bool := (r.get? name).isSome

def size (r : Registry σ) : Nat := r.entries.length

def isEmpty (r : Registry σ) : Bool := r.entries.isEmpty

def names (r : Registry σ) : List String := r.entries.map Prod.fst

def insertEntry (name : String) (f : RuleFunction σ) :
    List (String × RuleFunction σ) → List (String × RuleFunction σ)
  | [] => [(name, f)]
  | (other, g) :: rest =>
      if name < other then (name, f) :: (other, g) :: rest
      else (other, g) :: insertEntry name f rest

def register? (r : Registry σ) (name : String) (f : RuleFunction σ) : Option (Registry σ) :=
  if r.contains name then none else some ⟨insertEntry name f r.entries⟩

def describe (r : Registry σ) : String :=
  let names := r.names.map fun name => Text.quoted name.toList
  String.ofList ("FunctionRegistry \x7b functions: [".toList ++ Text.joinWith ", ".toList names
    ++ "] \x7d".toList)

end Registry

end Verdict
