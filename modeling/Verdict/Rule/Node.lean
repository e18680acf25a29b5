import Verdict.Datum.Basic
import Verdict.Operator

set_option autoImplicit false

namespace Verdict

inductive LiteralKind where
  | int | float | string | bool
  | ip | cidr | bytes | mac
  | null
  | pattern
  | other
deriving DecidableEq

inductive Node where
  | operator (op : Operator) (left right : Option Node)
  | field (name : String)
  | literal (kind : LiteralKind) (value : Datum)
  | array (elements : List Node)
  | call (name : String) (args : List Node)
  | unknown

instance : Inhabited Node := ⟨.unknown⟩

namespace Node

def int (i : Int) : Node := .literal .int (.ofInt i)

def float (x : Binary64) : Node :=
  match Number.ofBinary64? x with
  | some n => .literal .float (.num n)
  | none => .literal .float .null

def string (s : String) : Node := .literal .string (.str s)

def bool (b : Bool) : Node := .literal .bool (.bool b)

def null : Node := .literal .null .null

def pattern (source : String) : Node := .literal .pattern (.str source)

def binary (op : Operator) (left right : Node) : Node := .operator op (some left) (some right)

def not (operand : Node) : Node := .operator .not none (some operand)

def and (left right : Node) : Node := binary .and left right

def or (left right : Node) : Node := binary .or left right

def eq (left right : Node) : Node := binary .eq left right

def children : Node → List Node
  | .operator _ left right => left.toList ++ right.toList
  | .array elements => elements
  | .call _ args => args
  | .field _ | .literal .. | .unknown => []

mutual

def depth : Node → Nat
  | .operator _ left right => 1 + max (depthOption left) (depthOption right)
  | .array elements => 1 + depthList elements
  | .call _ args => 1 + depthList args
  | .field _ | .literal .. | .unknown => 1

def depthOption : Option Node → Nat
  | none => 0
  | some n => depth n

def depthList : List Node → Nat
  | [] => 0
  | n :: rest => max (depth n) (depthList rest)

end

mutual

def count : Node → Nat
  | .operator _ left right => 1 + countOption left + countOption right
  | .array elements => 1 + countList elements
  | .call _ args => 1 + countList args
  | .field _ | .literal .. | .unknown => 1

def countOption : Option Node → Nat
  | none => 0
  | some n => count n

def countList : List Node → Nat
  | [] => 0
  | n :: rest => count n + countList rest

end

def insertName (name : String) : List String → List String
  | [] => [name]
  | other :: rest =>
      if name < other then name :: other :: rest
      else if name = other then other :: rest
      else other :: insertName name rest

mutual

def addFields : Node → List String → List String
  | .operator _ left right, names => addFieldsOption right (addFieldsOption left names)
  | .field name, names => insertName name names
  | .array elements, names => addFieldsList elements names
  | .call _ args, names => addFieldsList args names
  | .literal .., names | .unknown, names => names

def addFieldsOption : Option Node → List String → List String
  | none, names => names
  | some n, names => addFields n names

def addFieldsList : List Node → List String → List String
  | [], names => names
  | n :: rest, names => addFieldsList rest (addFields n names)

end

def requiredFields (root : Node) : List String := addFields root []

mutual

def same : Node → Node → Bool
  | .operator op l r, .operator op' l' r' => op == op' && sameOption l l' && sameOption r r'
  | .field name, .field name' => name == name'
  | .literal kind d, .literal kind' d' => kind == kind' && d.same d'
  | .array xs, .array ys => sameList xs ys
  | .call name xs, .call name' ys => name == name' && sameList xs ys
  | .unknown, .unknown => true
  | _, _ => false

def sameOption : Option Node → Option Node → Bool
  | none, none => true
  | some n, some m => same n m
  | _, _ => false

def sameList : List Node → List Node → Bool
  | [], [] => true
  | n :: rest, m :: more => same n m && sameList rest more
  | _, _ => false

end

end Node

end Verdict
