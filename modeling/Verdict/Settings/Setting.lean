import Verdict.Scalar

set_option autoImplicit false

namespace Verdict

inductive Setting where
  | vacant
  | flag (b : Bool)
  | integer (i : Int)
  | real (x : Binary64)
  | nan
  | text (s : String)
  | list (elements : List Setting)
  | table (members : List (String × Setting))

namespace Setting

def lower (text : List Char) : List Char := text.map Char.toLower

def trueWords : List (List Char) := [['t', 'r', 'u', 'e'], ['o', 'n'], ['y', 'e', 's']]

def falseWords : List (List Char) := [['f', 'a', 'l', 's', 'e'], ['o', 'f', 'f'], ['n', 'o']]

def flagWord? (text : List Char) : Option Bool :=
  if trueWords.contains (lower text) then some true
  else if falseWords.contains (lower text) then some false
  else none

def maxCount : Nat := 0xffffffffffffffff

def toCount? : Setting → Option Nat
  | .flag b => some b.toNat
  | .integer i => if i < 0 then none else some i.toNat
  | .real x => some (min x.roundAway.toNat maxCount)
  | .nan => some 0
  | .text s =>
      match flagWord? s.toList with
      | some b => some b.toNat
      | none => Numeral.word? 64 10 s.toList
  | .vacant | .list _ | .table _ => none

def toFlag? : Setting → Option Bool
  | .flag b => some b
  | .integer i => some (i != 0)
  | .real x => some (x.key != 0)
  | .nan => some true
  | .text s =>
      if s = "1" then some true
      else if s = "0" then some false
      else flagWord? s.toList
  | .vacant | .list _ | .table _ => none

def ofScalar : Scalar → Setting
  | .flag b => .flag b
  | .natural n => .integer n
  | .integer i => .integer i
  | .real x => .real x
  | .nan => .nan

def toText? : Setting → Option String
  | .flag b => some (String.ofList (Datum.boolText b))
  | .integer i => some (String.ofList (Scalar.text (.integer i)))
  | .real x => some (String.ofList (Scalar.text (.real x)))
  | .nan => some (String.ofList (Scalar.text .nan))
  | .text s => some s
  | .vacant | .list _ | .table _ => none

def members : Setting → List (String × Setting)
  | .table ms => ms
  | _ => []

def elements : Setting → List Setting
  | .list xs => xs
  | _ => []

end Setting

end Verdict
