import Verdict.Datum.Display
import Verdict.Numeral
import Verdict.Operator
import Verdict.Text.Units

set_option autoImplicit false

namespace Verdict

namespace Datum

/-- What a datum counts as beside another one. -/
inductive Weight where
  | number (value : Binary64)
  | text (value : List Char)

def weight? : Datum → Option Weight
  | .null => none
  | .bool b => some (.number (.ofNat b.toNat))
  | .num n => some (.number n.toBinary64)
  | .str s => some (.text s.toList)
  | d => some (.text d.display)

def readsAs (text : List Char) (x : Binary64) : Bool :=
  match Numeral.readTrimmed? (Text.trim text) with
  | some y => y.key == x.key
  | none => false

def Weight.equals : Weight → Weight → Bool
  | .number x, .number y => x.key == y.key
  | .text s, .text t => s == t
  | .number x, .text t => readsAs t x
  | .text s, .number y => readsAs s y

def looseEquals (left right : Datum) : Bool :=
  match weight? left, weight? right with
  | some a, some b => a.equals b
  | none, none => true
  | _, _ => false

mutual

def equals : Datum → Datum → Bool
  | .arr xs, .arr ys => equalsEach xs ys
  | .obj ms, .obj ns => ms.length == ns.length && membersWithin ms ns
  | .arr _, .obj _ | .obj _, .arr _ => false
  | left, right => looseEquals left right

def equalsEach : List Datum → List Datum → Bool
  | [], [] => true
  | x :: xs, y :: ys => equals x y && equalsEach xs ys
  | _, _ => false

def membersWithin : List (String × Datum) → List (String × Datum) → Bool
  | [], _ => true
  | (key, x) :: rest, others =>
      (match others.lookup key with
        | some y => equals x y
        | none => false)
      && membersWithin rest others

end

def compareOrder : Datum → Datum → Option Ordering
  | .num a, .num b => some (compare a.toBinary64.key b.toBinary64.key)
  | .str a, .str b => some (Text.compareUnits a b)
  | _, _ => none

def contains : Datum → Datum → Bool
  | .str haystack, .str needle => Text.occursIn needle.toList haystack.toList
  | .arr elements, item => elements.any (equals · item)
  | .obj members, .str key => (members.lookup key).isSome
  | _, _ => false

/-- A pattern language: a pattern either is none or says which texts it matches. -/
abbrev Patterns := String → Option (List Char → Bool)

mutual

def anyLeaf (accepts : List Char → Bool) : Datum → Bool
  | .arr xs => anyLeafOf accepts xs
  | d => accepts d.display

def anyLeafOf (accepts : List Char → Bool) : List Datum → Bool
  | [] => false
  | d :: rest => anyLeaf accepts d || anyLeafOf accepts rest

end

def matching (patterns : Patterns) (value pattern : Datum) : Bool :=
  match pattern with
  | .str source =>
      match patterns source with
      | some accepts => anyLeaf accepts value
      | none => false
  | _ => false

def compareBy (patterns : Patterns) (op : Operator) (left right : Datum) : Bool :=
  match op with
  | .eq => equals left right
  | .ne => !equals left right
  | .gt => compareOrder left right == some .gt
  | .ge => equals left right || compareOrder left right == some .gt
  | .lt => compareOrder left right == some .lt
  | .le => equals left right || compareOrder left right == some .lt
  | .contains => contains left right
  | .matching => matching patterns left right
  | .isIn => contains right left
  | .and | .or | .not | .other _ => false

end Datum

end Verdict
